import Chalybs.Foundation.Run

/-!
# Parties that share a state

A system has parties, each with a state of its own, and a state that all of them share.  A step
moves some of the parties, and changes the shared state only as a relation `G` allows.  What a
party needs of the shared state is safe from the others if `G` keeps it.

* `Everyone` — every party has what it needs.
* `Guarantees` — a step changes the shared state as `G` allows, and the parties that it moves have
  what they need afterwards.
* `everyone_run` — the rule: what everyone has at the start, everyone has after every run.
-/

namespace Foundation

variable {S ι κ σ ο : Type*}

/-- A system with parties `ι` in states `κ` that share a state `σ`. -/
structure Parties (S ι κ σ : Type*) where
  party : S → ι → Option κ
  shared : S → σ

namespace Parties

variable (sys : Parties S ι κ σ)

/-- Every party has what it needs of the shared state. -/
def Everyone (P : ι → σ → κ → Prop) (s : S) : Prop :=
  ∀ i k, sys.party s i = some k → P i (sys.shared s) k

/-- The step from `s` to `s'` changes the shared state as `G` allows, and leaves every party as it
was or with what it needs. -/
structure Guarantees (P : ι → σ → κ → Prop) (G : σ → σ → Prop) (s s' : S) : Prop where
  shared : G (sys.shared s) (sys.shared s')
  party : ∀ i k, sys.party s' i = some k → sys.party s i = some k ∨ P i (sys.shared s') k

variable {sys} {P : ι → σ → κ → Prop} {G : σ → σ → Prop}

/-- **Step.**  Whoever was not moved has what it needs because the change keeps it. -/
lemma Guarantees.everyone {s s' : S} (h : sys.Guarantees P G s s')
    (hstable : ∀ i w w' k, P i w k → G w w' → P i w' k) (hs : sys.Everyone P s) :
    sys.Everyone P s' := by
  intro i k hk
  rcases h.party i k hk with hsame | hmoved
  · exact hstable i _ _ k (hs i k hsame) h.shared
  · exact hmoved

/-- **Runs.**  If the steps that meet `C` guarantee `G`, and `G` keeps what the parties need, then
after every run of such steps everyone has what it needs, and the shared state has changed as `G`
allows. -/
theorem everyone_run {step : S → ο → S} {C : ο → Prop} (hrefl : ∀ w, G w w)
    (htrans : ∀ w w' w'', G w w' → G w' w'' → G w w'')
    (hstable : ∀ i w w' k, P i w k → G w w' → P i w' k)
    (hstep : ∀ s op, C op → sys.Everyone P s → sys.Guarantees P G s (step s op)) {s : S}
    (hs : sys.Everyone P s) {ops : List ο} (hops : ∀ op ∈ ops, C op) :
    sys.Everyone P (run step s ops) ∧ G (sys.shared s) (sys.shared (run step s ops)) := by
  induction ops generalizing s with
  | nil => exact ⟨hs, hrefl _⟩
  | cons op ops ih =>
      rw [List.forall_mem_cons] at hops
      have hone := hstep s op hops.1 hs
      obtain ⟨hall, hG⟩ := ih (hone.everyone hstable hs) hops.2
      exact ⟨hall, htrans _ _ _ hone.shared hG⟩

end Parties

end Foundation
