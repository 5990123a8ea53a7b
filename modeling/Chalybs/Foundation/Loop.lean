import Chalybs.Foundation.Fallible

/-!
# Loops that end

A loop runs its body until the body returns something or stops with an error.  It is defined for
bodies that come closer to the end, by some measure of the state, each time they ask to be run
again.

* `loop` — the loop.
* `ends_loop` — the rule: what the body keeps when it asks to be run again, and what it establishes
  when it does not.
-/

namespace Foundation

variable {ε σ β : Type}

/-- Run the body until it returns something; after `none` it is run again. -/
def loop (body : EStateM ε σ (Option β)) (μ : σ → ℕ)
    (hμ : ∀ s s', body s = .ok none s' → μ s' < μ s) (s : σ) : EStateM.Result ε σ β :=
  match _ : body s with
  | .ok (some b) s' => .ok b s'
  | .ok none s' => loop body μ hμ s'
  | .error e s' => .error e s'
termination_by μ s
decreasing_by exact hμ s s' (by assumption)

variable {body : EStateM ε σ (Option β)} {μ : σ → ℕ}
  {hμ : ∀ s s', body s = .ok none s' → μ s' < μ s} {s : σ} {Q : β → σ → Prop} {E : ε → σ → Prop}

/-- One turn of the loop. -/
lemma loop_eq : loop body μ hμ s =
    match body s with
    | .ok (some b) s' => .ok b s'
    | .ok none s' => loop body μ hμ s'
    | .error e s' => .error e s' := by
  rw [loop]
  split <;> simp_all

/-- **Invariant rule.**  If the body keeps `I` whenever it asks to be run again, and from `I` it
establishes `Q` when it returns something and `E` when it stops with an error, so does the loop. -/
theorem ends_loop {I : σ → Prop} (hs : I s)
    (hbody : ∀ s, I s → Ends body s (fun r s' => match r with
      | some b => Q b s'
      | none => I s') E) : Ends (loop body μ hμ) s Q E := by
  have hturn := hbody s hs
  unfold Ends at hturn ⊢
  rw [loop_eq]
  induction s using loop.induct body μ hμ with
  | case1 s b s' hr => rwa [hr] at hturn ⊢
  | case2 s s' hr ih =>
      rw [hr] at hturn ⊢
      have hnext := hbody s' hturn
      rw [Ends] at hnext
      dsimp only
      rw [loop_eq]
      exact ih hturn hnext
  | case3 s e s' hr => rwa [hr] at hturn ⊢

end Foundation
