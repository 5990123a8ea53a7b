import Chalybs.Foundation.Fallible
import Mathlib.Logic.Function.Basic

/-!
# Writes that are not taken back

A store is changed by one write after the other.  The host may refuse a write, which ends the
sequence; the writes before it stay.

* `overwrite`, `overwrite_eq_iff` — the store after some writes, and when it is still the same.
* `Carries`, `Stops` — what the host does with a sequence; `carries_or_stops` says it does either.
* `Overwrites` — a program that performs a write on the store.
* `forM_of_carries`, `forM_of_stops` — what a loop over the writes leaves.
-/

namespace Foundation

variable {κ β ε ρ : Type}

/-! ## The store -/

section

variable [DecidableEq κ]

/-- The store after the writes. -/
def overwrite (m : κ → Option β) (ws : List (κ × β)) : κ → Option β :=
  ws.foldl (fun m w => Function.update m w.1 (some w.2)) m

variable {m : κ → Option β} {w : κ × β} {ws : List (κ × β)} {k : κ}

@[simp] lemma overwrite_nil : overwrite m [] = m := rfl

@[simp] lemma overwrite_cons :
    overwrite m (w :: ws) = overwrite (Function.update m w.1 (some w.2)) ws := rfl

/-- What is not written stays. -/
lemma overwrite_of_not_mem (h : k ∉ ws.map Prod.fst) : overwrite m ws k = m k := by
  induction ws generalizing m with
  | nil => rfl
  | cons w ws ih =>
      rw [List.map_cons, List.mem_cons, not_or] at h
      rw [overwrite_cons, ih h.2, Function.update_of_ne h.1]

/-- What is written once is there. -/
lemma overwrite_of_mem (hnodup : (ws.map Prod.fst).Nodup) (h : w ∈ ws) :
    overwrite m ws w.1 = some w.2 := by
  induction ws generalizing m with
  | nil => exact absurd h List.not_mem_nil
  | cons first ws ih =>
      rw [List.map_cons, List.nodup_cons] at hnodup
      rw [overwrite_cons]
      rcases List.mem_cons.mp h with rfl | h
      · rw [overwrite_of_not_mem hnodup.1, Function.update_self]
      · exact ih hnodup.2 h

/-- **Nothing has changed** exactly if the writes put what was there. -/
lemma overwrite_eq_iff (hnodup : (ws.map Prod.fst).Nodup) {ks : List κ}
    (hks : ∀ w ∈ ws, w.1 ∈ ks) :
    (∀ k ∈ ks, overwrite m ws k = m k) ↔ ∀ w ∈ ws, m w.1 = some w.2 := by
  constructor
  · intro h w hw
    rw [← h w.1 (hks w hw), overwrite_of_mem hnodup hw]
  · intro h k hk
    by_cases hmem : k ∈ ws.map Prod.fst
    · obtain ⟨w, hw, rfl⟩ := List.mem_map.mp hmem
      rw [overwrite_of_mem hnodup hw, h w hw]
    · exact overwrite_of_not_mem hmem

end

/-! ## The host -/

/-- The host carries out all the writes. -/
def Carries (write : κ → β → EStateM ε ρ Unit) : List (κ × β) → ρ → ρ → Prop
  | [], r, r' => r = r'
  | w :: ws, r, r' => ∃ r₁, write w.1 w.2 r = .ok () r₁ ∧ Carries write ws r₁ r'

/-- The host carries out the first writes and refuses the next one. -/
def Stops (write : κ → β → EStateM ε ρ Unit) (ws pre : List (κ × β)) (r : ρ) (e : ε) (r' : ρ) :
    Prop :=
  ∃ w post r₁, ws = pre ++ w :: post ∧ Carries write pre r r₁ ∧ write w.1 w.2 r₁ = .error e r'

variable {write : κ → β → EStateM ε ρ Unit} {ws pre : List (κ × β)} {r r' : ρ} {e : ε}

lemma carries_or_stops (write : κ → β → EStateM ε ρ Unit) (ws : List (κ × β)) (r : ρ) :
    (∃ r', Carries write ws r r') ∨ ∃ pre e r', Stops write ws pre r e r' := by
  induction ws generalizing r with
  | nil => exact .inl ⟨r, rfl⟩
  | cons w ws ih =>
      cases hw : write w.1 w.2 r with
      | error e r₁ => exact .inr ⟨[], e, r₁, w, ws, r, rfl, rfl, hw⟩
      | ok a r₁ =>
          rcases ih r₁ with ⟨r', hr'⟩ | ⟨pre, e, r', w', post, r₂, rfl, hpre, he⟩
          · exact .inl ⟨r', r₁, hw, hr'⟩
          · exact .inr ⟨w :: pre, e, r', w', post, r₂, rfl, ⟨r₁, hw, hpre⟩, he⟩

section

variable [DecidableEq κ]

/-- The program performs a write on the store, which is part of its state. -/
structure Overwrites {σ ε' : Type} (write : κ → β → EStateM ε ρ Unit)
    (mk : (κ → Option β) → ρ → σ) (f : ε → ε') (step : κ × β → EStateM ε' σ Unit) : Prop where
  ok : ∀ m w r r', write w.1 w.2 r = .ok () r' →
    step w (mk m r) = .ok () (mk (Function.update m w.1 (some w.2)) r')
  error : ∀ m w r e r', write w.1 w.2 r = .error e r' → step w (mk m r) = .error (f e) (mk m r')

variable {σ ε' : Type} {mk : (κ → Option β) → ρ → σ} {f : ε → ε'} {step : κ × β → EStateM ε' σ Unit}

/-- **A sequence that is carried out.** -/
lemma forM_of_carries (hstep : Overwrites write mk f step) (h : Carries write ws r r')
    (m : κ → Option β) : forM ws step (mk m r) = .ok () (mk (overwrite m ws) r') := by
  induction ws generalizing m r with
  | nil =>
      obtain rfl : r = r' := h
      rfl
  | cons w ws ih =>
      obtain ⟨r₁, hw, hws⟩ := h
      rw [List.forM_cons]
      exact bind_eq_ok.mpr ⟨_, _, hstep.ok m w r r₁ hw, ih hws _⟩

/-- **A sequence that is refused** on the way leaves the writes before. -/
lemma forM_of_stops (hstep : Overwrites write mk f step) (h : Stops write ws pre r e r')
    (m : κ → Option β) : forM ws step (mk m r) = .error (f e) (mk (overwrite m pre) r') := by
  obtain ⟨w, post, r₁, rfl, hpre, he⟩ := h
  rw [List.forM_append, List.forM_cons]
  refine bind_eq_error.mpr (.inr ⟨_, _, forM_of_carries hstep hpre m, ?_⟩)
  exact bind_eq_error.mpr (.inl (hstep.error _ w r₁ e r' he))

end

end Foundation
