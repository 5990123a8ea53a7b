import Mathlib.Tactic.Common

/-!
# Computations that may stop with an error and keep the state they reached

`EStateM ε σ α` is a state transformer that ends either with a value or with an error, and in
both cases in the state reached so far: nothing is rolled back.  This is how a program behaves
that returns a `Result` and has side effects.

* `Ends x s Q E` — run from `s`, the computation establishes `Q` if it returns and `E` if it
  stops with an error.  The rules `ends_bind`, `ends_get`, … compute it along a program.
* `bind_eq_ok`, `bind_eq_error` — how a sequence ended, read backwards.
* `outcome` — how a computation ended, without the value or the error.
* `zoom` — a computation on a component of a larger state.
* `Preserves` — a computation keeps a property of the state.
* `Simulates` — two computations on related states end alike, in related states.
-/

namespace Foundation

variable {ε σ τ α β : Type}

/-! ## Pre- and postconditions -/

/-- Run from `s`, the computation returns in a state satisfying `Q`, or it stops with an error in
a state satisfying `E`. -/
def Ends (x : EStateM ε σ α) (s : σ) (Q : α → σ → Prop) (E : ε → σ → Prop) : Prop :=
  match x s with
  | .ok a s' => Q a s'
  | .error e s' => E e s'

variable {x : EStateM ε σ α} {f : α → EStateM ε σ β} {s s' : σ} {Q : β → σ → Prop}
  {E : ε → σ → Prop}

lemma ends_get {P : σ → σ → Prop} : Ends (get : EStateM ε σ σ) s P E ↔ P s s := Iff.rfl

/-- **Sequencing.**  The second computation runs only when the first returns, from the state the
first one left. -/
lemma ends_bind : Ends (x >>= f) s Q E ↔ Ends x s (fun a s' => Ends (f a) s' Q E) E := by
  show (match EStateM.bind x f s with | .ok b s' => Q b s' | .error e s' => E e s') ↔ _
  rw [EStateM.bind, Ends]
  cases x s with
  | ok a s' => exact Iff.rfl
  | error e s' => exact Iff.rfl

/-- **Consequence.**  Postconditions may be weakened. -/
lemma Ends.mono {P P' : α → σ → Prop} {E' : ε → σ → Prop} (h : Ends x s P E)
    (hP : ∀ a s', P a s' → P' a s') (hE : ∀ e s', E e s' → E' e s') : Ends x s P' E' := by
  rw [Ends] at h ⊢
  cases hx : x s with
  | ok a s' => rw [hx] at h; exact hP a s' h
  | error e s' => rw [hx] at h; exact hE e s' h

/-- A computation that returns, with the value and the state. -/
lemma ends_of_ok {P : α → σ → Prop} {a : α} (h : x s = .ok a s') (hP : P a s') :
    Ends x s P E := by
  rw [Ends, h]
  exact hP

/-- What holds by how the computation ended. -/
lemma ends_of_eq {P : α → σ → Prop} (hP : ∀ a s', x s = .ok a s' → P a s')
    (hE : ∀ e s', x s = .error e s' → E e s') : Ends x s P E := by
  rw [Ends]
  cases hx : x s with
  | ok a s' => exact hP a s' hx
  | error e s' => exact hE e s' hx

/-- A computation that cannot return stops with an error. -/
lemma Ends.exists_error (h : Ends x s (fun _ _ => False) E) :
    ∃ e s', x s = .error e s' ∧ E e s' := by
  rw [Ends] at h
  cases hx : x s with
  | ok a s' =>
      rw [hx] at h
      exact h.elim
  | error e s' =>
      rw [hx] at h
      exact ⟨e, s', rfl, h⟩

/-- What holds of every value and every state. -/
lemma ends_of_forall {P : α → σ → Prop} (hP : ∀ a s', P a s') (hE : ∀ e s', E e s') :
    Ends x s P E :=
  ends_of_eq (fun a s' _ => hP a s') fun e s' _ => hE e s'

/-- The computation keeps `P`, whether it returns or stops with an error. -/
def Preserves (P : σ → Prop) (x : EStateM ε σ α) : Prop :=
  ∀ s, P s → Ends x s (fun _ => P) (fun _ => P)

section

variable {P : σ → Prop}

lemma Preserves.bind (hx : Preserves P x) (hf : ∀ a, Preserves P (f a)) :
    Preserves P (x >>= f) := by
  intro s hs
  rw [ends_bind]
  exact (hx s hs).mono (fun a s' hs' => hf a s' hs') fun _ _ hs' => hs'

/-- A sequence whose first part keeps `P` ends as the second part does where `P` holds. -/
lemma Preserves.ends_bind (hx : Preserves P x) (hE : ∀ e s, P s → E e s)
    (hf : ∀ a s, P s → Ends (f a) s Q E) (hs : P s) : Ends (x >>= f) s Q E := by
  rw [Foundation.ends_bind]
  exact (hx s hs).mono (fun a s' hs' => hf a s' hs') fun e s' hs' => hE e s' hs'

lemma Preserves.modify {g : σ → σ} (h : ∀ s, P s → P (g s)) :
    Preserves P (modify g : EStateM ε σ PUnit) := fun s hs => h s hs

lemma Preserves.get : Preserves P (get : EStateM ε σ σ) := fun _ hs => hs

/-- A computation whose errors are translated. -/
lemma ends_adaptExcept {ε' : Type} {g : ε → ε'} {P : α → σ → Prop} {E' : ε' → σ → Prop} :
    Ends (EStateM.adaptExcept g x) s P E' ↔ Ends x s P fun e => E' (g e) := by
  rw [Ends, Ends, EStateM.adaptExcept]
  cases x s <;> rfl

lemma Preserves.adaptExcept {ε' : Type} {f : ε → ε'} (hx : Preserves P x) :
    Preserves P (EStateM.adaptExcept f x) :=
  fun s hs => ends_adaptExcept.mpr (hx s hs)

/-- A loop keeps what each turn keeps. -/
lemma Preserves.forM {f : α → EStateM ε σ PUnit} {as : List α}
    (h : ∀ a ∈ as, Preserves P (f a)) : Preserves P (as.forM f) := by
  induction as with
  | nil => exact fun _ hs => hs
  | cons a as ih =>
      obtain ⟨hfirst, hrest⟩ := List.forall_mem_cons.mp h
      exact hfirst.bind fun _ => ih hrest

lemma Preserves.throw {e : ε} : Preserves P (throw e : EStateM ε σ α) := fun _ hs => hs

end

/-! ## Reading an outcome backwards -/

lemma toOption_eq_some {r : Except ε α} {a : α} : r.toOption = some a ↔ r = .ok a := by
  cases r with
  | ok b => simp [Except.toOption]
  | error e => simp [Except.toOption]

/-- A sequence of pure results returned exactly when both parts did. -/
lemma except_bind_eq_ok {r : Except ε α} {g : α → Except ε β} {b : β} :
    (r >>= g) = .ok b ↔ ∃ a, r = .ok a ∧ g a = .ok b := by
  cases r with
  | ok a => simp [bind, Except.bind]
  | error e => simp [bind, Except.bind]

/-- A check in front of a pure result returned exactly when both did. -/
lemma except_seq_eq_ok {r : Except ε Unit} {r' : Except ε β} {b : β} :
    (r >>= fun _ => r') = .ok b ↔ r = .ok () ∧ r' = .ok b := by
  rw [except_bind_eq_ok]
  constructor
  · rintro ⟨⟨⟩, hr, hr'⟩
    exact ⟨hr, hr'⟩
  · rintro ⟨hr, hr'⟩
    exact ⟨(), hr, hr'⟩

/-- A sequence of pure results stopped with an error exactly when a part did. -/
lemma except_bind_eq_error {r : Except ε α} {g : α → Except ε β} {e : ε} :
    (r >>= g) = .error e ↔ r = .error e ∨ ∃ a, r = .ok a ∧ g a = .error e := by
  cases r with
  | ok a => simp [bind, Except.bind]
  | error e => simp [bind, Except.bind]

/-- A loop of checks returned exactly when every check did. -/
lemma forM_eq_ok {check : α → Except ε Unit} {xs : List α} :
    xs.forM check = .ok () ↔ ∀ x ∈ xs, check x = .ok () := by
  induction xs with
  | nil => exact iff_of_true rfl (by simp)
  | cons x xs ih =>
      show (check x >>= fun _ => xs.forM check) = _ ↔ _
      rw [except_bind_eq_ok, List.forall_mem_cons]
      simp only [ih]
      exact ⟨fun ⟨_, h⟩ => h, fun h => ⟨_, h⟩⟩

/-- A sequence returned exactly when both parts did. -/
lemma bind_eq_ok {b : β} {s'' : σ} :
    (x >>= f) s = .ok b s'' ↔ ∃ a s', x s = .ok a s' ∧ f a s' = .ok b s'' := by
  show EStateM.bind x f s = _ ↔ _
  rw [EStateM.bind]
  cases x s with
  | ok a s' => simp
  | error e s' => simp

/-- A sequence stopped with an error exactly when the first part did, or the first part returned
and the second did. -/
lemma bind_eq_error {e : ε} {s'' : σ} :
    (x >>= f) s = .error e s'' ↔
      x s = .error e s'' ∨ ∃ a s', x s = .ok a s' ∧ f a s' = .error e s'' := by
  show EStateM.bind x f s = _ ↔ _
  rw [EStateM.bind]
  cases x s with
  | ok a s' => simp
  | error e s' => simp

/-! ## Outcomes -/

/-- How a computation ended, without the value or the error: whether it returned, and the state it
left. -/
def outcome (x : EStateM ε σ α) (s : σ) : Bool × σ :=
  match x s with
  | .ok _ s' => (true, s')
  | .error _ s' => (false, s')

lemma outcome_eq_true : outcome x s = (true, s') ↔ ∃ a, x s = .ok a s' := by
  rw [outcome]
  cases x s with
  | ok a s₁ => simp
  | error e s₁ => simp

lemma outcome_eq_false : outcome x s = (false, s') ↔ ∃ e, x s = .error e s' := by
  rw [outcome]
  cases x s with
  | ok a s₁ => simp
  | error e s₁ => simp

lemma outcome_of_ok {a : α} (h : x s = .ok a s') : outcome x s = (true, s') :=
  outcome_eq_true.mpr ⟨a, h⟩

lemma outcome_of_error {e : ε} (h : x s = .error e s') : outcome x s = (false, s') :=
  outcome_eq_false.mpr ⟨e, h⟩

/-- The outcome of a sequence whose first part returns nothing. -/
lemma outcome_seq {x : EStateM ε σ Unit} {y : EStateM ε σ β} :
    outcome (x >>= fun _ => y) s =
      if (outcome x s).1 then outcome y (outcome x s).2 else outcome x s := by
  show (match EStateM.bind x (fun _ => y) s with | .ok _ s' => (true, s') | .error _ s' => _) = _
  rw [EStateM.bind, outcome]
  cases x s with
  | ok a s' => rfl
  | error e s' => rfl

/-- A postcondition that looks at neither the value nor the error is one on the outcome. -/
lemma Ends.outcome {P E : σ → Prop} (h : Ends x s (fun _ => P) (fun _ => E)) :
    if (outcome x s).1 then P (outcome x s).2 else E (outcome x s).2 := by
  rw [Ends] at h
  rw [Foundation.outcome]
  cases hx : x s with
  | ok a s' => rw [hx] at h; exact h
  | error e s' => rw [hx] at h; simpa using h

lemma Ends.outcome_snd {P : σ → Prop} (h : Ends x s (fun _ => P) (fun _ => P)) :
    P (Foundation.outcome x s).2 := by
  have hends := h.outcome
  split_ifs at hends
  · exact hends
  · exact hends

lemma ends_of_outcome_snd {P : σ → Prop} (h : P (Foundation.outcome x s).2) :
    Ends x s (fun _ => P) (fun _ => P) := by
  rw [Foundation.outcome] at h
  rw [Ends]
  cases hx : x s with
  | ok a s' => rwa [hx] at h
  | error e s' => rwa [hx] at h

lemma Preserves.outcome_snd {P : σ → Prop} (h : Preserves P x) (hs : P s) : P (outcome x s).2 :=
  (h s hs).outcome_snd

/-! ## Pure results and components of the state -/

/-- A result computed without touching the state. -/
def fromExcept (r : Except ε α) : EStateM ε σ α := fun s =>
  match r with
  | .ok a => .ok a s
  | .error e => .error e s

lemma fromExcept_eq_ok {r : Except ε α} {a : α} :
    fromExcept r s = .ok a s' ↔ r = .ok a ∧ s' = s := by
  cases r with
  | ok b => simp [fromExcept, eq_comm]
  | error e => simp [fromExcept]

lemma ends_fromExcept {r : Except ε α} {P : α → σ → Prop} :
    Ends (fromExcept r) s P E ↔
      match r with
      | .ok a => P a s
      | .error e => E e s := by
  cases r with
  | ok a => exact Iff.rfl
  | error e => exact Iff.rfl

lemma Preserves.fromExcept {P : σ → Prop} {r : Except ε α} :
    Preserves P (Foundation.fromExcept r) := by
  intro s hs
  rw [ends_fromExcept]
  cases r with
  | ok a => exact hs
  | error e => exact hs

/-- Run a computation on the component of the state that `view` reads and `put` writes back. -/
def zoom (view : τ → σ) (put : σ → τ → τ) (x : EStateM ε σ α) : EStateM ε τ α := fun t =>
  match x (view t) with
  | .ok a s => .ok a (put s t)
  | .error e s => .error e (put s t)

lemma ends_zoom {view : τ → σ} {put : σ → τ → τ} {t : τ} {P : α → τ → Prop}
    {E' : ε → τ → Prop} :
    Ends (zoom view put x) t P E' ↔
      Ends x (view t) (fun a s => P a (put s t)) (fun e s => E' e (put s t)) := by
  rw [Ends, Ends, zoom]
  cases x (view t) with
  | ok a s => exact Iff.rfl
  | error e s => exact Iff.rfl

lemma Preserves.zoom {view : τ → σ} {put : σ → τ → τ} {P : τ → Prop}
    (hx : ∀ t, P t → Preserves (fun s => P (put s t)) x) (hview : ∀ t, put (view t) t = t) :
    Preserves P (Foundation.zoom view put x) := by
  intro t ht
  rw [ends_zoom]
  exact hx t ht (view t) (by simpa only [hview] using ht)

lemma outcome_zoom {view : τ → σ} {put : σ → τ → τ} {t : τ} :
    outcome (zoom view put x) t =
      ((outcome x (view t)).1, put (outcome x (view t)).2 t) := by
  rw [outcome, outcome, zoom]
  cases x (view t) with
  | ok a s => rfl
  | error e s => rfl

/-! ## Simulation -/

/-- From related states, both computations return the same value or both stop with the same error,
and the states they leave are related. -/
def Simulates (R : σ → τ → Prop) (x : EStateM ε σ α) (y : EStateM ε τ α) : Prop :=
  ∀ s t, R s t → Ends x s (fun a s' => ∃ t', y t = .ok a t' ∧ R s' t')
    (fun e s' => ∃ t', y t = .error e t' ∧ R s' t')

section

variable {R : σ → τ → Prop}

lemma Simulates.bind {y : EStateM ε τ α} {g : α → EStateM ε τ β} (h : Simulates R x y)
    (hf : ∀ a, Simulates R (f a) (g a)) : Simulates R (x >>= f) (y >>= g) := by
  intro s t hst
  rw [ends_bind]
  refine (h s t hst).mono ?_ ?_
  · rintro a s' ⟨t', hy, hR⟩
    refine (hf a s' t' hR).mono ?_ ?_
    · rintro b s'' ⟨t'', hg, hR'⟩
      exact ⟨t'', bind_eq_ok.mpr ⟨a, t', hy, hg⟩, hR'⟩
    · rintro e s'' ⟨t'', hg, hR'⟩
      exact ⟨t'', bind_eq_error.mpr (.inr ⟨a, t', hy, hg⟩), hR'⟩
  · rintro e s' ⟨t', hy, hR⟩
    exact ⟨t', bind_eq_error.mpr (.inl hy), hR⟩

lemma Simulates.modify {g : σ → σ} {g' : τ → τ} (h : ∀ s t, R s t → R (g s) (g' t)) :
    Simulates R (modify g : EStateM ε σ PUnit) (modify g') :=
  fun s t hst => ⟨g' t, rfl, h s t hst⟩

lemma Simulates.throw {e : ε} :
    Simulates R (throw e : EStateM ε σ α) (throw e) :=
  fun _ t hst => ⟨t, rfl, hst⟩

lemma Simulates.pure {a : α} : Simulates R (pure a : EStateM ε σ α) (pure a) :=
  fun _ t hst => ⟨t, rfl, hst⟩

lemma Simulates.ite {c : Prop} [Decidable c] {x x' : EStateM ε σ α} {y y' : EStateM ε τ α}
    (h : Simulates R x y) (h' : Simulates R x' y') :
    Simulates R (if c then x else x') (if c then y else y') := by
  split_ifs
  · exact h
  · exact h'

lemma Simulates.fromExcept {r : Except ε α} :
    Simulates R (Foundation.fromExcept r) (Foundation.fromExcept r) := by
  intro s t hst
  rw [ends_fromExcept]
  cases r with
  | ok a => exact ⟨t, rfl, hst⟩
  | error e => exact ⟨t, rfl, hst⟩

lemma Simulates.forM {γ : Type} {f : γ → EStateM ε σ PUnit} {g : γ → EStateM ε τ PUnit}
    (h : ∀ c, Simulates R (f c) (g c)) (cs : List γ) : Simulates R (cs.forM f) (cs.forM g) := by
  induction cs with
  | nil => exact .pure
  | cons c cs ih => exact .bind (h c) fun _ => ih

/-- What follows a look at the state may depend on it. -/
lemma Simulates.get_bind {f : σ → EStateM ε σ β} {g : τ → EStateM ε τ β}
    (h : ∀ s t, R s t → Simulates R (f s) (g t)) : Simulates R (get >>= f) (get >>= g) :=
  fun s t hst => h s t hst s t hst

lemma Simulates.adaptExcept {ε' : Type} {y : EStateM ε τ α} {g : ε → ε'} (h : Simulates R x y) :
    Simulates R (EStateM.adaptExcept g x) (EStateM.adaptExcept g y) := by
  intro s t hst
  refine ends_adaptExcept.mpr ((h s t hst).mono ?_ ?_)
  · rintro a s' ⟨t', hy, hR⟩
    exact ⟨t', by rw [EStateM.adaptExcept, hy], hR⟩
  · rintro e s' ⟨t', hy, hR⟩
    exact ⟨t', by rw [EStateM.adaptExcept, hy], hR⟩

/-- What is known of a computation, and the state that it leaves, is known of one that it
simulates. -/
lemma Simulates.ends {y : EStateM ε τ α} (h : Simulates R x y) {t : τ} (hst : R s t)
    {P : α → τ → Prop} {E' : ε → τ → Prop} (hy : Ends y t P E') :
    Ends x s (fun a s' => ∃ t', R s' t' ∧ (Foundation.outcome y t).2 = t' ∧ P a t')
      fun e s' => ∃ t', R s' t' ∧ (Foundation.outcome y t).2 = t' ∧ E' e t' := by
  refine (h s t hst).mono ?_ ?_
  · rintro a s' ⟨t', hok, hR⟩
    rw [Ends, hok] at hy
    exact ⟨t', hR, by rw [outcome_of_ok hok], hy⟩
  · rintro e s' ⟨t', herr, hR⟩
    rw [Ends, herr] at hy
    exact ⟨t', hR, by rw [outcome_of_error herr], hy⟩

/-- Computations that simulate each other have the same outcome, up to the relation. -/
lemma Simulates.outcome {y : EStateM ε τ α} (h : Simulates R x y) {s : σ} {t : τ} (hst : R s t) :
    (outcome x s).1 = (outcome y t).1 ∧ R (outcome x s).2 (outcome y t).2 := by
  have h := h s t hst
  rw [Ends] at h
  cases hx : x s with
  | ok a s' =>
      rw [hx] at h
      obtain ⟨t', hy, hR⟩ := h
      rw [outcome_of_ok hx, outcome_of_ok hy]
      exact ⟨rfl, hR⟩
  | error e s' =>
      rw [hx] at h
      obtain ⟨t', hy, hR⟩ := h
      rw [outcome_of_error hx, outcome_of_error hy]
      exact ⟨rfl, hR⟩

end

end Foundation
