import Mathlib.Data.List.Basic
import Mathlib.Data.List.Induction

/-!
# Runs of a deterministic system

A system is a step function `σ → ι → σ`; a run is the fold of the step over a list of
operations.  Whatever a step may depend on from outside (the outcome of a call, a message) is
part of the operation, so a statement over all lists of operations is a statement over all
interleavings and all outcomes.

* `run` — the state a list of operations leads to.
* `Along` — every operation of a run meets a condition on the state it was applied in.
* `run_invariant`, `run_invariant_along` — the two induction rules: an invariant of the step is
  an invariant of every run, and one that needs a condition holds along the runs that meet it.
* `along_iff_forall_prefix` — a condition on the steps that is exact for a property of the states.
* `trace` — what is observed along a run, with `trace_invariant` as its induction rule.
-/

namespace Foundation

variable {σ ι ω : Type*}

/-- The state that the operations `ops` lead to from `s`. -/
def run (step : σ → ι → σ) (s : σ) (ops : List ι) : σ := ops.foldl step s

variable (step : σ → ι → σ)

@[simp] lemma run_nil (s : σ) : run step s [] = s := rfl

@[simp] lemma run_cons (s : σ) (op : ι) (ops : List ι) :
    run step s (op :: ops) = run step (step s op) ops := rfl

lemma run_append (s : σ) (ops ops' : List ι) :
    run step s (ops ++ ops') = run step (run step s ops) ops' := List.foldl_append

@[simp] lemma run_snoc (s : σ) (ops : List ι) (op : ι) :
    run step s (ops ++ [op]) = step (run step s ops) op := by
  rw [run_append, run_cons, run_nil]

/-- Every operation of the run meets `C` in the state it is applied in. -/
def Along (C : σ → ι → Prop) (s : σ) (ops : List ι) : Prop :=
  ∀ pre op post, ops = pre ++ op :: post → C (run step s pre) op

variable {step}

lemma along_nil (C : σ → ι → Prop) (s : σ) : Along step C s [] := by
  intro pre op post h
  exact absurd h (by simp)

/-- A run meets the condition when its first operation does and the run after it does. -/
lemma along_cons {C : σ → ι → Prop} {s : σ} {op : ι} {ops : List ι} :
    Along step C s (op :: ops) ↔ C s op ∧ Along step C (step s op) ops := by
  constructor
  · intro h
    refine ⟨h [] op ops rfl, ?_⟩
    rintro pre op' post rfl
    exact h (op :: pre) op' post rfl
  · rintro ⟨hfirst, hrest⟩ pre op' post heq
    cases pre with
    | nil =>
        obtain ⟨rfl, -⟩ := List.cons.inj heq
        exact hfirst
    | cons first pre =>
        obtain ⟨rfl, rfl⟩ := List.cons.inj heq
        exact hrest pre op' post rfl

/-- A run meets the condition when its operations before the last do and the last one does. -/
lemma along_snoc {C : σ → ι → Prop} {s : σ} {ops : List ι} {op : ι} :
    Along step C s (ops ++ [op]) ↔ Along step C s ops ∧ C (run step s ops) op := by
  constructor
  · intro h
    refine ⟨?_, h ops op [] rfl⟩
    rintro pre op' post rfl
    exact h pre op' (post ++ [op]) (by simp)
  · rintro ⟨hpre, hlast⟩ pre op' post heq
    rcases List.eq_nil_or_concat post with rfl | ⟨post', last, rfl⟩
    · obtain ⟨rfl, hop⟩ := List.append_inj' heq rfl
      obtain rfl : op = op' := by simpa using hop
      exact hlast
    · refine hpre pre op' post' ?_
      have hsplit : ops ++ [op] = (pre ++ op' :: post') ++ [last] := by simpa using heq
      exact (List.append_inj' hsplit rfl).1

lemma Along.of_prefix {C : σ → ι → Prop} {s : σ} {pre ops : List ι} (h : Along step C s ops)
    (hpre : pre <+: ops) : Along step C s pre := by
  obtain ⟨rest, rfl⟩ := hpre
  rintro before op after rfl
  exact h before op (after ++ rest) (by simp)

/-- Whether a run meets a condition can be computed along it. -/
instance decidableAlong {C : σ → ι → Prop} [∀ s op, Decidable (C s op)] (s : σ) :
    (ops : List ι) → Decidable (Along step C s ops)
  | [] => .isTrue (along_nil C s)
  | op :: ops =>
      have := decidableAlong (C := C) (step s op) ops
      decidable_of_iff (C s op ∧ Along step C (step s op) ops) along_cons.symm

/-- A run meets a condition that its operations meet in every state. -/
lemma along_of_mem {C : σ → ι → Prop} {s : σ} {ops : List ι} (h : ∀ op ∈ ops, ∀ s, C s op) :
    Along step C s ops := by
  rintro pre op post rfl
  exact h op (by simp) _

/-- An operation that meets the condition in every state may be repeated. -/
lemma along_replicate {C : σ → ι → Prop} {op : ι} (h : ∀ s, C s op) {s : σ} {n : ℕ} :
    Along step C s (List.replicate n op) :=
  along_of_mem fun op' hmem => by
    rw [List.eq_of_mem_replicate hmem]
    exact h

/-- **Invariant rule.**  What holds at the start and is kept by every step holds after every
run. -/
theorem run_invariant {I : σ → Prop} (hstep : ∀ s op, I s → I (step s op)) {s : σ}
    (hs : I s) (ops : List ι) : I (run step s ops) := by
  induction ops generalizing s with
  | nil => exact hs
  | cons op ops ih => exact ih (hstep s op hs)

/-- **Conditional invariant rule.**  What holds at the start and is kept by every step that
meets `C` holds after every run all of whose steps meet `C`. -/
theorem run_invariant_along {C : σ → ι → Prop} {I : σ → Prop}
    (hstep : ∀ s op, I s → C s op → I (step s op)) {s : σ} (hs : I s) {ops : List ι}
    (hC : Along step C s ops) : I (run step s ops) := by
  induction ops using List.reverseRecOn with
  | nil => exact hs
  | append_singleton ops op ih =>
      obtain ⟨hpre, hlast⟩ := along_snoc.mp hC
      rw [run_snoc]
      exact hstep _ op (ih hpre) hlast

/-- A condition that holds wherever an invariant does holds along the whole run. -/
theorem along_of_invariant {C D : σ → ι → Prop} {I : σ → Prop}
    (hstep : ∀ s op, I s → C s op → I (step s op)) (hD : ∀ s op, I s → C s op → D s op) {s : σ}
    (hs : I s) {ops : List ι} (hC : Along step C s ops) : Along step D s ops := by
  induction ops generalizing s with
  | nil => exact along_nil D s
  | cons op ops ih =>
      obtain ⟨hfirst, hrest⟩ := along_cons.mp hC
      exact along_cons.mpr ⟨hD s op hs hfirst, ih (hstep s op hs hfirst) hrest⟩

/-- Two conditions that agree wherever an invariant holds are met by the same runs. -/
theorem along_iff_along {C D : σ → ι → Prop} {I : σ → Prop}
    (hstep : ∀ s op, I s → C s op → I (step s op)) (hiff : ∀ s op, I s → (C s op ↔ D s op)) {s : σ}
    (hs : I s) (ops : List ι) : Along step C s ops ↔ Along step D s ops := by
  induction ops generalizing s with
  | nil => exact iff_of_true (along_nil C s) (along_nil D s)
  | cons op ops ih =>
      rw [along_cons, along_cons, ← hiff s op hs]
      exact and_congr_right fun hfirst => ih (hstep s op hs hfirst)

/-- **Exactness rule.**  If a step breaks `J` exactly when it does not meet `C`, and the steps that
meet `C` keep the invariant that this rests on, then `J` holds throughout exactly the runs all of
whose steps meet `C`. -/
theorem along_iff_forall_prefix {C : σ → ι → Prop} {I J : σ → Prop} (hJ : ∀ s, I s → J s)
    (hexact : ∀ s op, I s → (C s op ↔ J (step s op)))
    (hstep : ∀ s op, I s → C s op → I (step s op)) {s : σ} (hs : I s) (ops : List ι) :
    Along step C s ops ↔ ∀ pre, pre <+: ops → J (run step s pre) := by
  induction ops generalizing s with
  | nil =>
      refine iff_of_true (along_nil C s) fun pre hpre => ?_
      rw [List.prefix_nil.mp hpre]
      exact hJ s hs
  | cons op ops ih =>
      rw [along_cons]
      constructor
      · rintro ⟨hfirst, hrest⟩ pre hpre
        rcases List.prefix_cons_iff.mp hpre with rfl | ⟨pre', rfl, hpre'⟩
        · exact hJ s hs
        · exact (ih (hstep s op hs hfirst)).mp hrest pre' hpre'
      · intro h
        have hfirst : C s op := (hexact s op hs).mpr (h [op] ⟨ops, rfl⟩)
        refine ⟨hfirst, (ih (hstep s op hs hfirst)).mpr fun pre hpre => ?_⟩
        exact h (op :: pre) (List.cons_prefix_cons.mpr ⟨rfl, hpre⟩)

/-! ## Observations -/

/-- What `obs` observes of the steps of a run, in order. -/
def trace (step : σ → ι → σ) (obs : σ → ι → List ω) : σ → List ι → List ω
  | _, [] => []
  | s, op :: ops => obs s op ++ trace step obs (step s op) ops

variable {obs : σ → ι → List ω}

/-- **Observation rule.**  A relation between the state and what was observed so far that every
step keeps holds after every run. -/
theorem trace_invariant {I : σ → List ω → Prop}
    (hstep : ∀ s seen op, I s seen → I (step s op) (seen ++ obs s op)) {s : σ}
    {seen : List ω} (hs : I s seen) (ops : List ι) :
    I (run step s ops) (seen ++ trace step obs s ops) := by
  induction ops generalizing s seen with
  | nil => simpa [trace] using hs
  | cons op ops ih =>
      rw [trace, ← List.append_assoc]
      exact ih (hstep s seen op hs)

/-- **Conditional observation rule.**  Such a relation that the steps that meet `C` keep holds after
every run all of whose steps meet `C`. -/
theorem trace_invariant_along {C : σ → ι → Prop} {I : σ → List ω → Prop}
    (hstep : ∀ s seen op, C s op → I s seen → I (step s op) (seen ++ obs s op)) {s : σ}
    {seen : List ω} (hs : I s seen) {ops : List ι} (hC : Along step C s ops) :
    I (run step s ops) (seen ++ trace step obs s ops) := by
  induction ops generalizing s seen with
  | nil => simpa [trace] using hs
  | cons op ops ih =>
      obtain ⟨hfirst, hrest⟩ := along_cons.mp hC
      rw [trace, ← List.append_assoc]
      exact ih (hstep s seen op hfirst hs) hrest

lemma trace_append (s : σ) (ops ops' : List ι) :
    trace step obs s (ops ++ ops') =
      trace step obs s ops ++ trace step obs (run step s ops) ops' := by
  induction ops generalizing s with
  | nil => rfl
  | cons op ops ih => rw [List.cons_append, trace, trace, ih, run_cons, List.append_assoc]

/-- What is observed was observed of one step, in the state that the steps before it lead to. -/
theorem mem_trace {s : σ} {ops : List ι} {o : ω} :
    o ∈ trace step obs s ops ↔
      ∃ pre op post, ops = pre ++ op :: post ∧ o ∈ obs (run step s pre) op := by
  induction ops generalizing s with
  | nil => simp [trace]
  | cons first ops ih =>
      rw [trace, List.mem_append, ih]
      constructor
      · rintro (hfirst | ⟨pre, op, post, rfl, ho⟩)
        · exact ⟨[], first, ops, rfl, hfirst⟩
        · exact ⟨first :: pre, op, post, rfl, ho⟩
      · rintro ⟨pre, op, post, hops, ho⟩
        cases pre with
        | nil =>
            obtain ⟨rfl, rfl⟩ := List.cons.inj hops
            exact .inl ho
        | cons head pre =>
            obtain ⟨rfl, rfl⟩ := List.cons.inj hops
            exact .inr ⟨pre, op, post, rfl, ho⟩

/-- What is made from each observation is observed, too. -/
lemma map_trace {κ : Type*} (f : ω → κ) (s : σ) (ops : List ι) :
    (trace step obs s ops).map f = trace step (fun s op => (obs s op).map f) s ops := by
  induction ops generalizing s with
  | nil => rfl
  | cons op ops ih => rw [trace, trace, List.map_append, ih]

end Foundation
