import Chalybs.Foundation.Run
import Mathlib.Data.List.Chain

/-!
# Refinement of a labelled transition relation

An abstract model is a relation: which state may follow which, under a label that says what can be
observed of the step.  A system refines it if each of its steps, seen through an abstraction
function, is a step of the model.

* `Path` — a sequence of steps of the model, with its labels.
* `Refines`, `Refines.path` — every run of a system that refines the model is a path of it.
* `Path.isChain` — what is observed along a path, one observation after the other.
* `run_expand`, `trace_expand` — a system whose steps are made of several steps of another one.
-/

namespace Foundation

variable {σ ι α β ω : Type*}

/-- The labels `ls` lead from one state of the model to another. -/
inductive Path (next : α → β → α → Prop) : α → List β → α → Prop
  | nil (a : α) : Path next a [] a
  | cons {a b c : α} {l : β} {ls : List β} : next a l b → Path next b ls c →
      Path next a (l :: ls) c

variable {next : α → β → α → Prop}

/-- **Observation rule.**  `Since v a` relates the last observation to the state.  If steps without
an observation keep it, and those with one lead from the last observation to the next as `R` says,
then the observations along a path are a chain of `R`. -/
theorem Path.isChain {C : β → Prop} {R : ω → ω → Prop} {obs : β → Option ω}
    (Since : ω → α → Prop)
    (hsilent : ∀ v a l b, C l → next a l b → obs l = none → Since v a → Since v b)
    (hshown : ∀ v a l b w, C l → next a l b → obs l = some w → Since v a → R v w ∧ Since w b)
    {a b : α} {ls : List β} (h : Path next a ls b) (hls : ∀ l ∈ ls, C l) {v : ω}
    (hv : Since v a) : (v :: ls.filterMap obs).IsChain R := by
  induction h generalizing v with
  | nil a => exact .singleton v
  | @cons a b c l ls hnext _ ih =>
      rw [List.forall_mem_cons] at hls
      cases hobs : obs l with
      | none =>
          rw [List.filterMap_cons, hobs]
          exact ih hls.2 (hsilent v a l b hls.1 hnext hobs hv)
      | some w =>
          obtain ⟨hR, hw⟩ := hshown v a l b w hls.1 hnext hobs hv
          rw [List.filterMap_cons, hobs]
          exact .cons_cons hR (ih hls.2 hw)

/-- The steps of a system that keep `I`, seen through `abs` and with the labels `label`, are steps
of the model. -/
structure Refines (step : σ → ι → σ) (label : σ → ι → β) (abs : σ → α) (I : σ → Prop)
    (next : α → β → α → Prop) : Prop where
  keeps : ∀ s op, I s → I (step s op)
  step : ∀ s op, I s → next (abs s) (label s op) (abs (step s op))

/-- **Every run** of a system that refines the model is a path of it. -/
theorem Refines.path {step : σ → ι → σ} {label : σ → ι → β} {abs : σ → α} {I : σ → Prop}
    (h : Refines step label abs I next) {s : σ} (hs : I s) (ops : List ι) :
    Path next (abs s) (trace step (fun s op => [label s op]) s ops) (abs (run step s ops)) := by
  induction ops generalizing s with
  | nil => exact .nil _
  | cons op ops ih => exact .cons (h.step s op hs) (ih (h.keeps s op hs))

/-! ## Steps that are made of several -/

section

variable {τ κ : Type*} {step : σ → ι → σ} {step' : τ → κ → τ} (abs : σ → τ)
  {expand : σ → ι → List κ}

/-- **Every run** of a system whose steps are runs of another one is a run of that one, -/
theorem run_expand (hstep : ∀ s op, abs (step s op) = run step' (abs s) (expand s op)) (s : σ)
    (ops : List ι) : abs (run step s ops) = run step' (abs s) (trace step expand s ops) := by
  induction ops generalizing s with
  | nil => rfl
  | cons op ops ih => rw [run_cons, ih, hstep, trace, run_append]

/-- and what is observed along it is observed along that one. -/
theorem trace_expand {obs : σ → ι → List ω} {obs' : τ → κ → List ω}
    (hstep : ∀ s op, abs (step s op) = run step' (abs s) (expand s op))
    (hobs : ∀ s op, trace step' obs' (abs s) (expand s op) = obs s op) (s : σ) (ops : List ι) :
    trace step' obs' (abs s) (trace step expand s ops) = trace step obs s ops := by
  induction ops generalizing s with
  | nil => rfl
  | cons op ops ih => rw [trace, trace_append, hobs, ← hstep, ih, trace]

end

end Foundation
