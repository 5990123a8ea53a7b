import Chalybs.Foundation.Framing
import Chalybs.Foundation.Run
import Mathlib.Data.List.Basic

/-!
# What is on its way

A sender puts things into a queue and a receiver takes them out again, with other steps in between.
If every step conserves them, a run does: what was sent is what was taken, and after it what is
still on its way.

The queue may be a stream of symbols in which a separator ends each line, of which the receiver
gets arbitrary parts.

* `conserved_run` — the rule for runs.
* `InTransit` — the lines of a stream that are on their way.
* `InTransit.send`, `InTransit.receive`, `InTransit.arrived` — what happens to them.
-/

namespace Foundation

section

variable {σ ι μ : Type*} {step : σ → ι → σ} {sent taken : σ → ι → List μ}

/-- **Conservation rule.**  `I s queue` says that the things in the queue are on their way in `s`.
If every step that meets `C` puts what it sends behind them and takes what it takes from the front,
then over a run of such steps what was sent is what was taken and what is left, in order. -/
theorem conserved_run {C : σ → ι → Prop} {I : σ → List μ → Prop}
    (hstep : ∀ s op queue, C s op → I s queue →
      ∃ queue', I (step s op) queue' ∧ queue ++ sent s op = taken s op ++ queue')
    {s : σ} {queue : List μ} (hs : I s queue) {ops : List ι} (hC : Along step C s ops) :
    ∃ queue', I (run step s ops) queue' ∧
      queue ++ trace step sent s ops = trace step taken s ops ++ queue' := by
  induction ops generalizing s queue with
  | nil => exact ⟨queue, hs, by simp [trace]⟩
  | cons op ops ih =>
      obtain ⟨hfirst, hrest⟩ := along_cons.mp hC
      obtain ⟨middle, hmiddle, hone⟩ := hstep s op queue hfirst hs
      obtain ⟨queue', hqueue', hmore⟩ := ih hmiddle hrest
      refine ⟨queue', hqueue', ?_⟩
      calc queue ++ trace step sent s (op :: ops)
        _ = (queue ++ sent s op) ++ trace step sent (step s op) ops := by
            rw [trace, List.append_assoc]
        _ = taken s op ++ (middle ++ trace step sent (step s op) ops) := by
            rw [hone, List.append_assoc]
        _ = trace step taken s (op :: ops) ++ queue' := by
            rw [hmore, trace, List.append_assoc]

end

/-! ## Lines of a stream -/

section

variable {α : Type*} {sep : α} {lines : List (List α)} {held unread : List α}

/-- The lines are on their way: `held` is what the receiver has of them, and `unread` is what it
has not received yet. -/
def InTransit (sep : α) (lines : List (List α)) (held unread : List α) : Prop :=
  frame sep lines = held ++ unread

lemma frame_append (sep : α) (lines lines' : List (List α)) :
    frame sep (lines ++ lines') = frame sep lines ++ frame sep lines' := List.flatMap_append

/-- Nothing is on its way. -/
lemma inTransit_nil (sep : α) : InTransit sep [] [] [] := rfl

/-- A line that is sent comes last. -/
lemma InTransit.send (h : InTransit sep lines held unread) (line : List α) :
    InTransit sep (lines ++ [line]) held (unread ++ (line ++ [sep])) := by
  rw [InTransit] at h ⊢
  rw [frame_append, h, List.append_assoc]
  simp [frame]

/-- **Everything has arrived** when nothing is unread and the receiver has taken all lines out of
what it holds. -/
theorem InTransit.arrived (hheld : sep ∉ held) (h : InTransit sep lines held []) :
    lines = [] := by
  rw [InTransit, List.append_nil] at h
  cases lines with
  | nil => rfl
  | cons line lines =>
      refine absurd ?_ hheld
      rw [← h]
      simp [frame]

variable [DecidableEq α]

/-- The lines of a stream and what follows them are the stream. -/
lemma frame_cutLines (sep : α) (s : List α) :
    frame sep (cutLines sep s).1 ++ (cutLines sep s).2 = s := by
  induction s with
  | nil => rfl
  | cons c cs ih =>
      rw [cutLines]
      split_ifs with hc
      · simpa [frame, hc] using ih
      · cases hlines : (cutLines sep cs).1 with
        | nil =>
            rw [hlines] at ih
            simpa [frame] using ih
        | cons line lines =>
            rw [hlines] at ih
            simpa [frame] using ih

/-- **A part is received**: the lines that it completes are the first ones, and the others are still
on their way. -/
theorem InTransit.receive {part : List α} (hlines : ∀ line ∈ lines, sep ∉ line)
    (h : InTransit sep lines held (part ++ unread)) :
    ∃ rest, lines = (cutLines sep (held ++ part)).1 ++ rest ∧
      InTransit sep rest (cutLines sep (held ++ part)).2 unread := by
  have hcut := cutLines_frame hlines
  rw [InTransit] at h
  rw [h, ← List.append_assoc, cutLines_append] at hcut
  obtain ⟨hfirst, hlast⟩ := Prod.mk.inj hcut
  refine ⟨_, hfirst.symm, ?_⟩
  have hrest := frame_cutLines sep ((cutLines sep (held ++ part)).2 ++ unread)
  rw [hlast, List.append_nil] at hrest
  exact hrest

end

end Foundation
