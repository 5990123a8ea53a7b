import Chalybs.Tui.App

/-!
# The events panel

`draw_events_panel` (`tui/src/ui.rs`) shows a slice of the buffer, which it places by an offset from
the newest event.

* `eventsSlice`, `shown` — the slice, and the events in it with their numbers.
* `view_of_run` — after any operations, the slice is one of the buffer and fills the panel.
* `locked_window_iff` — when a locked panel goes on to show the same events.
-/

namespace Chalybs.Tui

open Foundation

namespace App

/-! ## The slice -/

/-- `view_len`. -/
def viewLen (app : App) (height : ℕ) : ℕ := min app.events.length height

/-- `offset`. -/
def viewOffset (app : App) (height : ℕ) : ℕ :=
  if app.eventsScrollLocked then
    min app.eventsScrollOffset (app.events.length - app.viewLen height)
  else 0

/-- `start..end` in `draw_events_panel`, for a panel of so many rows; without events or rows,
nothing is sliced. -/
def eventsSlice (app : App) (height : ℕ) : Option (ℕ × ℕ) :=
  if app.events.isEmpty then none
  else if height = 0 then none
  else
    let stop := app.events.length - app.viewOffset height
    some (stop - app.viewLen height, stop)

/-- The events in the panel, with their numbers if those in the buffer are numbered from
`evicted` on. -/
def shown (app : App) (evicted height : ℕ) : List (AppEvent × ℕ) :=
  match app.eventsSlice height with
  | none => []
  | some (start, stop) => portion start stop (app.events.zipIdx evicted)

/-- `window`. -/
def eventsWindow (app : App) (height : ℕ) : List AppEvent :=
  match app.eventsSlice height with
  | none => []
  | some (start, stop) => portion start stop app.events

variable {app : App}

lemma eventsSlice_bounds {height start stop : ℕ}
    (h : app.eventsSlice height = some (start, stop)) :
    start ≤ stop ∧ stop ≤ app.events.length := by
  simp only [eventsSlice] at h
  split_ifs at h
  obtain ⟨rfl, rfl⟩ := Prod.mk.inj (Option.some.inj h)
  exact ⟨Nat.sub_le _ _, Nat.sub_le _ _⟩

/-- The slice ends no more than the rest of the buffer before its end. -/
lemma viewOffset_le (app : App) (height : ℕ) :
    app.viewOffset height + app.viewLen height ≤ app.events.length := by
  have hle : app.viewLen height ≤ app.events.length := Nat.min_le_left _ _
  rw [viewOffset]
  split_ifs
  · omega
  · omega

/-- What is shown is the slice, also where there is none. -/
lemma shown_eq (app : App) (evicted height : ℕ) :
    app.shown evicted height =
      portion (app.events.length - app.viewOffset height - app.viewLen height)
        (app.events.length - app.viewOffset height) (app.events.zipIdx evicted) := by
  rw [shown, eventsSlice]
  split_ifs with hempty hheight
  · simp [List.isEmpty_iff.mp hempty, portion]
  · subst hheight
    simp [portion, viewLen]
  · rfl

/-- **The numbers of the events in the panel** are consecutive. -/
lemma map_snd_shown (app : App) (evicted height : ℕ) :
    (app.shown evicted height).map Prod.snd =
      List.range' (evicted + (app.events.length - app.viewOffset height - app.viewLen height))
        (app.viewLen height) := by
  have hle := app.viewOffset_le height
  rw [shown_eq, map_snd_portion (Nat.sub_le _ _)]
  congr 1
  omega

lemma map_fst_shown (app : App) (evicted height : ℕ) :
    (app.shown evicted height).map Prod.fst = app.eventsWindow height := by
  rw [shown, eventsWindow]
  split
  · rfl
  · rw [portion, portion, List.map_drop, List.map_take, List.zipIdx_map_fst]

lemma length_eventsWindow (app : App) (height : ℕ) :
    (app.eventsWindow height).length = min app.events.length height := by
  have hnumbers := congrArg List.length (app.map_snd_shown 0 height)
  rw [← app.map_fst_shown 0, List.length_map]
  rwa [List.length_map, List.length_range'] at hnumbers

/-- What the view relies on: the buffer holds the newest of the events that were pushed, the slice
is one of the buffer and as long as the panel allows, and a VM is selected. -/
structure ViewOk (app : App) (pushed : List AppEvent) (height : ℕ) : Prop where
  newest : app.events <:+ pushed
  length : app.events.length = min maxEvents pushed.length
  slice : ∀ start stop, app.eventsSlice height = some (start, stop) →
    start ≤ stop ∧ stop ≤ app.events.length
  window : (app.eventsWindow height).length = min app.events.length height
  selected : app.vms ≠ [] → app.selectedVm < app.vms.length

/-- **The view** is in order after all operations, for every height of the panel. -/
theorem view_of_run (vms : List VmStatus) (ops : List AppOp) (height : ℕ) :
    (run apply (App.new vms) ops).ViewOk (ops.flatMap AppOp.pushed) height := by
  have hevents : (run apply (App.new vms) ops).events =
      (ops.flatMap AppOp.pushed).rtake maxEvents :=
    @events_run (App.new vms) (Nat.zero_le _) ops
  refine ⟨?_, ?_, fun start stop => eventsSlice_bounds, length_eventsWindow _ _,
    selectsVm_run (selectsVm_new vms) ops⟩
  · rw [hevents]
    exact rtake_suffix _ _
  · rw [hevents, length_rtake]

/-! ## The lock -/

/-- How many events the batches push out of the buffer. -/
def evictions (app : App) (batches : List (List AppEvent)) : ℕ :=
  app.events.length + batches.flatten.length - maxEvents

/-- What batches do to the view of a locked panel. -/
lemma run_pushEvents_locked (hlocked : app.eventsScrollLocked = true)
    (hbuffer : app.events.length ≤ maxEvents) (batches : List (List AppEvent)) :
    (run pushEvents app batches).events = (app.events ++ batches.flatten).rtake maxEvents ∧
      (run pushEvents app batches).eventsScrollLocked = true ∧
      (run pushEvents app batches).eventsScrollOffset = app.eventsScrollOffset := by
  induction batches generalizing app with
  | nil => exact ⟨by simp [rtake_of_length_le hbuffer], hlocked, rfl⟩
  | cons newEvents batches ih =>
      obtain ⟨health, cleanRuns, heq⟩ := pushEvents_eq newEvents hbuffer
      have hbuffer' : (app.pushEvents newEvents).events.length ≤ maxEvents := by
        rw [events_pushEvents hbuffer, length_rtake]
        exact Nat.min_le_left _ _
      obtain ⟨hevents, hlocked', hoffset⟩ := ih (by rw [heq]; exact hlocked) hbuffer'
      refine ⟨?_, hlocked', ?_⟩
      · rw [run_cons, hevents, events_pushEvents hbuffer, rtake_rtake_append, List.append_assoc,
          List.flatten_cons]
      · rw [run_cons, hoffset, heq]
        simp [hlocked]

/-- What is in the panel depends on the buffer and on how it is scrolled only. -/
lemma shown_congr {app' : App} (hevents : app'.events = app.events)
    (hlocked : app'.eventsScrollLocked = app.eventsScrollLocked)
    (hoffset : app'.eventsScrollOffset = app.eventsScrollOffset) (evicted height : ℕ) :
    app'.shown evicted height = app.shown evicted height := by
  simp only [shown_eq, viewOffset, viewLen, hevents, hlocked, hoffset]

/-- The first event in the panel is numbered from the start of the slice. -/
lemma evicted_le_start {evicted dropped height : ℕ} (hpos : 0 < app.viewLen height)
    (hkept : ∀ entry ∈ app.shown evicted height, evicted + dropped ≤ entry.2) :
    dropped ≤ app.events.length - app.viewOffset height - app.viewLen height := by
  have hfirst : evicted + (app.events.length - app.viewOffset height - app.viewLen height) ∈
      (app.shown evicted height).map Prod.snd := by
    rw [map_snd_shown, List.mem_range'_1]
    omega
  obtain ⟨entry, hentry, hnumber⟩ := List.mem_map.mp hfirst
  have hle := hkept entry hentry
  omega

/-- **A locked panel** goes on to show the same events, while they are in the buffer, exactly when
nothing is pushed, the panel has no rows, or it is filled and was scrolled beyond the oldest event
by at least as many lines as events are pushed. -/
theorem locked_window_iff (hlocked : app.eventsScrollLocked = true)
    (hbuffer : app.events.length ≤ maxEvents) (batches : List (List AppEvent))
    (height evicted : ℕ)
    (hkept : ∀ entry ∈ app.shown evicted height, evicted + app.evictions batches ≤ entry.2) :
    (run pushEvents app batches).shown (evicted + app.evictions batches) height =
        app.shown evicted height ↔
      batches.flatten = [] ∨ height = 0 ∨
        (height ≤ app.events.length ∧
          app.events.length + batches.flatten.length ≤ height + app.eventsScrollOffset) := by
  obtain ⟨hevents, hlocked', hoffset⟩ := run_pushEvents_locked hlocked hbuffer batches
  set app' := run pushEvents app batches with happ'
  have hlength : app'.events.length =
      min maxEvents (app.events.length + batches.flatten.length) := by
    rw [hevents, length_rtake, List.length_append]
  constructor
  · intro hsame
    have hnumbers := congrArg (List.map Prod.snd) hsame
    rw [map_snd_shown, map_snd_shown, List.range'_inj] at hnumbers
    rw [← List.length_eq_zero_iff]
    by_cases hpos : 0 < app.viewLen height
    · have hstart := evicted_le_start hpos hkept
      simp only [viewOffset, viewLen, evictions, hlocked, hlocked', hoffset, hlength, if_true]
        at hnumbers hstart hpos
      omega
    · simp only [viewLen, hlength] at hnumbers hpos
      have hmax : 0 < maxEvents := by decide
      omega
  · rintro (hnone | rfl | ⟨hfull, hscrolled⟩)
    · have hsame : app'.events = app.events := by
        rw [hevents, hnone, List.append_nil, rtake_of_length_le hbuffer]
      have hzero : app.evictions batches = 0 := by
        rw [evictions, hnone, List.length_nil]
        omega
      rw [hzero, shown_congr hsame (hlocked'.trans hlocked.symm) hoffset]
      rfl
    · simp [shown, eventsSlice]
    · -- the panel shows the oldest events of the buffer, before and after
      obtain rfl | hheight := Nat.eq_zero_or_pos height
      · simp [shown, eventsSlice]
      have hlen : app.viewLen height = height := Nat.min_eq_right hfull
      have hoff : app.viewOffset height = app.events.length - height := by
        rw [viewOffset, if_pos hlocked, hlen]
        omega
      have hstart := evicted_le_start (by omega) hkept
      rw [evictions, hlen, hoff] at hstart
      have hroom : app.events.length + batches.flatten.length ≤ maxEvents := by omega
      have hevents' : app'.events = app.events ++ batches.flatten := by
        rw [hevents, rtake_of_length_le (by rw [List.length_append]; exact hroom)]
      have hzero : app.evictions batches = 0 := Nat.sub_eq_zero_of_le hroom
      have hlen' : app'.viewLen height = height := by
        rw [viewLen, hlength]
        omega
      have hoff' : app'.viewOffset height = app'.events.length - height := by
        rw [viewOffset, if_pos hlocked', hlen', hoffset, hlength]
        omega
      have hbound : height ≤ app'.events.length := by
        rw [hlength]
        omega
      rw [shown_eq, shown_eq, hoff, hoff', hlen, hlen', Nat.sub_sub_self hfull,
        Nat.sub_sub_self hbound, Nat.sub_self, hzero, Nat.add_zero, portion, portion,
        List.drop_zero, List.drop_zero, hevents', List.zipIdx_append,
        List.take_append_of_le_length (by rw [List.length_zipIdx]; exact hfull)]

end App

/-! ## Two runs -/

/-- Events with the numbers in their texts. -/
def numbered (n : ℕ) : List AppEvent := (List.range n).map fun i => ⟨.Info, s!"event {i}"⟩

/-- Three events, and a panel that was locked and scrolled up three lines. -/
def scrolledUp : App :=
  run App.apply (App.new []) [.PushEvents (numbered 3), .LockEventsScroll, .ScrollEventsUp 3]

/-- Two lines of a panel that is scrolled beyond the oldest event stay the same when an event is
pushed. -/
theorem locked_window_iff_scrolledUp :
    (run App.pushEvents scrolledUp [numbered 1]).shown 0 2 = scrolledUp.shown 0 2 :=
  (@App.locked_window_iff scrolledUp (by decide) (by decide) [numbered 1] 2 0
    (by decide)).mpr (by decide)

/-- Three events, and a panel that was locked. -/
def lockedAtNewest : App :=
  run App.apply (App.new []) [.PushEvents (numbered 3), .LockEventsScroll]

/-- A panel that is locked follows the newest event: of the two events it showed, which are still in
the buffer, it no longer shows the first. -/
theorem locked_follows_newest :
    lockedAtNewest.eventsScrollLocked = true ∧
      (∀ entry ∈ lockedAtNewest.shown 0 2,
        0 + lockedAtNewest.evictions [numbered 1] ≤ entry.2) ∧
      (lockedAtNewest.shown 0 2).map Prod.snd = [1, 2] ∧
      ((run App.pushEvents lockedAtNewest [numbered 1]).shown 0 2).map Prod.snd = [2, 3] ∧
      (run App.pushEvents lockedAtNewest [numbered 1]).eventsWindow 2 ≠
        lockedAtNewest.eventsWindow 2 := by
  decide

end Chalybs.Tui
