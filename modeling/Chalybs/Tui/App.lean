import Chalybs.Foundation.Newest
import Chalybs.Foundation.Run
import Chalybs.Tui.Backend

/-!
# The state of the TUI

`App` (`tui/src/app.rs`): the VMs and the one that is selected, the events and how far they are
scrolled, and what the TUI takes the health of the daemon to be.

* `App.pushEvents` — a batch of events, with the update of the health that comes before it.
* `pushEvents_eq`, `apply_key` — what an operation can do.
* `events_run` — the buffer holds the newest events.
* `selectsVm_run` — the selection is one of the VMs.
-/

namespace Chalybs.Tui

open Foundation

/-- `DaemonHealth`. -/
inductive DaemonHealth
  | Disconnected
  | Degraded
  | Healthy
  deriving DecidableEq, Repr

/-- `App`, without what only the shell prompt, the effects and the VM detail use. -/
structure App where
  vms : List VmStatus
  selectedVm : ℕ := 0
  events : List AppEvent := []
  eventsScrollLocked : Bool := false
  eventsScrollOffset : ℕ := 0
  daemonHealth : DaemonHealth := .Disconnected
  daemonHealthCleanRuns : ℕ := 0
  deriving DecidableEq, Repr

/-- `App::new`. -/
def App.new (initialVms : List VmStatus) : App where
  vms := initialVms

/-! ## Events -/

/-- `str::contains`. -/
def containsText (message text : String) : Bool := decide (text.toList <:+: message.toList)

namespace AppEvent

/-- The texts that are taken for a lost connection. -/
def signalsDisconnect (evt : AppEvent) : Bool :=
  containsText evt.message "daemon unavailable" ||
    containsText evt.message "daemon closed IPC connection" ||
    containsText evt.message "failed to connect to"

/-- An error or a warning with one of the words that are taken to mean the daemon. -/
def complains (evt : AppEvent) : Bool :=
  (evt.kind == .Error || evt.kind == .Warning) &&
    (containsText evt.message "chalybsd" || containsText evt.message "daemon" ||
      containsText evt.message "IPC")

end AppEvent

/-- The loop over the new events: whether there was a complaint, and whether it was left at a
disconnect. -/
def scanEvents (sawDaemonErrorOrWarn : Bool) : List AppEvent → Bool × Bool
  | [] => (sawDaemonErrorOrWarn, false)
  | evt :: rest =>
      if evt.signalsDisconnect then (sawDaemonErrorOrWarn, true)
      else scanEvents (sawDaemonErrorOrWarn || evt.complains) rest

namespace App

/-- A batch without complaints; the number of those is a `u8` that saturates. -/
def cleanRun (app : App) : App :=
  if app.daemonHealth = .Disconnected then app
  else
    let cleanRuns := min (app.daemonHealthCleanRuns + 1) 255
    { app with
      daemonHealthCleanRuns := cleanRuns
      daemonHealth :=
        if app.daemonHealth = .Degraded ∧ 6 ≤ cleanRuns then .Healthy else app.daemonHealth }

/-- `update_daemon_health`. -/
def updateDaemonHealth (app : App) (newEvents : List AppEvent) : App :=
  if newEvents.isEmpty then app.cleanRun
  else
    let saw := scanEvents false newEvents
    if saw.2 then
      { app with daemonHealth := .Disconnected, daemonHealthCleanRuns := 0 }
    else if saw.1 then
      { app with
        daemonHealth := if app.daemonHealth = .Healthy then .Degraded else app.daemonHealth
        daemonHealthCleanRuns := 0 }
    else app.cleanRun

/-- `MAX_EVENTS`. -/
def maxEvents : ℕ := 256

/-- `push_events`. -/
def pushEvents (app : App) (newEvents : List AppEvent) : App :=
  let app := app.updateDaemonHealth newEvents
  if newEvents.isEmpty then app
  else
    let events := app.events ++ newEvents
    { app with
      events :=
        if events.length > maxEvents then events.drop (events.length - maxEvents) else events
      eventsScrollOffset := if app.eventsScrollLocked then app.eventsScrollOffset else 0 }

/-! ## Keys -/

/-- `lock_events_scroll`. -/
def lockEventsScroll (app : App) : App := { app with eventsScrollLocked := true }

/-- `unlock_events_scroll`. -/
def unlockEventsScroll (app : App) : App :=
  { app with eventsScrollLocked := false, eventsScrollOffset := 0 }

/-- `usize::saturating_add`. -/
def saturatingAdd (a b : ℕ) : ℕ := min (a + b) (2 ^ 64 - 1)

/-- `scroll_events_up`. -/
def scrollEventsUp (app : App) (lines : ℕ) : App :=
  if app.events.isEmpty then app
  else
    { app with
      eventsScrollOffset :=
        min (saturatingAdd app.eventsScrollOffset lines) (app.events.length - 1) }

/-- `scroll_events_down`. -/
def scrollEventsDown (app : App) (lines : ℕ) : App :=
  if app.events.isEmpty then app
  else { app with eventsScrollOffset := app.eventsScrollOffset - lines }

/-- `select_next_vm`. -/
def selectNextVm (app : App) : App :=
  if app.vms.isEmpty then app
  else { app with selectedVm := min (app.selectedVm + 1) (app.vms.length - 1) }

/-- `select_previous_vm`. -/
def selectPreviousVm (app : App) : App :=
  if app.vms.isEmpty then app
  else if app.selectedVm > 0 then { app with selectedVm := app.selectedVm - 1 }
  else app

end App

/-- What the main loop does with the view. -/
inductive AppOp
  | PushEvents (newEvents : List AppEvent)
  | LockEventsScroll
  | UnlockEventsScroll
  | ScrollEventsUp (lines : ℕ)
  | ScrollEventsDown (lines : ℕ)
  | SelectNextVm
  | SelectPreviousVm
  deriving DecidableEq, Repr

def App.apply (app : App) : AppOp → App
  | .PushEvents newEvents => app.pushEvents newEvents
  | .LockEventsScroll => app.lockEventsScroll
  | .UnlockEventsScroll => app.unlockEventsScroll
  | .ScrollEventsUp lines => app.scrollEventsUp lines
  | .ScrollEventsDown lines => app.scrollEventsDown lines
  | .SelectNextVm => app.selectNextVm
  | .SelectPreviousVm => app.selectPreviousVm

/-- The events that an operation pushes. -/
def AppOp.pushed : AppOp → List AppEvent
  | .PushEvents newEvents => newEvents
  | _ => []

/-! ## The buffer -/

namespace App

variable {app : App} {newEvents : List AppEvent}

/-- The update of the health leaves the rest of the state as it is. -/
lemma updateDaemonHealth_eq (app : App) (newEvents : List AppEvent) :
    ∃ health cleanRuns, app.updateDaemonHealth newEvents =
      { app with daemonHealth := health, daemonHealthCleanRuns := cleanRuns } := by
  have hclean : ∃ health cleanRuns, app.cleanRun =
      { app with daemonHealth := health, daemonHealthCleanRuns := cleanRuns } := by
    rw [cleanRun]
    split_ifs
    · exact ⟨_, _, rfl⟩
    · exact ⟨_, _, rfl⟩
  simp only [updateDaemonHealth]
  split_ifs
  · exact hclean
  · exact ⟨_, _, rfl⟩
  · exact ⟨_, _, rfl⟩
  · exact ⟨_, _, rfl⟩
  · exact hclean

/-- **What a batch does to the view**: the newest events are kept, and without the lock the view
goes back to them. -/
lemma pushEvents_eq (newEvents : List AppEvent) (h : app.events.length ≤ maxEvents) :
    ∃ health cleanRuns, app.pushEvents newEvents =
      { app with
        daemonHealth := health
        daemonHealthCleanRuns := cleanRuns
        events := (app.events ++ newEvents).rtake maxEvents
        eventsScrollOffset :=
          if newEvents = [] ∨ app.eventsScrollLocked then app.eventsScrollOffset else 0 } := by
  obtain ⟨health, cleanRuns, hhealth⟩ := updateDaemonHealth_eq app newEvents
  refine ⟨health, cleanRuns, ?_⟩
  have hrtake : ∀ events : List AppEvent, (if events.length > maxEvents
      then events.drop (events.length - maxEvents) else events) = events.rtake maxEvents := by
    intro events
    split_ifs with hlong
    · rfl
    · exact (rtake_of_length_le (Nat.le_of_not_lt hlong)).symm
  simp only [pushEvents, hhealth, hrtake]
  cases newEvents with
  | nil => simp [rtake_of_length_le h]
  | cons evt rest => simp

lemma events_pushEvents (h : app.events.length ≤ maxEvents) :
    (app.pushEvents newEvents).events = (app.events ++ newEvents).rtake maxEvents := by
  obtain ⟨_, _, heq⟩ := pushEvents_eq newEvents h
  rw [heq]

/-- **All that a key can do**: lock or unlock the view, scroll it, and select another VM. -/
lemma apply_key (app : App) {op : AppOp} (hop : ∀ newEvents, op ≠ .PushEvents newEvents) :
    ∃ locked offset selected, app.apply op =
        { app with
          eventsScrollLocked := locked
          eventsScrollOffset := offset
          selectedVm := selected } ∧
      (app.vms ≠ [] → app.selectedVm < app.vms.length → selected < app.vms.length) := by
  cases op with
  | PushEvents newEvents => exact absurd rfl (hop newEvents)
  | LockEventsScroll => exact ⟨_, _, _, rfl, fun _ h => h⟩
  | UnlockEventsScroll => exact ⟨_, _, _, rfl, fun _ h => h⟩
  | ScrollEventsUp lines =>
      rw [apply, scrollEventsUp]
      split_ifs
      · exact ⟨_, _, _, rfl, fun _ h => h⟩
      · exact ⟨_, _, _, rfl, fun _ h => h⟩
  | ScrollEventsDown lines =>
      rw [apply, scrollEventsDown]
      split_ifs
      · exact ⟨_, _, _, rfl, fun _ h => h⟩
      · exact ⟨_, _, _, rfl, fun _ h => h⟩
  | SelectNextVm =>
      rw [apply, selectNextVm]
      split_ifs
      · exact ⟨_, _, _, rfl, fun _ h => h⟩
      · refine ⟨_, _, _, rfl, fun hvms _ => ?_⟩
        have hpos := List.length_pos_of_ne_nil hvms
        omega
  | SelectPreviousVm =>
      rw [apply, selectPreviousVm]
      split_ifs
      · exact ⟨_, _, _, rfl, fun _ h => h⟩
      · exact ⟨_, _, _, rfl, fun _ h => (Nat.sub_le _ _).trans_lt h⟩
      · exact ⟨_, _, _, rfl, fun _ h => h⟩

lemma pushed_key {op : AppOp} (hop : ∀ newEvents, op ≠ .PushEvents newEvents) :
    op.pushed = [] := by
  cases op with
  | PushEvents newEvents => exact absurd rfl (hop newEvents)
  | _ => rfl

lemma events_apply (h : app.events.length ≤ maxEvents) (op : AppOp) :
    (app.apply op).events = (app.events ++ op.pushed).rtake maxEvents := by
  by_cases hop : ∃ newEvents, op = .PushEvents newEvents
  · obtain ⟨newEvents, rfl⟩ := hop
    exact events_pushEvents h
  · push Not at hop
    obtain ⟨_, _, _, heq, -⟩ := app.apply_key hop
    rw [heq, pushed_key hop, List.append_nil, rtake_of_length_le h]

/-- **The buffer** holds the newest of the events that it had and of those that were pushed. -/
theorem events_run (h : app.events.length ≤ maxEvents) (ops : List AppOp) :
    (run apply app ops).events = (app.events ++ ops.flatMap AppOp.pushed).rtake maxEvents := by
  induction ops generalizing app with
  | nil => rw [run_nil, List.flatMap_nil, List.append_nil, rtake_of_length_le h]
  | cons op ops ih =>
      have hevents := events_apply h op
      have hlength : (app.apply op).events.length ≤ maxEvents := by
        rw [hevents, length_rtake]
        exact Nat.min_le_left _ _
      rw [run_cons, ih hlength, hevents, rtake_rtake_append, List.append_assoc, List.flatMap_cons]

/-! ## The selection -/

/-- The VM that is selected is one of the VMs, if there are any. -/
def SelectsVm (app : App) : Prop := app.vms ≠ [] → app.selectedVm < app.vms.length

/-- **Every operation** keeps a selection of one of the VMs. -/
lemma selectsVm_apply (h : app.SelectsVm) (op : AppOp) : (app.apply op).SelectsVm := by
  by_cases hop : ∃ newEvents, op = .PushEvents newEvents
  · obtain ⟨newEvents, rfl⟩ := hop
    obtain ⟨health, cleanRuns, hhealth⟩ := updateDaemonHealth_eq app newEvents
    rw [apply, pushEvents, hhealth]
    split_ifs
    · exact h
    · exact h
    · exact h
  · push Not at hop
    obtain ⟨_, _, _, heq, hselected⟩ := app.apply_key hop
    rw [heq]
    exact fun hvms => hselected hvms (h hvms)

lemma selectsVm_run (h : app.SelectsVm) (ops : List AppOp) : (run apply app ops).SelectsVm :=
  run_invariant (I := SelectsVm) (fun _ op h => selectsVm_apply h op) h ops

lemma selectsVm_new (vms : List VmStatus) : (App.new vms).SelectsVm := List.length_pos_of_ne_nil

end App

end Chalybs.Tui
