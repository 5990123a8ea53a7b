import Chalybs.Daemon.Reentry
import Chalybs.Machine.Frame
import Mathlib.Data.List.Infix

/-!
# The delivery of events

Each tick sends the events that were pushed since the last one, from a cursor into the log of the
runtime.  Over a whole run, what was sent for a VM is what its successive runtimes have pushed.

* `runtimeBatches`, `emitted` — what a tick sends for a VM, the startup events apart.
* `pushed` — what an operation of the daemon pushes to the runtime of a VM.
* `advance_appends` — a tick only appends to the log.
* `delivered` — the two sequences are the same.
-/

namespace Chalybs

open Foundation

variable {W : Type}

/-! ## What is sent and what is pushed -/

/-- The batches of a tick that come from the runtimes: the startup events come first. -/
def runtimeBatches (env : TickEnv W) (tick : UInt64) (s : DaemonState × W) : List IpcVmEvents :=
  (DaemonState.buildSnapshot env tick s).1.eventsVm.drop
    (if tick = 1 then s.1.startupEventsVm.length else 0)

/-- What an operation sends for the VM. -/
def emitted (name : String) (s : DaemonState × W) : DaemonOp W → List IpcEvent
  | .Command _ => []
  | .Tick tick env =>
      ((runtimeBatches env tick s).filter fun batch => batch.vmName = name).flatMap
        IpcVmEvents.events

/-- The log of the VM. -/
def DaemonState.eventLog (d : DaemonState) (name : String) : List CoreEvent :=
  ((d.vms.lookup name).map fun vm => vm.sm.rt.events).getD []

/-- The VM gets a new runtime. -/
def Renews (name : String) (s : DaemonState × W) : DaemonOp W → Bool
  | .Command line => decide (name ∈ s.1.renewed (s.1.handleShellCommand line).1)
  | .Tick _ _ => false

/-- What an operation pushes to the log of the VM, which is a new one if it gets a new runtime. -/
def pushed (name : String) (s : DaemonState × W) (op : DaemonOp W) : List CoreEvent :=
  let log := (DaemonState.apply s op).1.eventLog name
  if Renews name s op then log else log.drop (s.1.eventLog name).length

lemma renews_command {s : DaemonState × W} {line name : String} :
    Renews name s (.Command line) = true ↔
      name ∈ s.1.renewed (s.1.handleShellCommand line).1 := by
  rw [Renews, decide_eq_true_iff]

/-! ## One VM -/

lemma events_pollQemu (tryWait : QemuState → Except String Bool) (vm : DaemonVm) :
    (vm.pollQemu tryWait).sm.rt.events = vm.sm.rt.events := by
  obtain ⟨qemu, desired, hpoll⟩ := exists_pollQemu tryWait vm
  rw [hpoll]

lemma lastSent_pollQemu (tryWait : QemuState → Except String Bool) (vm : DaemonVm) :
    (vm.pollQemu tryWait).lastSentEventIndex = vm.lastSentEventIndex := by
  obtain ⟨qemu, desired, hpoll⟩ := exists_pollQemu tryWait vm
  rw [hpoll]

/-- The driver appends to the log and does not move the cursor. -/
lemma drive_appends (h : Host W) (vm : DaemonVm) (w : W) :
    vm.sm.rt.events <+: (driveVmTowardsDesired h vm w).1.sm.rt.events ∧
      (driveVmTowardsDesired h vm w).1.lastSentEventIndex = vm.lastSentEventIndex := by
  cases hdue : vm.desired.due vm.sm.state with
  | none =>
      rw [drive_rests hdue]
      exact ⟨List.prefix_rfl, rfl⟩
  | some op =>
      have happends := events_advance h op (vm.sm, w)
      rw [advance] at happends
      cases hx : h.perform op (vm.sm, w) with
      | ok a t =>
          rw [outcome_of_ok hx] at happends
          rw [drive_succeeds hdue hx]
          exact ⟨happends, rfl⟩
      | error e t =>
          rw [outcome_of_error hx] at happends
          rw [drive_fails hdue hx]
          exact ⟨happends.trans (List.prefix_append _ _), rfl⟩

/-- **A tick appends to the log** of a VM and does not move the cursor. -/
lemma advance_appends (env : TickEnv W) (vm : DaemonVm) (w : W) :
    vm.sm.rt.events <+: (vm.advance env w).1.sm.rt.events ∧
      (vm.advance env w).1.lastSentEventIndex = vm.lastSentEventIndex := by
  have hdrive := drive_appends env.host (vm.pollQemu fun q => env.tryWait q w) w
  rwa [events_pollQemu, lastSent_pollQemu] at hdrive

/-- All the events of the VM have been sent. -/
def DaemonVm.AllSent (vm : DaemonVm) : Prop := vm.lastSentEventIndex = vm.sm.rt.events.length

lemma allSent_markSent {vm : DaemonVm} (h : vm.lastSentEventIndex ≤ vm.sm.rt.events.length) :
    vm.markSent.AllSent := by
  rw [DaemonVm.markSent, DaemonVm.AllSent]
  split_ifs with hle
  · exact le_antisymm h hle
  · rfl

/-- The batch of a VM holds the events after the cursor; there is none when there are no such
events. -/
lemma newEvents_events (name : String) (vm : DaemonVm) :
    (vm.newEvents name).toList.flatMap IpcVmEvents.events =
      (vm.sm.rt.events.drop vm.lastSentEventIndex).map CoreEvent.toIpc := by
  rw [DaemonVm.newEvents]
  split_ifs with hle
  · rw [List.drop_eq_nil_of_le hle]
    rfl
  · exact List.flatMap_singleton _ _

lemma vmName_of_newEvents {name : String} {vm : DaemonVm} {batch : IpcVmEvents}
    (h : vm.newEvents name = some batch) : batch.vmName = name := by
  rw [DaemonVm.newEvents] at h
  split_ifs at h
  rw [← Option.some.inj h]

/-! ## A tick -/

/-- The VMs when a tick has advanced them and is about to send their events. -/
def DaemonState.advanced (env : TickEnv W) (s : DaemonState × W) :
    AList fun _ : String => DaemonVm :=
  (run (DaemonState.tickVm env) s s.1.visited).1.vms

lemma lookup_advanced (env : TickEnv W) (s : DaemonState × W) (name : String) :
    (DaemonState.advanced env s).lookup name = s.1.vms.lookup name ∨
      ∃ w, (DaemonState.advanced env s).lookup name =
        (s.1.vms.lookup name).map fun vm => (vm.advance env w).1 := by
  by_cases hname : name ∈ s.1.visited
  · obtain ⟨pre, post, hnames⟩ := List.append_of_mem hname
    exact .inr ⟨_, (lookup_run_visited hnames).2⟩
  · exact .inl (lookup_run_tickVm hname)

lemma eventsVm_buildSnapshot (env : TickEnv W) (tick : UInt64) (s : DaemonState × W) :
    (DaemonState.buildSnapshot env tick s).1.eventsVm =
      (if tick = 1 then s.1.startupEventsVm else []) ++
        (DaemonState.advanced env s).entries.filterMap fun entry => entry.2.newEvents entry.1 := by
  rw [DaemonState.buildSnapshot, DaemonState.advanced, DaemonState.visited]
  cases s.1.rootCfg with
  | none => simp
  | some cfg =>
      dsimp only [Option.map, Option.getD]
      rw [← visitVms_state env cfg]
      simp

/-- There is at most one batch for each VM. -/
lemma filter_batches (name : String) {entries : List (Sigma fun _ : String => DaemonVm)}
    (hnodup : entries.NodupKeys) :
    ((entries.filterMap fun entry => entry.2.newEvents entry.1).filter
        fun batch => batch.vmName = name) =
      ((entries.dlookup name).bind fun vm => vm.newEvents name).toList := by
  induction entries with
  | nil => rfl
  | cons entry entries ih =>
      obtain ⟨key, vm⟩ := entry
      obtain ⟨hkey, hnodup⟩ := List.nodupKeys_cons.mp hnodup
      have hrest := ih hnodup
      by_cases hname : key = name
      · subst hname
        rw [List.dlookup_eq_none.mpr hkey] at hrest
        rw [List.dlookup_cons_eq, List.filterMap_cons]
        cases hnew : vm.newEvents key with
        | none => simpa [hnew] using hrest
        | some batch => simpa [hnew, vmName_of_newEvents hnew] using hrest
      · rw [List.dlookup_cons_ne _ _ (Ne.symm hname), List.filterMap_cons]
        cases hnew : vm.newEvents key with
        | none => simpa [hnew] using hrest
        | some batch => simpa [hnew, vmName_of_newEvents hnew, hname] using hrest

/-- **What a tick sends** for a VM are its events after the cursor. -/
lemma emitted_tick (name : String) (tick : UInt64) (env : TickEnv W) (s : DaemonState × W) :
    emitted name s (.Tick tick env) =
      (((DaemonState.advanced env s).lookup name).map fun vm =>
        (vm.sm.rt.events.drop vm.lastSentEventIndex).map CoreEvent.toIpc).getD [] := by
  have hbatches : runtimeBatches env tick s =
      (DaemonState.advanced env s).entries.filterMap fun entry => entry.2.newEvents entry.1 := by
    rw [runtimeBatches, eventsVm_buildSnapshot]
    split_ifs
    · exact List.drop_left
    · rfl
  rw [emitted, hbatches, filter_batches name (DaemonState.advanced env s).nodupKeys]
  show ((((DaemonState.advanced env s).lookup name).bind _).toList.flatMap _) = _
  cases (DaemonState.advanced env s).lookup name with
  | none => rfl
  | some vm => exact newEvents_events name vm

/-! ## Runs -/

/-- All the events of every VM have been sent. -/
def EverySent (d : DaemonState) : Prop := ∀ name vm, d.vms.lookup name = some vm → vm.AllSent

lemma eventLog_tick (s : DaemonState × W) (tick : UInt64) (env : TickEnv W) (name : String) :
    (DaemonState.apply s (.Tick tick env)).1.eventLog name =
      (((DaemonState.advanced env s).lookup name).map fun vm => vm.sm.rt.events).getD [] := by
  rw [apply_tick]
  show (((mapVms DaemonVm.markSent (DaemonState.advanced env s)).lookup name).map
    fun vm => vm.sm.rt.events).getD [] = _
  rw [lookup_mapVms, Option.map_map]
  simp only [Function.comp_def, markSent_sm]

/-- **A tick sends what it pushes.** -/
lemma tick_delivers {s : DaemonState × W} (hs : EverySent s.1) (tick : UInt64) (env : TickEnv W)
    (name : String) :
    emitted name s (.Tick tick env) = (pushed name s (.Tick tick env)).map CoreEvent.toIpc := by
  rw [emitted_tick, pushed, eventLog_tick, DaemonState.eventLog]
  cases hvm : s.1.vms.lookup name with
  | none =>
      have hnone : (DaemonState.advanced env s).lookup name = none := by
        rcases lookup_advanced env s name with heq | ⟨w, heq⟩
        · exact heq.trans hvm
        · rw [heq, hvm]
          rfl
      rw [hnone]
      rfl
  | some vm =>
      have hcursor : vm.lastSentEventIndex = vm.sm.rt.events.length := hs name vm hvm
      obtain ⟨vm', hvm', hcursor'⟩ : ∃ vm', (DaemonState.advanced env s).lookup name = some vm' ∧
          vm'.lastSentEventIndex = vm.sm.rt.events.length := by
        rcases lookup_advanced env s name with heq | ⟨w, heq⟩
        · exact ⟨vm, heq.trans hvm, hcursor⟩
        · exact ⟨_, by rw [heq, hvm]; rfl, ((advance_appends env vm w).2).trans hcursor⟩
      rw [hvm']
      simp [Renews, hcursor']

/-- After a tick all events have been sent. -/
lemma everySent_tick {s : DaemonState × W} (hs : EverySent s.1) (tick : UInt64)
    (env : TickEnv W) : EverySent (DaemonState.apply s (.Tick tick env)).1 := by
  intro name vm hvm
  rw [apply_tick] at hvm
  have hmapped : (mapVms DaemonVm.markSent (DaemonState.advanced env s)).lookup name = some vm :=
    hvm
  rw [lookup_mapVms] at hmapped
  obtain ⟨vm', hvm', rfl⟩ := Option.map_eq_some_iff.mp hmapped
  refine allSent_markSent ?_
  rcases lookup_advanced env s name with heq | ⟨w, heq⟩
  · exact (hs name vm' (heq.symm.trans hvm')).le
  · rw [heq] at hvm'
    obtain ⟨old, hold, rfl⟩ := Option.map_eq_some_iff.mp hvm'
    obtain ⟨happends, hcursor⟩ := advance_appends env old w
    rw [hcursor, hs name old hold]
    exact happends.length_le

lemma events_of_new {name : String} {vmCfg : VmConfig} {vm : DaemonVm}
    (h : DaemonVm.new name vmCfg = .ok vm) : vm.sm.rt.events = [] ∧ vm.lastSentEventIndex = 0 := by
  obtain ⟨cpus, rfl⟩ := exists_layout_of_new h
  exact ⟨rfl, rfl⟩

lemma everySent_command {d : DaemonState} (hd : EverySent d) (line : String) :
    EverySent (d.handleShellCommand line).1 := by
  intro name vm hvm
  rcases renewed_or_kept d line name with ⟨-, vmCfg, new, hmade, hlook⟩ | ⟨-, hsame⟩
  · obtain rfl := Option.some.inj (hlook.symm.trans hvm)
    obtain ⟨hevents, hcursor⟩ := events_of_new hmade
    rw [DaemonVm.AllSent, hevents, hcursor]
    rfl
  · rw [hvm] at hsame
    obtain ⟨old, hold, heq⟩ := Option.map_eq_some_iff.mp hsame.symm
    obtain ⟨hsm, hcursor⟩ := Prod.mk.inj heq
    rw [DaemonVm.AllSent, ← hsm, ← hcursor]
    exact hd name old hold

/-- A command that makes no new runtime leaves the log as it is. -/
lemma eventLog_command {d : DaemonState} {line name : String}
    (hkept : name ∉ d.renewed (d.handleShellCommand line).1) :
    (d.handleShellCommand line).1.eventLog name = d.eventLog name := by
  rcases renewed_or_kept d line name with ⟨hrenewed, -⟩ | ⟨-, hsame⟩
  · exact absurd hrenewed hkept
  · have hevents := congrArg (Option.map fun t => t.1.rt.events) hsame
    rw [Option.map_map, Option.map_map] at hevents
    exact congrArg (Option.getD · []) hevents

/-- **The log of a VM that keeps its runtime only grows.** -/
lemma eventLog_prefix {s : DaemonState × W} {op : DaemonOp W} {name : String}
    (hkept : Renews name s op = false) :
    s.1.eventLog name <+: (DaemonState.apply s op).1.eventLog name := by
  cases op with
  | Command line =>
      rw [← Bool.not_eq_true, renews_command] at hkept
      rw [DaemonState.apply, eventLog_command hkept]
  | Tick tick env =>
      rw [eventLog_tick, DaemonState.eventLog]
      rcases lookup_advanced env s name with heq | ⟨w, heq⟩
      · rw [heq]
      · rw [heq]
        cases s.1.vms.lookup name with
        | none => exact List.prefix_rfl
        | some vm => exact (advance_appends env vm w).1

/-- **A command pushes nothing**: a VM that it makes starts with an empty log. -/
lemma pushed_command (s : DaemonState × W) (line name : String) :
    pushed name s (.Command line) = [] := by
  rw [pushed, DaemonState.apply]
  rcases renewed_or_kept s.1 line name with ⟨hrenewed, vmCfg, vm, hmade, hlook⟩ | ⟨hkept, -⟩
  · rw [if_pos (renews_command.mpr hrenewed), DaemonState.eventLog, hlook]
    exact (events_of_new hmade).1
  · rw [if_neg fun h => hkept (renews_command.mp h), eventLog_command hkept]
    exact List.drop_length

lemma delivers_run {s : DaemonState × W} (hs : EverySent s.1) (ops : List (DaemonOp W))
    (name : String) :
    trace DaemonState.apply (emitted name) s ops =
      (trace DaemonState.apply (pushed name) s ops).map CoreEvent.toIpc := by
  induction ops generalizing s with
  | nil => rfl
  | cons op ops ih =>
      rw [trace, trace, List.map_append]
      cases op with
      | Command line =>
          have hsent : EverySent (DaemonState.apply s (.Command line)).1 := by
            rw [apply_command]
            exact everySent_command hs line
          rw [ih hsent, pushed_command]
          rfl
      | Tick tick env => rw [tick_delivers hs, ih (everySent_tick hs tick env)]

/-- **Delivery.**  In every run of the daemon and for every VM: an operation that does not give the
VM a new runtime only appends to its log; and what the ticks have sent for the VM, the startup
events apart, is what its successive runtimes have pushed, in that order. -/
theorem delivered (rootCfg : Option RootConfig) (global : List IpcEvent)
    (perVm : List IpcVmEvents) (w : W) (ops : List (DaemonOp W)) (name : String) :
    let s := (DaemonState.new rootCfg global perVm, w)
    Along DaemonState.apply (fun t op => Renews name t op = false →
        t.1.eventLog name <+: (DaemonState.apply t op).1.eventLog name) s ops ∧
      trace DaemonState.apply (emitted name) s ops =
        (trace DaemonState.apply (pushed name) s ops).map CoreEvent.toIpc := by
  intro s
  refine ⟨fun pre op post _ hkept => eventLog_prefix hkept, delivers_run ?_ ops name⟩
  intro other vm hvm
  cases hvm

end Chalybs
