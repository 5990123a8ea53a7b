import Chalybs.Hugepages.Record
import Mathlib.Data.List.Sort
import Mathlib.Data.String.Basic

/-!
# What a snapshot shows

The clients of the daemon rely on the shape of a snapshot: it lists the configured VMs in a fixed
order, its events belong to VMs that it lists, and a VM that it shows as stopped holds nothing.

* `startupEventsVm` — the events of `DaemonState::new`.
* `SnapshotOp`, `applySnapshot` — the runs of the daemon.
* `WellFormed` — the shape.
* `snapshot_wellFormed` — every snapshot of every run has it.
-/

namespace Chalybs

open Foundation

variable {V : Type}

/-! ## The daemon from its start -/

/-- The loop of `DaemonState::new` over the configured VMs.  `introspect` is `introspect_vm_full`
with the inventory, or `introspect_vm_config_only` if there is none. -/
def startupEventsVm (introspect : String → VmConfig → List IpcEvent)
    (rootCfg : Option RootConfig) : List IpcVmEvents :=
  match rootCfg with
  | none => []
  | some cfg => cfg.vm.entries.filterMap fun entry =>
      let events := introspect entry.1 entry.2
      if events.isEmpty then none else some { vmName := entry.1, events }

/-- What can happen next. -/
inductive SnapshotOp (V : Type)
  /-- A client sends a command line. -/
  | Command (line : String)
  /-- The daemon builds a snapshot. -/
  | Tick (tick : UInt64) (env : TickEnv V) (os : HugepageCalls V)
  /-- Somebody else changes the host. -/
  | Change (w : HugeWorld V)

/-- The state that an event leads to. -/
def applySnapshot (s : HugeState V) : SnapshotOp V → HugeState V
  | .Command line => ((s.1.handleShellCommand line).1, s.2)
  | .Tick tick env os => (DaemonState.buildSnapshot (env.withHuge os) tick s).2
  | .Change w => (s.1, w)

/-- A VM that is shown as stopped shows nothing of its last run. -/
structure IpcVmStatus.Cleared (status : IpcVmStatus) : Prop where
  cpuPinned : status.cpuPinned = false
  irqPinned : status.irqPinned = false
  tasmotaOn : status.tasmotaOn = false
  cpuSample : status.cpuSample = none
  hugepagesDetail : status.hugepagesDetail =
    { active := false, node := none, pages := 0, bytes := 0 }

/-- The names of the configured VMs. -/
def configuredNames (rootCfg : Option RootConfig) : List String :=
  (rootCfg.map fun cfg => cfg.vm.keys).getD []

/-- The snapshot lists the configured VMs in strictly increasing order, its events are events of
these, and the VMs that it shows as stopped are cleared. -/
structure Snapshot.WellFormed (rootCfg : Option RootConfig) (snapshot : Snapshot) : Prop where
  names : snapshot.vms.map IpcVmStatus.name =
    (configuredNames rootCfg).insertionSort (· ≤ ·)
  configured : ∀ name, name ∈ snapshot.vms.map IpcVmStatus.name ↔ name ∈ configuredNames rootCfg
  increasing : (snapshot.vms.map IpcVmStatus.name).Pairwise (· < ·)
  events : ∀ e ∈ snapshot.eventsVm, e.vmName ∈ snapshot.vms.map IpcVmStatus.name
  stopped : ∀ status ∈ snapshot.vms, status.state = .Stopped → status.Cleared

/-! ## The names -/

lemma nodup_configuredNames (rootCfg : Option RootConfig) : (configuredNames rootCfg).Nodup := by
  cases rootCfg with
  | none => exact List.nodup_nil
  | some cfg => exact cfg.vm.keys_nodup

/-- What makes a snapshot well formed: its names are the sorted ones, which are then strictly
increasing. -/
lemma wellFormed_of_names {rootCfg : Option RootConfig} {snapshot : Snapshot}
    (hnames : snapshot.vms.map IpcVmStatus.name =
      (configuredNames rootCfg).insertionSort (· ≤ ·))
    (hevents : ∀ e ∈ snapshot.eventsVm, e.vmName ∈ configuredNames rootCfg)
    (hstopped : ∀ status ∈ snapshot.vms, status.state = .Stopped → status.Cleared) :
    snapshot.WellFormed rootCfg := by
  have hperm := List.perm_insertionSort (· ≤ ·) (configuredNames rootCfg)
  refine ⟨hnames, fun name => ?_, ?_, fun e he => ?_, hstopped⟩
  · rw [hnames]
    exact hperm.mem_iff
  · rw [hnames]
    have hle : ((configuredNames rootCfg).insertionSort (· ≤ ·)).Pairwise (· ≤ ·) :=
      List.pairwise_insertionSort _ _
    have hne := hperm.nodup_iff.mpr (nodup_configuredNames rootCfg)
    exact (hle.and hne).imp fun h => lt_of_le_of_ne h.1 h.2
  · rw [hnames]
    exact hperm.mem_iff.mpr (hevents e he)

section

variable {W : Type} {env : TickEnv W} {cfg : RootConfig}

lemma name_vmStatus {w : W} {name : String} {vmCfg : VmConfig} {vm : Option DaemonVm} :
    (vmStatus env w name vmCfg vm).name = name := by
  cases vm with
  | none => rfl
  | some vm => rfl

/-- One turn of the loop of `build_snapshot`. -/
lemma visitVms_cons {name : String} {names : List String} {s : DaemonState × W} :
    (DaemonState.visitVms env cfg (name :: names) s).1 =
      ((cfg.vm.lookup name).map fun vmCfg =>
        vmStatus env (DaemonState.tickVm env s name).2 name vmCfg
          ((DaemonState.tickVm env s name).1.vms.lookup name)).toList ++
        (DaemonState.visitVms env cfg names (DaemonState.tickVm env s name)).1 := rfl

/-- The loop over configured names reports them in order. -/
lemma names_visitVms {names : List String} (hnames : ∀ name ∈ names, name ∈ cfg.vm)
    (s : DaemonState × W) :
    (DaemonState.visitVms env cfg names s).1.map IpcVmStatus.name = names := by
  induction names generalizing s with
  | nil => rfl
  | cons name names ih =>
      obtain ⟨vmCfg, hvmCfg⟩ := Option.isSome_iff_exists.mp
        (AList.lookup_isSome.mpr (hnames name List.mem_cons_self))
      rw [visitVms_cons, List.map_append, hvmCfg,
        ih (fun other h => hnames other (List.mem_cons_of_mem name h))]
      simp [name_vmStatus]

/-- **Every reported status** is that of a VM in a state that the visits lead to. -/
lemma mem_visitVms {I : DaemonState × W → Prop} {names : List String} {s : DaemonState × W}
    (hI : ∀ s name, I s → I (DaemonState.tickVm env s name)) (hs : I s) {status : IpcVmStatus}
    (hstatus : status ∈ (DaemonState.visitVms env cfg names s).1) :
    ∃ name vmCfg s', I s' ∧ status = vmStatus env s'.2 name vmCfg (s'.1.vms.lookup name) := by
  induction names generalizing s with
  | nil => exact absurd hstatus List.not_mem_nil
  | cons name names ih =>
      rw [visitVms_cons, List.mem_append, Option.mem_toList, Option.map_eq_some_iff] at hstatus
      rcases hstatus with ⟨vmCfg, -, rfl⟩ | hrest
      · exact ⟨name, vmCfg, _, hI s name hs, rfl⟩
      · exact ih (hI s name hs) hrest

/-- A machine is shown as stopped when it is in Idle. -/
lemma idle_of_stopped {state : VmState} (h : mapVmStateToIpc state = .Stopped) :
    state = .Idle := by
  revert h
  cases state <;> decide

/-- **A VM that is shown as stopped** is cleared if its machine is settled. -/
lemma cleared_vmStatus {w : W} {name : String} {vmCfg : VmConfig} {vm : Option DaemonVm}
    (hvm : ∀ dvm, vm = some dvm → dvm.sm.HugeSettled)
    (hstopped : (vmStatus env w name vmCfg vm).state = .Stopped) :
    (vmStatus env w name vmCfg vm).Cleared := by
  cases vm with
  | none => exact ⟨rfl, rfl, rfl, rfl, rfl⟩
  | some dvm =>
      have hstate : mapVmStateToIpc dvm.sm.state = .Stopped := hstopped
      have hrecord : dvm.sm.rt.hugepages = {} :=
        (hvm dvm rfl).cleared (by rw [idle_of_stopped hstate]; decide)
      constructor <;> simp [vmStatus, hstate, hrecord]

end

/-! ## Runs -/

/-- What holds of the daemon in every run: it has its configuration and its startup events, and its
VMs are configured and settled. -/
structure Reportable (rootCfg : Option RootConfig) (startup : List IpcVmEvents)
    (d : DaemonState) : Prop where
  rootCfg : d.rootCfg = rootCfg
  startup : d.startupEventsVm = startup
  settled : EveryVm (fun vm => vm.sm.HugeSettled) d

section

variable {rootCfg : Option RootConfig} {startup : List IpcVmEvents} {s : HugeState V}

lemma settled_new {name : String} {vmCfg : VmConfig} {vm : DaemonVm}
    (h : DaemonVm.new name vmCfg = .ok vm) : vm.sm.HugeSettled := by
  obtain ⟨cpus, rfl⟩ := exists_layout_of_new h
  exact ⟨fun _ => rfl, fun _ => rfl⟩

lemma startup_handleShellCommand (d : DaemonState) (command : String) :
    (d.handleShellCommand command).1.startupEventsVm = d.startupEventsVm := by
  obtain ⟨vms, hframe⟩ := d.handleShellCommand_frame command
  rw [hframe]

lemma startup_tickVm {W : Type} {env : TickEnv W} {s : DaemonState × W} {name : String} :
    (DaemonState.tickVm env s name).1.startupEventsVm = s.1.startupEventsVm := by
  rw [DaemonState.tickVm]
  split
  · rfl
  · rfl

lemma Reportable.tickVm {env : TickEnv V} {os : HugepageCalls V}
    (hs : Reportable rootCfg startup s.1) (name : String) :
    Reportable rootCfg startup (DaemonState.tickVm (env.withHuge os) s name).1 where
  rootCfg := rootCfg_tickVm.trans hs.rootCfg
  startup := startup_tickVm.trans hs.startup
  settled := everyVm_tickVm (fun _ _ hvm => HugeSettled.tick hvm) hs.settled name

lemma Reportable.send {d : DaemonState} (hd : Reportable rootCfg startup d) :
    Reportable rootCfg startup { d with vms := mapVms DaemonVm.markSent d.vms } where
  rootCfg := hd.rootCfg
  startup := hd.startup
  settled := everyVm_send (fun vm hvm => by rw [markSent_sm]; exact hvm) hd.settled

/-- **Every event** keeps it. -/
lemma Reportable.apply (hs : Reportable rootCfg startup s.1) (op : SnapshotOp V) :
    Reportable rootCfg startup (applySnapshot s op).1 := by
  cases op with
  | Command line =>
      simp only [applySnapshot]
      refine ⟨(s.1.rootCfg_handleShellCommand line).trans hs.rootCfg,
        (startup_handleShellCommand s.1 line).trans hs.startup, ?_⟩
      exact everyVm_command (fun _ _ _ hnew => settled_new hnew) (fun _ hvm => hvm) hs.settled
        fun _ _ _ _ _ hvm => hvm
  | Tick tick env os =>
      rw [applySnapshot, buildSnapshot_state]
      exact (run_invariant (I := fun t : HugeState V => Reportable rootCfg startup t.1)
        (fun _ name ht => ht.tickVm name) hs _).send
  | Change w => exact hs

/-- The daemon that the events are about to be sent from. -/
lemma Reportable.visited {env : TickEnv V} {os : HugepageCalls V} {cfg : RootConfig}
    (hs : Reportable rootCfg startup s.1) (names : List String) :
    Reportable rootCfg startup (DaemonState.visitVms (env.withHuge os) cfg names s).2.1 := by
  rw [visitVms_state]
  exact run_invariant (I := fun t : HugeState V => Reportable rootCfg startup t.1)
    (fun _ name ht => ht.tickVm name) hs names

/-- The events of a runtime belong to a VM that is configured. -/
lemma mem_configuredNames_of_newEvents {d : DaemonState} (hd : Reportable rootCfg startup d)
    {e : IpcVmEvents}
    (he : e ∈ d.vms.entries.filterMap fun entry => entry.2.newEvents entry.1) :
    e.vmName ∈ configuredNames rootCfg := by
  obtain ⟨entry, hentry, hnew⟩ := List.mem_filterMap.mp he
  have hname : e.vmName = entry.1 := by
    rw [DaemonVm.newEvents] at hnew
    split_ifs at hnew
    rw [← Option.some.inj hnew]
  have hvisited := (hd.settled entry.1 entry.2 (AList.mem_lookup_iff.mpr hentry)).1
  rw [hname]
  rw [DaemonState.visited, hd.rootCfg] at hvisited
  cases rootCfg with
  | none => exact absurd hvisited List.not_mem_nil
  | some cfg => exact (List.perm_insertionSort _ _).mem_iff.mp hvisited

lemma mem_configuredNames_of_startup {introspect : String → VmConfig → List IpcEvent}
    {e : IpcVmEvents} (he : e ∈ startupEventsVm introspect rootCfg) :
    e.vmName ∈ configuredNames rootCfg := by
  cases rootCfg with
  | none => exact absurd he List.not_mem_nil
  | some cfg =>
      obtain ⟨entry, hentry, hsome⟩ := List.mem_filterMap.mp he
      dsimp only at hsome
      split_ifs at hsome
      rw [← Option.some.inj hsome]
      exact List.mem_map.mpr ⟨entry, hentry, rfl⟩

end

/-- **Snapshots are well formed.**  In every run of the daemon, whatever its clients send and its
phases, guests and host do, every snapshot lists the configured VMs in strictly increasing order,
its events belong to these VMs, and the VMs that it shows as stopped hold nothing. -/
theorem snapshot_wellFormed (rootCfg : Option RootConfig) (global : List IpcEvent)
    (introspect : String → VmConfig → List IpcEvent) (w : HugeWorld V)
    (ops : List (SnapshotOp V)) (tick : UInt64) (env : TickEnv V) (os : HugepageCalls V) :
    let start := DaemonState.new rootCfg global (startupEventsVm introspect rootCfg)
    let s := run applySnapshot (start, w) ops
    (DaemonState.buildSnapshot (env.withHuge os) tick s).1.WellFormed rootCfg := by
  intro start s
  have hs : Reportable rootCfg (startupEventsVm introspect rootCfg) s.1 :=
    run_invariant (I := fun t : HugeState V =>
        Reportable rootCfg (startupEventsVm introspect rootCfg) t.1)
      (fun t op ht => ht.apply op) ⟨rfl, rfl, everyVm_new _ _ _⟩ ops
  generalize s = t at hs
  have hevents : ∀ d, Reportable rootCfg (startupEventsVm introspect rootCfg) d →
      ∀ e ∈ (if decide (tick = 1) then startupEventsVm introspect rootCfg else []) ++
        d.vms.entries.filterMap fun entry => entry.2.newEvents entry.1,
      e.vmName ∈ configuredNames rootCfg := by
    intro d hd e he
    rcases List.mem_append.mp he with hstartup | hnew
    · split_ifs at hstartup
      · exact mem_configuredNames_of_startup hstartup
      · exact absurd hstartup List.not_mem_nil
    · exact mem_configuredNames_of_newEvents hd hnew
  rw [DaemonState.buildSnapshot, hs.rootCfg, hs.startup]
  cases rootCfg with
  | none => exact wellFormed_of_names rfl (hevents _ hs) fun _ h => absurd h List.not_mem_nil
  | some cfg =>
      refine wellFormed_of_names (names_visitVms (fun name hname => ?_) t)
        (hevents _ (hs.visited _)) fun status hstatus hstopped => ?_
      · exact AList.mem_keys.mp ((List.perm_insertionSort _ _).mem_iff.mp hname)
      · obtain ⟨name, vmCfg, s', hs', rfl⟩ := mem_visitVms
          (I := fun t : HugeState V =>
            Reportable (some cfg) (startupEventsVm introspect (some cfg)) t.1)
          (fun _ name ht => ht.tickVm name) hs hstatus
        exact cleared_vmStatus (fun dvm hdvm => (hs'.settled name dvm hdvm).2) hstopped

end Chalybs
