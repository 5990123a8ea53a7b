import Chalybs.Daemon.Ipc
import Chalybs.Foundation.Run
import Chalybs.Machine.State

/-!
# The daemon

`DaemonState` (`daemon/src/state.rs`) has a state machine for every VM that was started, with the
state that the user wants it in.  On each tick `build_snapshot` takes every one of them one step
towards it, and reports what it sees.

* `DaemonVm.pollQemu` — the detection of a guest that shut itself down.
* `driveVmTowardsDesired` — one step of one VM.
* `DaemonState.buildSnapshot` — a tick; `buildSnapshot_state` says what it does to the VMs.
-/

namespace Chalybs

open Foundation

/-! ## Managed VMs -/

/-- `DaemonVm`. -/
structure DaemonVm where
  sm : VmStateMachine
  desired : IpcVmState
  lastSentEventIndex : ℕ
  deriving DecidableEq

/-- `DaemonVm::new`. -/
def DaemonVm.new (vmName : String) (vmCfg : VmConfig) : Except String DaemonVm :=
  match parseCpuList vmCfg.cpu.hostCpus with
  | .error e => .error (s!"vm {vmName}: failed to parse host_cpus=\"{vmCfg.cpu.hostCpus}\" for " ++
      s!"runtime construction: {e.display}")
  | .ok hostCpus =>
      match parseCpuList vmCfg.cpu.vmCpus with
      | .error e => .error (s!"vm {vmName}: failed to parse vm_cpus=\"{vmCfg.cpu.vmCpus}\" for " ++
          s!"runtime construction: {e.display}")
      | .ok vmCpus => .ok
          { sm := VmStateMachine.new (VmRuntime.new vmName vmCfg ⟨⟨hostCpus⟩, ⟨vmCpus⟩⟩)
            desired := .Stopped
            lastSentEventIndex := 0 }

/-- A VM that is made has the runtime of some layout, and nothing of it was sent. -/
lemma exists_layout_of_new {vmName : String} {vmCfg : VmConfig} {vm : DaemonVm}
    (h : DaemonVm.new vmName vmCfg = .ok vm) :
    ∃ cpus, vm = ⟨VmStateMachine.new (VmRuntime.new vmName vmCfg cpus), .Stopped, 0⟩ := by
  rw [DaemonVm.new] at h
  split at h
  · cases h
  · split at h
    · cases h
    · exact ⟨_, (Except.ok.inj h).symm⟩

/-- A VM before its first step. -/
def DaemonVm.fresh (name : String) (cfg : VmConfig) (cpus : VmCpuLayout) : DaemonVm where
  sm := VmStateMachine.new (VmRuntime.new name cfg cpus)
  desired := .Starting
  lastSentEventIndex := 0

/-- `map_vm_state_to_ipc`. -/
def mapVmStateToIpc : VmState → IpcVmState
  | .Init | .Validate | .PrepareHugepages | .PreparePci | .ReserveCpus | .LaunchQemu
  | .DetectThreads | .PinVcpus | .DetectMsi | .PinIrqs | .PeripheralHooks => .Starting
  | .Steady => .Running
  | .Shutdown | .Cleanup => .ShuttingDown
  | .Idle => .Stopped

/-- The poll of the QEMU process in `build_snapshot`.  `tryWait` says whether the process has
exited. -/
def DaemonVm.pollQemu (tryWait : QemuState → Except String Bool) (vm : DaemonVm) : DaemonVm :=
  if vm.sm.state = .Steady then
    match vm.sm.rt.qemu with
    | none => vm
    | some q =>
        match tryWait q with
        | .ok true =>
            { vm with sm.rt.qemu := none, desired := .Stopped }
        | .ok false => vm
        | .error _ => vm
  else vm

/-- The VM with an error of its state machine in its log. -/
def DaemonVm.reportError (vm : DaemonVm) (message : String) : DaemonVm :=
  { vm with sm.rt := vm.sm.rt.pushError message }

section

variable {W : Type}

/-- `drive_vm_towards_desired`. -/
def driveVmTowardsDesired (h : Host W) (vm : DaemonVm) (w : W) : DaemonVm × W :=
  match vm.desired with
  | .Running | .Starting =>
      match vm.sm.state with
      | .Init | .Validate | .PrepareHugepages | .PreparePci | .ReserveCpus | .LaunchQemu
      | .DetectThreads | .PinVcpus | .DetectMsi | .PinIrqs | .PeripheralHooks =>
          match h.step (vm.sm, w) with
          | .ok _ t => ({ vm with sm := t.1 }, t.2)
          | .error e t =>
              ({ { vm with sm := t.1 }.reportError
                  s!"vm state machine bring-up error: {e.display}" with desired := .Stopped }, t.2)
      | .Steady => ({ vm with desired := .Running }, w)
      | .Shutdown | .Cleanup => (vm, w)
      | .Idle => (vm, w)
  | .Stopped | .ShuttingDown =>
      match vm.sm.state with
      | .Idle => (vm, w)
      | _ =>
          match h.stepShutdown (vm.sm, w) with
          | .ok _ t => ({ vm with sm := t.1 }, t.2)
          | .error e t =>
              ({ vm with sm := t.1 }.reportError
                  s!"vm state machine shutdown error: {e.display}", t.2)

/-! ## The daemon -/

/-- `DaemonState`, without the inventory, which only the startup events are made from. -/
structure DaemonState where
  rootCfg : Option RootConfig
  startupEventsGlobal : List IpcEvent
  startupEventsVm : List IpcVmEvents
  vms : AList fun _ : String => DaemonVm

/-- `DaemonState::new`, for a configuration and startup events. -/
def DaemonState.new (rootCfg : Option RootConfig) (startupEventsGlobal : List IpcEvent)
    (startupEventsVm : List IpcVmEvents) : DaemonState :=
  { rootCfg, startupEventsGlobal, startupEventsVm, vms := ∅ }

/-- What a tick finds on the host. -/
structure TickEnv (W : Type) where
  host : Host W
  /-- `Child::try_wait`: whether the process has exited. -/
  tryWait : QemuState → W → Except String Bool
  /-- The names and the CPU times of the threads of a process. -/
  threads : ℕ → W → Option (List (String × ℕ))

/-- What a tick does to one VM. -/
def DaemonVm.advance (env : TickEnv W) (vm : DaemonVm) (w : W) : DaemonVm × W :=
  driveVmTowardsDesired env.host (vm.pollQemu fun q => env.tryWait q w) w

/-- What a tick does to the VM of one name, if there is one. -/
def DaemonState.tickVm (env : TickEnv W) (s : DaemonState × W) (name : String) :
    DaemonState × W :=
  match s.1.vms.lookup name with
  | none => s
  | some vm =>
      let (vm, w) := vm.advance env s.2
      ({ s.1 with vms := s.1.vms.insert name vm }, w)

/-- The status of one VM in a snapshot. -/
def vmStatus (env : TickEnv W) (w : W) (name : String) (vmCfg : VmConfig)
    (vm : Option DaemonVm) : IpcVmStatus :=
  let cpuLayout := fun cpus => (parseCpuList cpus).toOption.getD []
  let base : IpcVmStatus :=
    { name
      state := .Stopped
      cpuPinned := false
      irqPinned := false
      tasmotaOn := false
      isolationMode := vmCfg.isolation.mode.label
      hugepages := vmCfg.qemu.hugepages
      cpuLayout := { host := cpuLayout vmCfg.cpu.hostCpus, vm := cpuLayout vmCfg.cpu.vmCpus }
      hugepagesDetail := {}
      cpuSample := none }
  match vm with
  | none => base
  | some vm =>
      let rt := vm.sm.rt
      let state := mapVmStateToIpc vm.sm.state
      let tasmotaConfigured := (rt.cfg.peripherals.bind PeripheralConfig.tasmota).isSome
      -- a stopped VM keeps no flags in the view
      let shown := decide (state ≠ .Stopped)
      { base with
        state
        cpuPinned := shown && rt.pinnedThreads
        irqPinned := shown && rt.pinnedIrqs
        tasmotaOn := shown && (tasmotaConfigured && rt.tasmotaPowered)
        hugepagesDetail :=
          { active := rt.hugepages.active
            node := rt.hugepages.node
            pages := rt.hugepages.pages
            bytes := rt.hugepages.bytes }
        cpuSample :=
          if state = .Running then snapshotVmCpuSample (fun pid => env.threads pid w) rt
          else none }

/-- The loop of `build_snapshot` over the configured VMs. -/
def DaemonState.visitVms (env : TickEnv W) (cfg : RootConfig) :
    List String → DaemonState × W → List IpcVmStatus × (DaemonState × W)
  | [], s => ([], s)
  | name :: names, s =>
      let s := DaemonState.tickVm env s name
      let status := (cfg.vm.lookup name).map fun vmCfg =>
        vmStatus env s.2 name vmCfg (s.1.vms.lookup name)
      let (statuses, s) := visitVms env cfg names s
      (status.toList ++ statuses, s)

/-- The configured names, sorted. -/
def RootConfig.sortedNames (cfg : RootConfig) : List String :=
  cfg.vm.keys.insertionSort (· ≤ ·)

/-- The names that a tick visits. -/
def DaemonState.visited (d : DaemonState) : List String :=
  (d.rootCfg.map RootConfig.sortedNames).getD []

/-- The events of a runtime that were not sent yet. -/
def DaemonVm.newEvents (name : String) (vm : DaemonVm) : Option IpcVmEvents :=
  if vm.sm.rt.events.length ≤ vm.lastSentEventIndex then none
  else
    let events := (vm.sm.rt.events.drop vm.lastSentEventIndex).map CoreEvent.toIpc
    some { vmName := name, events }

/-- The VM once its events have been sent. -/
def DaemonVm.markSent (vm : DaemonVm) : DaemonVm :=
  if vm.sm.rt.events.length ≤ vm.lastSentEventIndex then vm
  else { vm with lastSentEventIndex := vm.sm.rt.events.length }

/-- The map of VMs with every value changed. -/
def mapVms (f : DaemonVm → DaemonVm) (vms : AList fun _ : String => DaemonVm) :
    AList fun _ : String => DaemonVm where
  entries := vms.entries.map (.map id fun _ => f)
  nodupKeys := by
    rw [List.NodupKeys, List.keys, List.map_map]
    exact vms.nodupKeys

/-- The state of the daemon once a tick has advanced the VMs and sent their events. -/
def DaemonState.tick (env : TickEnv W) (s : DaemonState × W) : DaemonState × W :=
  let (d, w) := run (DaemonState.tickVm env) s s.1.visited
  ({ d with vms := mapVms DaemonVm.markSent d.vms }, w)

/-- A snapshot: the statuses of the VMs, and the events of the daemon and of the VMs. -/
structure Snapshot where
  vms : List IpcVmStatus
  eventsGlobal : List IpcEvent
  eventsVm : List IpcVmEvents
  deriving DecidableEq, Repr

/-- `build_snapshot`. -/
def DaemonState.buildSnapshot (env : TickEnv W) (tick : UInt64) (s : DaemonState × W) :
    Snapshot × (DaemonState × W) :=
  let startup := decide (tick = 1)
  let (vms, d, w) := match s.1.rootCfg with
    | some cfg => visitVms env cfg cfg.sortedNames s
    | none => ([], s)
  let heartbeat : List IpcEvent :=
    if tick % 40 = 0 then [⟨.Info, s!"daemon heartbeat: tick={tick}"⟩] else []
  let eventsVm := d.vms.entries.filterMap fun entry => entry.2.newEvents entry.1
  ({ vms
     eventsGlobal := (if startup then s.1.startupEventsGlobal else []) ++ heartbeat
     eventsVm := (if startup then s.1.startupEventsVm else []) ++ eventsVm },
    { d with vms := mapVms DaemonVm.markSent d.vms }, w)

/-! ## What a tick does to the VMs -/

lemma visitVms_state (env : TickEnv W) (cfg : RootConfig) (names : List String)
    (s : DaemonState × W) :
    (DaemonState.visitVms env cfg names s).2 = run (DaemonState.tickVm env) s names := by
  induction names generalizing s with
  | nil => rfl
  | cons name names ih => exact ih _

/-- **A tick** takes the configured VMs one after the other. -/
theorem buildSnapshot_state (env : TickEnv W) (tick : UInt64) (s : DaemonState × W) :
    (DaemonState.buildSnapshot env tick s).2 = DaemonState.tick env s := by
  rw [DaemonState.buildSnapshot, DaemonState.tick, DaemonState.visited]
  cases s.1.rootCfg with
  | none => rfl
  | some cfg =>
      show _ = (let (d, w) := run (DaemonState.tickVm env) s cfg.sortedNames
        ({ d with vms := mapVms DaemonVm.markSent d.vms }, w))
      rw [← visitVms_state env cfg]

lemma lookup_mapVms (f : DaemonVm → DaemonVm) (vms : AList fun _ : String => DaemonVm)
    (name : String) : (mapVms f vms).lookup name = (vms.lookup name).map f :=
  List.dlookup_map₂ name

end

end Chalybs
