import Chalybs.Core.Model
import Chalybs.Foundation.Fallible

/-!
# The state machine of a VM

`VmStateMachine` (`state.rs`) takes a VM from Init to Steady and from there, or from any state
before, down to Idle.  Each call of `step` or `step_shutdown` does the work of one state and moves
on; a call that stops with an error leaves what it has done so far.

The work itself is done by functions of other modules.  `Callee` lists them, and
`Callee.Owned` is the part of the runtime that each may write, read off from its signature and
body; a `Host` says what each does, to that part and to a state `W` of the machine that runs
Chalybs.  Nothing is assumed about a host: any call may fail, and may have any effect on `W`.

* `Host.bringUp`, `Host.tearDown` — the arms of the two operations, one for each state.
* `Host.step`, `Host.stepShutdown` — the operations.
-/

namespace Chalybs

open Foundation

/-! ## States -/

/-- `VmState`. -/
inductive VmState
  | Init
  | Validate
  | PrepareHugepages
  | PreparePci
  | ReserveCpus
  | LaunchQemu
  | DetectThreads
  | PinVcpus
  | DetectMsi
  | PinIrqs
  | PeripheralHooks
  | Steady
  | Shutdown
  | Cleanup
  | Idle
  deriving DecidableEq, Repr

/-- The `Debug` text of a state. -/
def VmState.debug : VmState → String
  | .Init => "Init"
  | .Validate => "Validate"
  | .PrepareHugepages => "PrepareHugepages"
  | .PreparePci => "PreparePci"
  | .ReserveCpus => "ReserveCpus"
  | .LaunchQemu => "LaunchQemu"
  | .DetectThreads => "DetectThreads"
  | .PinVcpus => "PinVcpus"
  | .DetectMsi => "DetectMsi"
  | .PinIrqs => "PinIrqs"
  | .PeripheralHooks => "PeripheralHooks"
  | .Steady => "Steady"
  | .Shutdown => "Shutdown"
  | .Cleanup => "Cleanup"
  | .Idle => "Idle"

/-- `VmStateMachine`. -/
structure VmStateMachine where
  state : VmState
  rt : VmRuntime
  deriving DecidableEq

/-- `VmStateMachine::new`. -/
def VmStateMachine.new (rt : VmRuntime) : VmStateMachine := { state := .Init, rt }

/-! ## The functions it calls -/

/-- The functions that do the work of the states. -/
inductive Callee
  | CpusetPreflight
  | QemuPreflight
  | PreflightGpuPolicy
  | ProvisionHugepages
  | StagePci
  | ReserveCpus
  | LaunchQemu
  | WaitForQemuThreads
  | PinVcpus
  | SpawnIrqPinWorker
  | ApplyVmUp
  | ShutdownQemu
  | RestorePci
  | CleanupCpus
  | CleanupHugepages
  | ApplyVmDown
  deriving DecidableEq, Repr

/-- What the function may write of the runtime.  Those that log have the list of the events they
push. -/
def Callee.Owned : Callee → Type
  | .ProvisionHugepages | .CleanupHugepages => HugepageRecord × List CoreEvent
  | .StagePci => List VfioTransition
  | .ReserveCpus => Option CgroupPaths
  | .LaunchQemu | .ShutdownQemu => Option QemuState
  | .ApplyVmUp | .ApplyVmDown => Bool × List CoreEvent
  | .CpusetPreflight | .QemuPreflight | .PreflightGpuPolicy | .WaitForQemuThreads | .PinVcpus
  | .SpawnIrqPinWorker | .RestorePci | .CleanupCpus => Unit

/-- What the function finds there when it is called. -/
def Callee.owned (rt : VmRuntime) : (c : Callee) → c.Owned
  | .ProvisionHugepages | .CleanupHugepages => (rt.hugepages, [])
  | .StagePci => rt.vfioTransitions
  | .ReserveCpus => rt.cgroups
  | .LaunchQemu | .ShutdownQemu => rt.qemu
  | .ApplyVmUp | .ApplyVmDown => (rt.tasmotaPowered, [])
  | .CpusetPreflight | .QemuPreflight | .PreflightGpuPolicy | .WaitForQemuThreads | .PinVcpus
  | .SpawnIrqPinWorker | .RestorePci | .CleanupCpus => ()

/-- The runtime after the function has written `part`. -/
def Callee.store (rt : VmRuntime) : (c : Callee) → c.Owned → VmRuntime
  | .ProvisionHugepages | .CleanupHugepages => fun part =>
      { rt with hugepages := part.1, events := rt.events ++ part.2 }
  | .StagePci => fun part => { rt with vfioTransitions := part }
  | .ReserveCpus => fun part => { rt with cgroups := part }
  | .LaunchQemu | .ShutdownQemu => fun part => { rt with qemu := part }
  | .ApplyVmUp | .ApplyVmDown => fun part =>
      { rt with tasmotaPowered := part.1, events := rt.events ++ part.2 }
  | .CpusetPreflight | .QemuPreflight | .PreflightGpuPolicy | .WaitForQemuThreads | .PinVcpus
  | .SpawnIrqPinWorker | .RestorePci | .CleanupCpus => fun _ => rt

/-- The functions, as they behave on states `W` of the host. -/
structure Host (W : Type) where
  /-- A call with the runtime as it is then. -/
  call : (c : Callee) → VmRuntime → EStateM ChalybsError (c.Owned × W) Unit
  /-- `detect_cpu_identity`. -/
  detectCpuIdentity : W → Option CpuIdentity
  /-- `HostNumaTopology::from_sysfs`. -/
  numaTopology : W → Except String HostNumaTopology

/-! ## The parts of a step -/

/-- A computation of the state machine on a host. -/
abbrev MachineM (W : Type) := EStateM ChalybsError (VmStateMachine × W)

section

variable {W : Type}

def modifyRt (f : VmRuntime → VmRuntime) : MachineM W Unit :=
  modify fun t => ({ t.1 with rt := f t.1.rt }, t.2)

def pushInfo (message : String) : MachineM W Unit := modifyRt fun rt => rt.pushInfo message

def pushSystem (message : String) : MachineM W Unit := modifyRt fun rt => rt.pushSystem message

def setState (state : VmState) : MachineM W Unit := modify fun t => ({ t.1 with state }, t.2)

/-- Call one of the functions. -/
def Host.invoke (h : Host W) (c : Callee) : MachineM W Unit := fun t =>
  match h.call c t.1.rt (c.owned t.1.rt, t.2) with
  | .ok _ u => .ok () ({ t.1 with rt := c.store t.1.rt u.1 }, u.2)
  | .error e u => .error e ({ t.1 with rt := c.store t.1.rt u.1 }, u.2)

/-- The text of the error that the Validate phase makes of the findings. -/
def cpuPlanError (findings : List CpuPlanValidationError) : String :=
  let msgs := joinWith "; " (findings.map CpuPlanValidationError.message)
  s!"cpuplan: structural CPU plan validation failed; VM bring-up aborted. Findings: {msgs}"

/-- What the Validate phase makes of the CPU plan of the VM: the runtime it leaves, and the error
it stops with. -/
def Host.planCpus (h : Host W) (w : W) (rt : VmRuntime) : VmRuntime × Option ChalybsError :=
  match h.detectCpuIdentity w with
  | some ident =>
      match h.numaTopology w with
      | .ok topology =>
          let plan := buildCpuPlan
            { ident, arch := classifyCpu ident, topology, vmLayout := rt.cpus }
          let findings := validateCpuPlan plan
          if findings.isEmpty then
            (({ rt with cpuPlan := some plan } : VmRuntime).pushInfo
              "cpuplan: host CPU identity, NUMA topology, and VM CPU layout validated successfully",
              none)
          else (rt.pushError (cpuPlanError findings), some (.State (cpuPlanError findings)))
      | .error e =>
          (rt.pushWarning ("cpuplan: failed to read host NUMA topology from sysfs; skipping CPU " ++
            s!"plan construction for this VM: {e}"), none)
  | none =>
      (rt.pushWarning ("cpuplan: host CPU identity could not be detected via CPUID; skipping " ++
        "CPU plan construction for this VM"), none)

/-- The CPU plan section of the Validate phase. -/
def Host.checkCpuPlan (h : Host W) : MachineM W Unit := fun t =>
  match h.planCpus t.2 t.1.rt with
  | (rt, none) => .ok () ({ t.1 with rt }, t.2)
  | (rt, some e) => .error e ({ t.1 with rt }, t.2)

/-- The event that follows the launch of QEMU. -/
def VmRuntime.pushLaunched (rt : VmRuntime) : VmRuntime :=
  match rt.qemu with
  | some qemu => rt.pushInfo s!"qemu: launched with pid {qemu.pid}"
  | none => rt.pushWarning "qemu: launch completed but QemuState pid not recorded"

/-! ## Bring-up -/

/-- The arms of `step`. -/
def Host.bringUp (h : Host W) : VmState → MachineM W Unit
  | .Init => do
      pushSystem "state=Init"
      setState .Validate
  | .Validate => do
      pushSystem "state=Validate"
      h.invoke .CpusetPreflight
      pushInfo "cpuset: preflight checks completed successfully"
      h.invoke .QemuPreflight
      pushInfo "qemu: preflight checks completed successfully"
      h.invoke .PreflightGpuPolicy
      pushInfo "pci: GPU policy preflight completed successfully"
      h.checkCpuPlan
      setState .PrepareHugepages
  | .PrepareHugepages => do
      pushSystem "state=PrepareHugepages"
      h.invoke .ProvisionHugepages
      setState .PreparePci
  | .PreparePci => do
      pushSystem "state=PreparePci"
      h.invoke .StagePci
      pushInfo "vfio: PCI staging completed for VM passthrough devices"
      setState .ReserveCpus
  | .ReserveCpus => do
      pushSystem "state=ReserveCpus"
      h.invoke .ReserveCpus
      pushInfo "cpuset: VM/host cpuset hierarchy created"
      setState .LaunchQemu
  | .LaunchQemu => do
      pushSystem "state=LaunchQemu"
      h.invoke .LaunchQemu
      modifyRt VmRuntime.pushLaunched
      setState .DetectThreads
  | .DetectThreads => do
      pushSystem "state=DetectThreads"
      h.invoke .WaitForQemuThreads
      pushInfo "affinity: QEMU threads discovered for pinning"
      setState .PinVcpus
  | .PinVcpus => do
      pushSystem "state=PinVcpus"
      h.invoke .PinVcpus
      modifyRt fun rt => { rt with pinnedThreads := true }
      pushInfo "affinity: vCPU threads pinned to VM cpuset"
      setState .DetectMsi
  | .DetectMsi => do
      pushSystem "state=DetectMsi"
      h.invoke .SpawnIrqPinWorker
      pushInfo "irq: background worker spawned for MSI/MSI-X detection and IRQ pinning"
      setState .PinIrqs
  | .PinIrqs => do
      pushSystem "state=PinIrqs"
      modifyRt fun rt => { rt with pinnedIrqs := true }
      pushInfo "irq: IRQ pinning delegated to background worker"
      setState .PeripheralHooks
  | .PeripheralHooks => do
      pushSystem "state=PeripheralHooks"
      h.invoke .ApplyVmUp
      pushInfo "peripherals: VM up hooks applied successfully"
      setState .Steady
  | .Steady => do
      pushSystem "state=Steady"
      pushInfo "vm: already in steady-state (all bring-up phases complete)"
  | s => throw (.State s!"step() called in invalid bring-up state: {s.debug}")

/-- The state after the arm has run. -/
def returnState : MachineM W VmState := do
  let t ← get
  pure t.1.state

/-- `step`. -/
def Host.step (h : Host W) : MachineM W VmState := do
  let t ← get
  h.bringUp t.1.state
  returnState

/-! ## Shutdown -/

/-- The arms of `step_shutdown`. -/
def Host.tearDown (h : Host W) : VmState → MachineM W Unit
  | .Steady | .PinIrqs | .PeripheralHooks => do
      pushSystem "state=Shutdown"
      h.invoke .ShutdownQemu
      pushInfo "qemu: shutdown requested for VM instance"
      setState .Shutdown
  | .Shutdown => do
      pushSystem "state=RestorePci (restore PCI driver bindings)"
      h.invoke .RestorePci
      pushInfo "vfio: restore of PCI driver bindings requested for VM devices"
      pushSystem "state=Cleanup"
      h.invoke .CleanupCpus
      pushInfo "cpuset: VM/host cpuset hierarchy cleaned up"
      h.invoke .CleanupHugepages
      pushInfo "hugepages: teardown completed for VM instance"
      h.invoke .ApplyVmDown
      pushInfo "peripherals: VM down hooks applied successfully"
      setState .Cleanup
  | .Cleanup => do
      setState .Idle
      pushSystem "state=Idle (VM shutdown sequence completed)"
  | .Idle => pushSystem "state=Idle (shutdown already completed)"
  | other => do
      pushSystem s!"state=Shutdown (from {other.debug})"
      h.invoke .ShutdownQemu
      pushInfo "qemu: shutdown requested for VM instance (from non-steady state)"
      setState .Shutdown

/-- `step_shutdown`. -/
def Host.stepShutdown (h : Host W) : MachineM W VmState := do
  let t ← get
  h.tearDown t.1.state
  returnState

end

end Chalybs
