import Chalybs.Core.Model

/-!
# The view of the daemon

The types of `daemon/src/ipc.rs`: what the daemon tells its clients about each VM, in a snapshot
for every tick, and the sample of the virtual CPUs that a snapshot carries.
-/

namespace Chalybs

/-- `IpcVmState`. -/
inductive IpcVmState
  | Stopped
  | Starting
  | Running
  | ShuttingDown
  deriving DecidableEq, Repr

/-- The `Debug` text of a state. -/
def IpcVmState.debug : IpcVmState → String
  | .Stopped => "Stopped"
  | .Starting => "Starting"
  | .Running => "Running"
  | .ShuttingDown => "ShuttingDown"

/-- `IpcVmCpuLayout`. -/
structure IpcVmCpuLayout where
  host : List ℕ
  vm : List ℕ
  deriving DecidableEq, Repr

/-- `IpcVmHugepages`. -/
structure IpcVmHugepages where
  active : Bool := false
  node : Option UInt16 := none
  pages : ℕ := 0
  bytes : ℕ := 0
  deriving DecidableEq, Repr

/-- `IpcVmCpuSample`. -/
structure IpcVmCpuSample where
  vcpuIndices : List ℕ
  vcpuJiffies : List ℕ
  deriving DecidableEq, Repr

/-- `IpcVmStatus`. -/
structure IpcVmStatus where
  name : String
  state : IpcVmState
  cpuPinned : Bool
  irqPinned : Bool
  tasmotaOn : Bool
  isolationMode : String
  hugepages : Bool
  cpuLayout : IpcVmCpuLayout
  hugepagesDetail : IpcVmHugepages
  cpuSample : Option IpcVmCpuSample
  deriving DecidableEq, Repr

/-- `IpcEventKind`. -/
inductive IpcEventKind
  | Info
  | Warning
  | Error
  | Shell
  | System
  deriving DecidableEq, Repr

/-- `IpcEvent`. -/
structure IpcEvent where
  kind : IpcEventKind
  message : String
  deriving DecidableEq, Repr

/-- `IpcVmEvents`. -/
structure IpcVmEvents where
  vmName : String
  events : List IpcEvent
  deriving DecidableEq, Repr

/-- The event that the daemon makes of one of the runtime. -/
def CoreEvent.toIpc (ev : CoreEvent) : IpcEvent where
  kind := match ev.kind with
    | .Info => .Info
    | .Warning => .Warning
    | .Error => .Error
    | .System => .System
  message := ev.message

/-- The text of an isolation mode. -/
def IsolationMode.label : IsolationMode → String
  | .Disabled => "disabled"
  | .Audit => "audit"
  | .Enforce => "enforce"

/-! ## Samples -/

/-- `snapshot_vm_cpu_sample`.  `threads` gives the name and the CPU time of every thread of a
process that can be read. -/
def snapshotVmCpuSample (threads : ℕ → Option (List (String × ℕ))) (rt : VmRuntime) :
    Option IpcVmCpuSample := do
  let q ← rt.qemu
  let found ← threads q.pid
  let pairs := found.filterMap fun thread => (parseVcpuName thread.1).map fun i => (i, thread.2)
  if pairs.isEmpty then none
  else
    let sorted := pairs.insertionSort fun a b => a.1 ≤ b.1
    some { vcpuIndices := sorted.map Prod.fst, vcpuJiffies := sorted.map Prod.snd }

example : snapshotVmCpuSample
    (fun _ => some [("CPU 1/KVM", 7), ("qemu-system-x86", 3), ("CPU 0/KVM", 5)])
    { VmRuntime.new "a" (minimalVmConfig {} {}) ⟨⟨[]⟩, ⟨[]⟩⟩ with qemu := some ⟨100⟩ } =
      some ⟨[0, 1], [5, 7]⟩ := by decide

end Chalybs
