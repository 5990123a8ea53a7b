import Chalybs.Core.Config
import Chalybs.Cpu.Plan

/-!
# The runtime of a VM

`VmRuntime` (`model.rs`) is the record that every phase of a VM's life reads and writes.  The
components that phases own are grouped so that the type of a phase says what it can write:
the hugepage fields form `HugepageRecord`, and `QemuState` is the recorded QEMU process.

The handle `child` of a process is represented by its process id.
-/

namespace Chalybs

/-! ## Events -/

/-- `CoreEventKind`. -/
inductive CoreEventKind
  | Info
  | Warning
  | Error
  | System
  deriving DecidableEq, Repr

/-- `CoreEvent`: one line of a VM's event log. -/
structure CoreEvent where
  kind : CoreEventKind
  message : String
  deriving DecidableEq, Repr

/-! ## Components -/

/-- `CgroupPaths`. -/
structure CgroupPaths where
  root : String
  vm : String
  host : String
  deriving DecidableEq, Repr

/-- The paths that `set_cgroups` derives from the root of the hierarchy. -/
def CgroupPaths.ofRoot (root : String) : CgroupPaths :=
  { root, vm := s!"{root}/vfio_vm", host := s!"{root}/vfio_host" }

/-- `QemuState`: the recorded QEMU process. -/
structure QemuState where
  pid : ℕ
  deriving DecidableEq, Repr

/-- `VfioTransition`: the driver a function was bound to before it was staged. -/
structure VfioTransition where
  bdf : String
  fromDriver : Option String
  iommuGroup : Option UInt32
  deriving DecidableEq, Repr

/-- The fields `hugepages_node`, `hugepages_pages`, `hugepages_bytes` and `hugepages_active`. -/
structure HugepageRecord where
  node : Option UInt16 := none
  pages : ℕ := 0
  bytes : ℕ := 0
  active : Bool := false
  deriving DecidableEq, Repr

/-! ## The runtime -/

/-- `VmRuntime`. -/
structure VmRuntime where
  name : String
  cfg : VmConfig
  cpus : VmCpuLayout
  cgroups : Option CgroupPaths := none
  qemu : Option QemuState := none
  pinnedThreads : Bool := false
  pinnedIrqs : Bool := false
  irqPinningComplete : Bool := false
  vfioTransitions : List VfioTransition := []
  events : List CoreEvent := []
  hugepages : HugepageRecord := {}
  cpuPlan : Option CpuPlan := none
  tasmotaPowered : Bool := false
  deriving DecidableEq

/-- `VmRuntime::new`. -/
def VmRuntime.new (name : String) (cfg : VmConfig) (cpus : VmCpuLayout) : VmRuntime :=
  { name, cfg, cpus }

/-- `push_event`. -/
def VmRuntime.pushEvent (rt : VmRuntime) (kind : CoreEventKind) (message : String) : VmRuntime :=
  { rt with events := rt.events ++ [⟨kind, message⟩] }

def VmRuntime.pushInfo (rt : VmRuntime) : String → VmRuntime := rt.pushEvent .Info

def VmRuntime.pushWarning (rt : VmRuntime) : String → VmRuntime := rt.pushEvent .Warning

def VmRuntime.pushError (rt : VmRuntime) : String → VmRuntime := rt.pushEvent .Error

def VmRuntime.pushSystem (rt : VmRuntime) : String → VmRuntime := rt.pushEvent .System

end Chalybs
