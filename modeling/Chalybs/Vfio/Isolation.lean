import Chalybs.Pci.Inventory

/-!
# The isolation policy gate

`vfio/isolation.rs`: before anything is written to sysfs, the configuration of a VM is held
against the PCI inventory.  Five evaluators produce findings, and in `Enforce` mode a finding of
severity `Violation` blocks staging.

* `evaluateIommuExclusivity`, `evaluateMultifunctionConsistency`, `evaluateHostCriticalSharing`
  look at groups of functions;
* `evaluatePerDeviceIsolationLevels`, `evaluateNumaPlacement` look at each configured device;
* `evaluateIsolationForVm` combines them under the policy's mode and flags.

A finding is a value of the model with its code and text.  The order of findings that come from
one pass over a hash map is not meaningful.
-/

namespace Chalybs

open Foundation

/-! ## Findings -/

/-- `IsolationSeverity`. -/
inductive IsolationSeverity
  | Info
  | Warning
  | Violation
  deriving DecidableEq, Repr

def IsolationSeverity.debug : IsolationSeverity → String
  | .Info => "Info"
  | .Warning => "Warning"
  | .Violation => "Violation"

def IsolationMode.debug : IsolationMode → String
  | .Disabled => "Disabled"
  | .Audit => "Audit"
  | .Enforce => "Enforce"

/-- `IsolationFinding`. -/
structure IsolationFinding where
  severity : IsolationSeverity
  code : String
  message : String
  deviceBdf : Option String
  iommuGroup : Option UInt32
  deriving DecidableEq, Repr

def IsolationFinding.isViolation (finding : IsolationFinding) : Bool :=
  decide (finding.severity = .Violation)

/-- `IsolationReport`. -/
structure IsolationReport where
  vmName : String
  findings : List IsolationFinding
  deriving DecidableEq, Repr

def IsolationReport.hasViolations (report : IsolationReport) : Bool :=
  report.findings.any IsolationFinding.isViolation

/-! ## Configured devices -/

/-- `DeviceIsolationContext`: a configured device that is present, with its effective level. -/
structure DeviceIsolationContext where
  deviceCfg : PciDeviceConfig
  func : PciFunction
  deviceClass : DeviceClass
  effectiveLevel : IsolationLevel
  deriving DecidableEq, Repr

/-- `collect_devices_for_kind`: the addresses of one list join the set `out`.  An absent list and
an empty one both add nothing. -/
def collectDevicesForKind (inv : PciInventory) (cfgs : Option (List PciDeviceConfig))
    (out : List String) : Except ChalybsError (List String) := do
  let funcs ← inv.resolveConfigured (deviceList cfgs)
  pure (out ++ funcs.map PciFunction.bdf)

/-- `collect_passthrough_bdfs`. -/
def collectPassthroughBdfs (cfg : VmConfig) (inv : PciInventory) :
    Except ChalybsError (List String) := do
  let set ← collectDevicesForKind inv cfg.devices.gpu []
  let set ← collectDevicesForKind inv cfg.devices.nvme set
  let set ← collectDevicesForKind inv cfg.devices.nic set
  collectDevicesForKind inv cfg.devices.usb set

/-- The context of a resolved function.  Of several entries with its address the last one counts;
without any entry the function is skipped. -/
def deviceContext (policy : IsolationPolicyConfig) (cfgs : List PciDeviceConfig)
    (func : PciFunction) : Option DeviceIsolationContext :=
  (lastOn PciDeviceConfig.pciAddress cfgs func.bdf).map fun dev =>
    { deviceCfg := dev
      func
      deviceClass := func.deviceClass
      effectiveLevel := dev.effectiveLevel policy }

/-- `collect_device_contexts_for_kind`. -/
def collectDeviceContextsForKind (policy : IsolationPolicyConfig) (inv : PciInventory)
    (cfgs : Option (List PciDeviceConfig)) (out : List DeviceIsolationContext) :
    Except ChalybsError (List DeviceIsolationContext) := do
  let funcs ← inv.resolveConfigured (deviceList cfgs)
  pure (out ++ funcs.filterMap (deviceContext policy (deviceList cfgs)))

/-- `collect_device_contexts`. -/
def collectDeviceContexts (policy : IsolationPolicyConfig) (cfg : VmConfig) (inv : PciInventory) :
    Except ChalybsError (List DeviceIsolationContext) := do
  let ctxs ← collectDeviceContextsForKind policy inv cfg.devices.gpu []
  let ctxs ← collectDeviceContextsForKind policy inv cfg.devices.nvme ctxs
  let ctxs ← collectDeviceContextsForKind policy inv cfg.devices.nic ctxs
  collectDeviceContextsForKind policy inv cfg.devices.usb ctxs

/-! ## Evaluators over groups of functions -/

/-- The addresses of the members that are in the set, and of those that are not. -/
def splitByPassthrough (passthroughBdfs : List String) (members : List PciFunction) :
    List String × List String :=
  let bdfs := members.map PciFunction.bdf
  (bdfs.filter fun bdf => passthroughBdfs.contains bdf,
    bdfs.filter fun bdf => !passthroughBdfs.contains bdf)

/-- The finding of `evaluate_iommu_exclusivity` for one group. -/
def exclusivityFinding (vmName : String) (passthroughBdfs : List String)
    (group : UInt32 × List PciFunction) : Option IsolationFinding :=
  let (passthrough, nonPassthrough) := splitByPassthrough passthroughBdfs group.2
  if passthrough.isEmpty then none
  else if nonPassthrough.isEmpty then
    some {
      severity := .Info
      code := "IOMMU_GROUP_EXCLUSIVE_PASSTHROUGH"
      message := s!"IOMMU group {group.1} contains only passthrough devices " ++
        s!"({commaList passthrough}); group is exclusive for VM {vmName}"
      deviceBdf := passthrough.head?
      iommuGroup := some group.1 }
  else
    some {
      severity := .Violation
      code := "IOMMU_GROUP_NOT_EXCLUSIVE"
      message := s!"IOMMU group {group.1} contains passthrough devices " ++
        s!"({commaList passthrough}) and non-passthrough members " ++
        s!"({commaList nonPassthrough}); this violates require_iommu_exclusive for VM {vmName}"
      deviceBdf := passthrough.head?
      iommuGroup := some group.1 }

/-- `evaluate_iommu_exclusivity`. -/
def evaluateIommuExclusivity (vmName : String) (inv : PciInventory)
    (passthroughBdfs : List String) : List IsolationFinding :=
  inv.byIommuGroup.filterMap (exclusivityFinding vmName passthroughBdfs)

/-- The finding of `evaluate_multifunction_consistency` for one slot. -/
def multifunctionFinding (vmName : String) (passthroughBdfs : List String)
    (group : (ℕ × ℕ × ℕ) × List PciFunction) : Option IsolationFinding :=
  let (passthrough, host) := splitByPassthrough passthroughBdfs group.2
  if passthrough.isEmpty || host.isEmpty then none
  else
    let (domain, bus, slot) := group.1
    some {
      severity := .Violation
      code := "MULTIFUNCTION_MIXED_OWNERSHIP"
      message := s!"PCI device {hexPadded 4 domain}:{hexPadded 2 bus}:{hexPadded 2 slot}.x has " ++
        s!"mixed ownership: passthrough functions ({commaList passthrough}) and host-owned " ++
        s!"functions ({commaList host}); this violates require_multifunction_consistency for " ++
        s!"VM {vmName}"
      deviceBdf := passthrough.head?
      iommuGroup := none }

/-- `evaluate_multifunction_consistency`. -/
def evaluateMultifunctionConsistency (vmName : String) (inv : PciInventory)
    (passthroughBdfs : List String) : List IsolationFinding :=
  (groupOn (fun f => parseSlotKey f.bdf) inv.functions).filterMap
    (multifunctionFinding vmName passthroughBdfs)

/-- A display controller that is owned by the host. -/
def PciFunction.isHostCritical (f : PciFunction) : Bool :=
  f.isDisplayController && decide (f.gpuSafetyClass = some .HostOwned)

/-- The finding of `evaluate_host_critical_sharing` for one group. -/
def hostCriticalFinding (vmName : String) (passthroughBdfs : List String)
    (group : UInt32 × List PciFunction) : Option IsolationFinding :=
  let gpuBdfs := (group.2.filter PciFunction.isHostCritical).map PciFunction.bdf
  if gpuBdfs.isEmpty then none
  else if group.2.any fun m => passthroughBdfs.contains m.bdf then
    some {
      severity := .Violation
      code := "HOST_CRITICAL_GPU_SHARED_GROUP"
      message := s!"IOMMU group {group.1} contains passthrough devices and host-owned GPU(s) " ++
        s!"({commaList gpuBdfs}); this violates forbid_host_critical_in_group for VM {vmName}"
      deviceBdf := gpuBdfs.head?
      iommuGroup := some group.1 }
  else
    some {
      severity := .Warning
      code := "HOST_CRITICAL_GPU_SHARED_GROUP_HOST_ONLY"
      message := s!"IOMMU group {group.1} contains host-owned GPU(s) ({commaList gpuBdfs}), " ++
        "but no passthrough devices; group is host-only but may still be " ++
        s!"performance/availability sensitive for VM {vmName}"
      deviceBdf := gpuBdfs.head?
      iommuGroup := some group.1 }

/-- `evaluate_host_critical_sharing`. -/
def evaluateHostCriticalSharing (vmName : String) (inv : PciInventory)
    (passthroughBdfs : List String) : List IsolationFinding :=
  inv.byIommuGroup.filterMap (hostCriticalFinding vmName passthroughBdfs)

/-! ## Evaluators over configured devices -/

/-- The finding for a dedicated device whose group is not checked by the exclusivity evaluator. -/
def dedicatedFinding (vmName : String) (inv : PciInventory) (passthroughBdfs : List String)
    (func : PciFunction) : IsolationFinding :=
  let finding := fun severity code message =>
    { severity, code, message, deviceBdf := some func.bdf, iommuGroup := func.iommuGroup }
  match func.iommuGroup with
  | none =>
      finding .Warning "DEVICE_DEDICATED_NO_IOMMU_GROUP"
        (s!"PCI device {func.bdf} with IsolationLevel=dedicated has no IOMMU group; " ++
          s!"cannot evaluate group exclusivity for VM {vmName}")
  | some gid =>
      match findGroup inv.byIommuGroup gid with
      | none =>
          finding .Warning "DEVICE_DEDICATED_GROUP_UNKNOWN"
            (s!"PCI device {func.bdf} with IsolationLevel=dedicated is in IOMMU group {gid}, " ++
              "but group members are not present in the current inventory snapshot " ++
              s!"for VM {vmName}")
      | some members =>
          let nonPassthrough := (splitByPassthrough passthroughBdfs members).2
          if nonPassthrough.isEmpty then
            finding .Info "DEVICE_DEDICATED_GROUP_EXCLUSIVE"
              (s!"PCI device {func.bdf} with IsolationLevel=dedicated is in IOMMU group {gid} " ++
                s!"that is exclusive to passthrough devices for VM {vmName}")
          else
            finding .Violation "DEVICE_DEDICATED_GROUP_NOT_EXCLUSIVE"
              (s!"PCI device {func.bdf} with IsolationLevel=dedicated is in IOMMU group {gid} " ++
                s!"that also contains non-passthrough members ({commaList nonPassthrough}); " ++
                s!"this violates per-device dedicated isolation for VM {vmName}")

/-- The finding of `evaluate_per_device_isolation_levels` for one device. -/
def levelFinding (vmName : String) (policy : IsolationPolicyConfig) (inv : PciInventory)
    (passthroughBdfs : List String) (ctx : DeviceIsolationContext) : Option IsolationFinding :=
  match ctx.effectiveLevel with
  | .Forbidden =>
      some {
        severity := .Violation
        code := "DEVICE_FORBIDDEN_BY_POLICY"
        message := s!"PCI device {ctx.func.bdf} is configured for passthrough but " ++
          s!"IsolationLevel=forbidden for VM {vmName}"
        deviceBdf := some ctx.func.bdf
        iommuGroup := ctx.func.iommuGroup }
  | .Dedicated =>
      -- with exclusivity required, the group evaluator has reported it already
      if policy.requireIommuExclusive then none
      else some (dedicatedFinding vmName inv passthroughBdfs ctx.func)
  | .SharedWithHost => none

/-- `evaluate_per_device_isolation_levels`. -/
def evaluatePerDeviceIsolationLevels (vmName : String) (policy : IsolationPolicyConfig)
    (inv : PciInventory) (ctxs : List DeviceIsolationContext) (passthroughBdfs : List String) :
    List IsolationFinding :=
  ctxs.filterMap (levelFinding vmName policy inv passthroughBdfs)

/-- The severity and label of a NUMA mismatch; a forbidden device has been reported already. -/
def numaMismatch (mode : IsolationMode) : IsolationLevel → Option (IsolationSeverity × String)
  | .Forbidden => none
  | .Dedicated =>
      match mode with
      | .Disabled => some (.Warning, "dedicated")
      | .Audit => some (.Warning, "dedicated")
      | .Enforce => some (.Violation, "dedicated")
  | .SharedWithHost => some (.Warning, "shared-with-host")

/-- The finding of `evaluate_numa_placement` for one device of a VM pinned to `vmNode`.  The
comparison converts the device's node with `as u16`. -/
def numaFinding (vmName : String) (mode : IsolationMode) (vmNode : UInt16)
    (ctx : DeviceIsolationContext) : Option IsolationFinding :=
  let finding := fun severity code message =>
    { severity, code, message, deviceBdf := some ctx.func.bdf, iommuGroup := ctx.func.iommuGroup }
  match ctx.func.numaNode with
  | none =>
      some (finding .Warning "NUMA_DEVICE_NODE_UNKNOWN"
        (s!"PCI device {ctx.func.bdf} has unknown NUMA node (None) while VM {vmName} is pinned " ++
          s!"to node {vmNode}"))
  | some node =>
      if node.toInt < 0 then
        some (finding .Warning "NUMA_DEVICE_NODE_NEGATIVE"
          (s!"PCI device {ctx.func.bdf} reports negative NUMA node ({node.toInt}) while VM " ++
            s!"{vmName} is pinned to node {vmNode}; treating as warning but not violation"))
      else if UInt16.ofInt node.toInt = vmNode then none
      else
        (numaMismatch mode ctx.effectiveLevel).map fun (severity, label) =>
          finding severity "NUMA_NODE_MISMATCH"
            (s!"PCI device {ctx.func.bdf} with IsolationLevel={label} is on NUMA node " ++
              s!"{node.toInt} but VM {vmName} is pinned to node {vmNode}; this NUMA mismatch is " ++
              s!"treated as {severity.debug} under mode {mode.debug}")

/-- `evaluate_numa_placement`.  Nothing is checked unless the VM is pinned to a node. -/
def evaluateNumaPlacement (vmName : String) (policy : IsolationPolicyConfig) (cfg : VmConfig)
    (ctxs : List DeviceIsolationContext) : List IsolationFinding :=
  match cfg.numa.bind NumaConfig.node with
  | none => []
  | some vmNode => ctxs.filterMap (numaFinding vmName policy.mode vmNode)

/-! ## The gate -/

/-- All findings, in the order of the evaluators. -/
def isolationFindings (vmName : String) (cfg : VmConfig) (inv : PciInventory)
    (passthroughBdfs : List String) (ctxs : List DeviceIsolationContext) :
    List IsolationFinding :=
  let policy := cfg.isolation
  (if policy.requireIommuExclusive then evaluateIommuExclusivity vmName inv passthroughBdfs
    else [])
  ++ (if policy.requireMultifunctionConsistency then
      evaluateMultifunctionConsistency vmName inv passthroughBdfs else [])
  ++ (if policy.forbidHostCriticalInGroup then
      evaluateHostCriticalSharing vmName inv passthroughBdfs else [])
  ++ evaluatePerDeviceIsolationLevels vmName policy inv ctxs passthroughBdfs
  ++ evaluateNumaPlacement vmName policy cfg ctxs

/-- `evaluate_isolation_for_vm`. -/
def evaluateIsolationForVm (vmName : String) (cfg : VmConfig) (inv : PciInventory) :
    Except ChalybsError Unit :=
  if cfg.isolation.mode = .Disabled then .ok ()
  else do
    let passthroughBdfs ← collectPassthroughBdfs cfg inv
    let ctxs ← collectDeviceContexts cfg.isolation cfg inv
    let report : IsolationReport :=
      { vmName, findings := isolationFindings vmName cfg inv passthroughBdfs ctxs }
    if cfg.isolation.mode = .Enforce ∧ report.hasViolations then
      let violationCount := report.findings.countP IsolationFinding.isViolation
      throw (.Vfio (s!"VM {vmName}: device isolation policy violations detected " ++
        s!"(count = {violationCount}); see logs for detailed findings"))

end Chalybs
