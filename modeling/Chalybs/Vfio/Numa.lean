import Chalybs.Foundation.Lists
import Chalybs.Vfio.Verdict

/-!
# NUMA placement, exactly

`evaluate_numa_placement` converts the node that the kernel reports, an `i32`, with `as u16`
before it compares it with the node of the VM.  A node of 65536 or more wraps around, and a remote
device may pass as a local one.

* `numaSpec` — what is to be reported for a device, with the nodes compared as integers.
* `WrapsTo` — the nodes that the conversion confuses with the VM's.
* `numaPlacement_iff` — the report is the expected one exactly when no device wraps around.
-/

namespace Chalybs

open Foundation

/-- What matters of a finding: its severity, its code and its device. -/
def IsolationFinding.head (finding : IsolationFinding) :
    IsolationSeverity × String × Option String :=
  (finding.severity, finding.code, finding.deviceBdf)

/-- What is to be reported for a device of a VM pinned to `vmNode`. -/
def numaSpec (mode : IsolationMode) (vmNode : UInt16) (ctx : DeviceIsolationContext) :
    Option (IsolationSeverity × String × Option String) :=
  match ctx.func.numaNode with
  | none => some (.Warning, "NUMA_DEVICE_NODE_UNKNOWN", some ctx.func.bdf)
  | some node =>
      if node.toInt < 0 then some (.Warning, "NUMA_DEVICE_NODE_NEGATIVE", some ctx.func.bdf)
      else if ctx.effectiveLevel = .Forbidden ∨ node.toInt = vmNode.toNat then none
      else
        let severity := if ctx.effectiveLevel = .Dedicated ∧ mode = .Enforce then
          IsolationSeverity.Violation else .Warning
        some (severity, "NUMA_NODE_MISMATCH", some ctx.func.bdf)

/-- The device is on a node beyond the range of `u16` that the conversion turns into `vmNode`. -/
def DeviceIsolationContext.WrapsTo (ctx : DeviceIsolationContext) (vmNode : UInt16) : Prop :=
  ∃ node, ctx.func.numaNode = some node ∧ 65536 ≤ node.toInt ∧ node.toInt % 65536 = vmNode.toNat

section

variable {vmName : String} {mode : IsolationMode} {vmNode : UInt16} {ctx : DeviceIsolationContext}
  {node : Int32}

lemma wrapsTo_iff (hn : ctx.func.numaNode = some node) :
    ctx.WrapsTo vmNode ↔ 65536 ≤ node.toInt ∧ node.toInt % 65536 = vmNode.toNat := by
  simp [DeviceIsolationContext.WrapsTo, hn]

/-- A device on a node that the conversion keeps apart from the VM's is reported as expected. -/
lemma numaFinding_head_of_ne (hn : ctx.func.numaNode = some node) (hneg : ¬ node.toInt < 0)
    (hmod : UInt16.ofInt node.toInt ≠ vmNode) :
    (numaFinding vmName mode vmNode ctx).map IsolationFinding.head = numaSpec mode vmNode ctx := by
  have hne : node.toInt ≠ vmNode.toNat := by
    rw [Ne, ofInt_eq_iff] at hmod
    have hbound : vmNode.toNat < 65536 := vmNode.toNat_lt
    omega
  cases hlevel : ctx.effectiveLevel with
  | Forbidden => simp [numaFinding, numaSpec, hn, hneg, hmod, hlevel, numaMismatch]
  | SharedWithHost =>
      simp [numaFinding, numaSpec, hn, hneg, hmod, hlevel, hne, numaMismatch,
        IsolationFinding.head]
  | Dedicated =>
      cases mode <;>
        simp [numaFinding, numaSpec, hn, hneg, hmod, hlevel, hne, numaMismatch,
          IsolationFinding.head]

/-- **One device.**  It is reported as expected unless its node wraps around, and then it is not
reported at all. -/
lemma numaFinding_head (vmName : String) (mode : IsolationMode) (vmNode : UInt16)
    (ctx : DeviceIsolationContext) :
    (numaFinding vmName mode vmNode ctx).map IsolationFinding.head =
        numaSpec mode vmNode ctx ∧
      (ctx.effectiveLevel = .Forbidden ∨ ¬ ctx.WrapsTo vmNode) ∨
    (numaFinding vmName mode vmNode ctx).map IsolationFinding.head = none ∧
      numaSpec mode vmNode ctx ≠ none ∧
      ctx.effectiveLevel ≠ .Forbidden ∧ ctx.WrapsTo vmNode := by
  cases hn : ctx.func.numaNode with
  | none =>
      left
      simp [numaFinding, numaSpec, hn, IsolationFinding.head, DeviceIsolationContext.WrapsTo]
  | some node =>
      rw [wrapsTo_iff hn]
      by_cases hneg : node.toInt < 0
      · left
        refine ⟨by simp [numaFinding, numaSpec, hn, hneg, IsolationFinding.head], Or.inr ?_⟩
        omega
      have hbound : vmNode.toNat < 65536 := vmNode.toNat_lt
      by_cases hmod : UInt16.ofInt node.toInt = vmNode
      · have hfinding : numaFinding vmName mode vmNode ctx = none := by
          simp [numaFinding, hn, hneg, hmod]
        rw [ofInt_eq_iff] at hmod
        by_cases hexpect : ctx.effectiveLevel = .Forbidden ∨ node.toInt = vmNode.toNat
        · left
          refine ⟨by simp [hfinding, numaSpec, hn, hneg, hexpect], hexpect.imp id fun heq => ?_⟩
          omega
        · right
          rw [not_or] at hexpect
          refine ⟨by simp [hfinding], by simp [numaSpec, hn, hneg, hexpect], hexpect.1, ?_⟩
          omega
      · refine .inl ⟨numaFinding_head_of_ne hn hneg hmod, .inr fun h => hmod ?_⟩
        rw [ofInt_eq_iff]
        exact h.2

end

/-- **When NUMA placement is reported exactly.**  The findings for a VM pinned to a node are, in
the order of the devices, a warning for every device whose node is unknown or negative, and a
mismatch for every device that is not forbidden and on another node, exactly when no such device is
on a node from 65536 on that agrees with the VM's in its lowest 16 bits. -/
theorem numaPlacement_iff (vmName : String) (policy : IsolationPolicyConfig) (cfg : VmConfig)
    (ctxs : List DeviceIsolationContext) (vmNode : UInt16)
    (hnode : cfg.numa.bind NumaConfig.node = some vmNode) :
    (evaluateNumaPlacement vmName policy cfg ctxs).map IsolationFinding.head =
        ctxs.filterMap (numaSpec policy.mode vmNode) ↔
      ∀ ctx ∈ ctxs, ctx.effectiveLevel ≠ .Forbidden → ¬ ctx.WrapsTo vmNode := by
  rw [evaluateNumaPlacement, hnode]
  simp only [List.map_filterMap]
  rw [filterMap_eq_filterMap_iff]
  · refine forall_congr' fun ctx => imp_congr_right fun _ => ?_
    rcases numaFinding_head vmName policy.mode vmNode ctx with
      ⟨heq, hno⟩ | ⟨hnone, hsome, hlevel, hwraps⟩
    · exact iff_of_true heq fun hlevel => hno.resolve_left hlevel
    · exact iff_of_false (fun heq => hsome (heq.symm.trans hnone)) fun h => h hlevel hwraps
  · intro ctx _
    rcases numaFinding_head vmName policy.mode vmNode ctx with ⟨heq, -⟩ | ⟨hnone, -⟩
    · exact Or.inr heq
    · exact Or.inl hnone

/-- A device on the given node, dedicated to the VM. -/
def dedicatedOnNode (node : Int32) : DeviceIsolationContext where
  deviceCfg := { pciAddress := "0000:01:00.0" }
  func := makeGpu "0000:01:00.0" (some "vfio-pci") (some 1) (some node)
  deviceClass := .Gpu
  effectiveLevel := .Dedicated

def pinnedConfig (node : UInt16) : VmConfig :=
  { minimalVmConfig {} { mode := .Enforce } with numa := some { node := some node } }

theorem numaPlacement_iff_twoNodes :
    (evaluateNumaPlacement "testvm" (pinnedConfig 0).isolation (pinnedConfig 0)
        [dedicatedOnNode 0, dedicatedOnNode 1]).map IsolationFinding.head =
        [dedicatedOnNode 0, dedicatedOnNode 1].filterMap (numaSpec .Enforce 0) ↔
      ∀ ctx ∈ [dedicatedOnNode 0, dedicatedOnNode 1],
        ctx.effectiveLevel ≠ .Forbidden → ¬ ctx.WrapsTo 0 :=
  numaPlacement_iff _ _ _ _ _ rfl

/-- A device on node 65536 passes as one on node 0. -/
theorem numaPlacement_wraps :
    ¬ ∀ (vmName : String) (policy : IsolationPolicyConfig) (cfg : VmConfig)
      (ctxs : List DeviceIsolationContext) (vmNode : UInt16),
      cfg.numa.bind NumaConfig.node = some vmNode →
        (evaluateNumaPlacement vmName policy cfg ctxs).map IsolationFinding.head =
          ctxs.filterMap (numaSpec policy.mode vmNode) := by
  intro h
  have hspec := h "testvm" (pinnedConfig 0).isolation (pinnedConfig 0) [dedicatedOnNode 65536] 0 rfl
  revert hspec
  decide

end Chalybs
