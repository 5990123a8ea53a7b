import Mathlib.Data.Finset.Card
import Mathlib.Data.List.Destutter
import Mathlib.Data.List.Sort

/-!
# CPU identity, NUMA topology and the CPU plan

`cpu/detect` describes the host CPU and its NUMA nodes, and `cpuplan` folds them with a VM's CPU
layout into a `CpuPlan`.  The two functions that do the work are

* `buildCpuPlan` — the per-node share of the VM's CPUs and the node that has most of them;
* `validateCpuPlan` — the CPUs of the layout that lie on no discovered node.

CPU and node numbers are natural numbers.
-/

namespace Chalybs

/-! ## Host CPU -/

/-- `CpuVendor`. -/
inductive CpuVendor
  | Amd
  | Intel
  | Arm
  | Unknown
  deriving DecidableEq, Repr

/-- `CpuIdentity`: what CPUID reports. -/
structure CpuIdentity where
  vendor : CpuVendor
  family : ℕ
  model : ℕ
  stepping : ℕ
  rawVendor : Option String
  modelName : Option String
  deriving DecidableEq, Repr

/-- `CpuArch`. -/
inductive CpuArch
  | AmdZen1OrZenPlus
  | AmdZen2
  | AmdZen3OrZen4
  | IntelCoreFamily
  | Arm64Generic
  | Unknown
  deriving DecidableEq, Repr

def classifyAmd (ident : CpuIdentity) : CpuArch :=
  match ident.family with
  | 0x17 => if ident.model < 0x30 then .AmdZen1OrZenPlus else .AmdZen2
  | 0x19 => .AmdZen3OrZen4
  | _ => .Unknown

def classifyIntel (ident : CpuIdentity) : CpuArch :=
  if ident.family = 6 then .IntelCoreFamily else .Unknown

/-- `classify::classify`, imported as `classify_cpu`. -/
def classifyCpu (ident : CpuIdentity) : CpuArch :=
  match ident.vendor with
  | .Amd => classifyAmd ident
  | .Intel => classifyIntel ident
  | .Arm => .Arm64Generic
  | .Unknown => .Unknown

/-- `HostNumaNode`. -/
structure HostNumaNode where
  nodeId : ℕ
  cpus : List ℕ
  deriving DecidableEq, Repr

/-- `HostNumaTopology`: the nodes in the order in which the directory was read. -/
structure HostNumaTopology where
  nodes : List HostNumaNode
  deriving DecidableEq, Repr

/-! ## The plan -/

/-- `CpuSet`. -/
structure CpuSet where
  cpus : List ℕ
  deriving DecidableEq, Repr

/-- `VmCpuLayout`: the CPUs configured for the host and for the VM. -/
structure VmCpuLayout where
  host : CpuSet
  vm : CpuSet
  deriving DecidableEq, Repr

/-- `CpuPlanNode`. -/
structure CpuPlanNode where
  nodeId : ℕ
  hostCpus : List ℕ
  vmCpus : List ℕ
  deriving DecidableEq, Repr

/-- `CpuPlan`. -/
structure CpuPlan where
  ident : CpuIdentity
  arch : CpuArch
  topology : HostNumaTopology
  vmLayout : VmCpuLayout
  nodes : List CpuPlanNode
  vmSpansNodes : Bool
  dominantNode : Option ℕ
  deriving DecidableEq, Repr

/-- `CpuPlanInputs`. -/
structure CpuPlanInputs where
  ident : CpuIdentity
  arch : CpuArch
  topology : HostNumaTopology
  vmLayout : VmCpuLayout

/-- `sort_unstable` followed by `dedup`. -/
def sortDedup (cpus : List ℕ) : List ℕ := (cpus.insertionSort (· ≤ ·)).destutter (· ≠ ·)

section

variable {cpus : List ℕ}

lemma sortDedup_eq_dedup (cpus : List ℕ) :
    sortDedup cpus = (cpus.insertionSort (· ≤ ·)).dedup :=
  (List.pairwise_insertionSort (· ≤ ·) cpus).destutter_eq_dedup

lemma mem_sortDedup {cpu : ℕ} : cpu ∈ sortDedup cpus ↔ cpu ∈ cpus := by
  rw [sortDedup_eq_dedup, List.mem_dedup, List.mem_insertionSort]

lemma length_sortDedup : (sortDedup cpus).length = cpus.toFinset.card := by
  rw [sortDedup_eq_dedup, ← List.card_toFinset,
    List.toFinset_eq_of_perm _ _ (List.perm_insertionSort (· ≤ ·) cpus)]

lemma pairwise_sortDedup : (sortDedup cpus).Pairwise (· < ·) := by
  have hle : (sortDedup cpus).Pairwise (· ≤ ·) := by
    rw [sortDedup_eq_dedup]
    exact (List.pairwise_insertionSort (· ≤ ·) cpus).sublist (List.dedup_sublist _)
  have hne : (sortDedup cpus).Pairwise (· ≠ ·) := by
    rw [sortDedup_eq_dedup]
    exact List.nodup_dedup _
  exact hle.imp₂ (fun _ _ => Nat.lt_of_le_of_ne) hne

end

/-- What the loop of `build_cpu_plan` has found after some of the nodes. -/
structure PlanProgress where
  nodes : List CpuPlanNode := []
  vmNodeCount : ℕ := 0
  dominantNode : Option ℕ := none
  dominantVmCount : ℕ := 0

/-- One node of the loop.  A later node becomes dominant only if it has strictly more of the VM's
CPUs. -/
def PlanProgress.addNode (vmLayout : VmCpuLayout) (p : PlanProgress) (node : HostNumaNode) :
    PlanProgress :=
  let hostCpus := sortDedup node.cpus
  let vmCpus := sortDedup (hostCpus.filter fun cpu => vmLayout.vm.cpus.contains cpu)
  let nodes := p.nodes ++ [{ nodeId := node.nodeId, hostCpus, vmCpus }]
  if vmCpus.isEmpty then { p with nodes }
  else if p.dominantVmCount < vmCpus.length then
    { nodes, vmNodeCount := p.vmNodeCount + 1, dominantNode := some node.nodeId,
      dominantVmCount := vmCpus.length }
  else { p with nodes, vmNodeCount := p.vmNodeCount + 1 }

/-- `builder::build_cpu_plan`. -/
def buildCpuPlan (inputs : CpuPlanInputs) : CpuPlan :=
  let p := inputs.topology.nodes.foldl (PlanProgress.addNode inputs.vmLayout) {}
  { ident := inputs.ident
    arch := inputs.arch
    topology := inputs.topology
    vmLayout := inputs.vmLayout
    nodes := p.nodes
    vmSpansNodes := decide (1 < p.vmNodeCount)
    dominantNode := p.dominantNode }

/-- `CpuPlan::vm_cpus`: the shares of the nodes in one list. -/
def CpuPlan.vmCpus (plan : CpuPlan) : List ℕ :=
  (plan.nodes.flatMap CpuPlanNode.vmCpus).insertionSort (· ≤ ·)

/-! ## Validation -/

/-- `CpuPlanValidationError`. -/
inductive CpuPlanValidationError
  | HostCpuOutsideTopology (cpu : ℕ)
  | VmCpuOutsideTopology (cpu : ℕ)
  deriving DecidableEq, Repr

/-- The text that the Validate phase makes of a finding. -/
def CpuPlanValidationError.message : CpuPlanValidationError → String
  | .HostCpuOutsideTopology cpu =>
      s!"host CPU {cpu} listed in host_cpus is not present in any discovered NUMA node"
  | .VmCpuOutsideTopology cpu =>
      s!"VM CPU {cpu} listed in vm_cpus is not present in any discovered NUMA node"

/-- `validate::validate_cpu_plan`.  An empty topology is not checked at all. -/
def validateCpuPlan (plan : CpuPlan) : List CpuPlanValidationError :=
  if plan.topology.nodes.isEmpty then []
  else
    let topoCpus := plan.topology.nodes.flatMap HostNumaNode.cpus
    let outside := fun cpus : List ℕ => cpus.filter fun cpu => !topoCpus.contains cpu
    (outside plan.vmLayout.host.cpus).map .HostCpuOutsideTopology
      ++ (outside plan.vmLayout.vm.cpus).map .VmCpuOutsideTopology

/-- A plan without findings, built over a topology with at least one node, has every CPU of the
layout on a node. -/
lemma mem_topology_of_validateCpuPlan {plan : CpuPlan} (h : validateCpuPlan plan = [])
    (hne : plan.topology.nodes ≠ []) {cpu : ℕ}
    (hcpu : cpu ∈ plan.vmLayout.host.cpus ∨ cpu ∈ plan.vmLayout.vm.cpus) :
    ∃ node ∈ plan.topology.nodes, cpu ∈ node.cpus := by
  have hne' : plan.topology.nodes.isEmpty = false := by simpa using hne
  rw [validateCpuPlan, hne', if_neg Bool.false_ne_true] at h
  simp only [List.append_eq_nil_iff, List.map_eq_nil_iff, List.filter_eq_nil_iff] at h
  rcases hcpu with hcpu | hcpu
  · simpa using h.1 cpu hcpu
  · simpa using h.2 cpu hcpu

end Chalybs
