import Chalybs.Foundation.Lists
import Chalybs.Hugepages.NodeSelection

/-!
# What a CPU plan says of the VM

`build_cpu_plan` (`cpuplan/builder.rs`) gives every node its share of the VM's CPUs, and
`validate_cpu_plan` (`cpuplan/validate.rs`) looks for CPUs of the layout that lie on no node.

* `share`, `nodes_buildCpuPlan` — the share of a node.
* `PlanSound` — the shares partition the VM's CPUs, and the summary of the plan is right.
* `mem_validateCpuPlan` — what is found.
* `plan_sound_of_validate` — a plan without findings is sound.
-/

namespace Chalybs

open Foundation

/-! ## The shares -/

/-- The node of the plan that `build_cpu_plan` makes of a node. -/
def share (vmLayout : VmCpuLayout) (node : HostNumaNode) : CpuPlanNode where
  nodeId := node.nodeId
  hostCpus := sortDedup node.cpus
  vmCpus := sortDedup ((sortDedup node.cpus).filter fun cpu => vmLayout.vm.cpus.contains cpu)

/-- Some of the CPUs lie on the node. -/
def HostNumaNode.touches (cpus : List ℕ) (node : HostNumaNode) : Bool :=
  node.cpus.any fun cpu => cpus.contains cpu

/-- The nodes on which some of the CPUs lie. -/
def HostNumaTopology.nodesOf (topology : HostNumaTopology) (cpus : List ℕ) : List HostNumaNode :=
  topology.nodes.filter (HostNumaNode.touches cpus)

section

variable {vmLayout : VmCpuLayout} {node : HostNumaNode}

lemma mem_share {cpu : ℕ} :
    cpu ∈ (share vmLayout node).vmCpus ↔ cpu ∈ node.cpus ∧ cpu ∈ vmLayout.vm.cpus := by
  simp [share, mem_sortDedup]

lemma isEmpty_share :
    (share vmLayout node).vmCpus.isEmpty = !node.touches vmLayout.vm.cpus := by
  rw [Bool.eq_iff_iff, List.isEmpty_iff, List.eq_nil_iff_forall_not_mem]
  simp [mem_share, HostNumaNode.touches]

/-- A turn of the loop adds a share, and counts the node if the share is not empty. -/
lemma addNode_share (p : PlanProgress) :
    (p.addNode vmLayout node).nodes = p.nodes ++ [share vmLayout node] ∧
      (p.addNode vmLayout node).vmNodeCount =
        p.vmNodeCount + if node.touches vmLayout.vm.cpus then 1 else 0 := by
  have hempty := @isEmpty_share vmLayout node
  rw [share] at hempty
  simp only [PlanProgress.addNode, hempty, share]
  cases node.touches vmLayout.vm.cpus with
  | false => simp
  | true =>
      simp only [Bool.not_true, Bool.false_eq_true, if_false, if_true]
      split_ifs
      · exact ⟨rfl, rfl⟩
      · exact ⟨rfl, rfl⟩

lemma foldl_addNode_share (nodes : List HostNumaNode) (p : PlanProgress) :
    let p' := nodes.foldl (PlanProgress.addNode vmLayout) p
    p'.nodes = p.nodes ++ nodes.map (share vmLayout) ∧
      p'.vmNodeCount =
        p.vmNodeCount + (nodes.filter (HostNumaNode.touches vmLayout.vm.cpus)).length := by
  induction nodes generalizing p with
  | nil => simp
  | cons node nodes ih =>
      obtain ⟨hnodes, hcount⟩ := ih (p.addNode vmLayout node)
      obtain ⟨hnode, hone⟩ := @addNode_share vmLayout node p
      refine ⟨?_, ?_⟩
      · rw [List.foldl_cons, hnodes, hnode, List.append_assoc]
        rfl
      · rw [List.foldl_cons, hcount, hone, List.filter_cons]
        split_ifs
        · rw [List.length_cons]
          omega
        · omega

end

section

variable {inputs : CpuPlanInputs}

/-- **The nodes of a plan** are the shares of the nodes. -/
lemma nodes_buildCpuPlan :
    (buildCpuPlan inputs).nodes = inputs.topology.nodes.map (share inputs.vmLayout) :=
  (foldl_addNode_share inputs.topology.nodes {}).1

lemma vmSpansNodes_iff :
    (buildCpuPlan inputs).vmSpansNodes = true ↔
      2 ≤ (inputs.topology.nodesOf inputs.vmLayout.vm.cpus).length := by
  have hcount := (@foldl_addNode_share inputs.vmLayout inputs.topology.nodes {}).2
  rw [buildCpuPlan, decide_eq_true_iff, hcount, Nat.zero_add]
  rfl

/-- **What is found**: the CPUs of the layout that lie on no node. -/
lemma mem_validateCpuPlan {plan : CpuPlan} (hne : plan.topology.nodes ≠ []) {cpu : ℕ} :
    (.HostCpuOutsideTopology cpu ∈ validateCpuPlan plan ↔
        cpu ∈ plan.vmLayout.host.cpus ∧ ∀ node ∈ plan.topology.nodes, cpu ∉ node.cpus) ∧
      (.VmCpuOutsideTopology cpu ∈ validateCpuPlan plan ↔
        cpu ∈ plan.vmLayout.vm.cpus ∧ ∀ node ∈ plan.topology.nodes, cpu ∉ node.cpus) := by
  have hnodes : plan.topology.nodes.isEmpty = false := by simpa using hne
  constructor
  · simp [validateCpuPlan, hnodes]
  · simp [validateCpuPlan, hnodes]

/-! ## Sound plans -/

/-- The shares of the nodes partition the CPUs of the VM, and what the plan says of them is so. -/
structure PlanSound (plan : CpuPlan) : Prop where
  /-- The share of each node has the CPUs of the VM that lie on it. -/
  shares : List.Forall₂ (fun (node : HostNumaNode) (own : CpuPlanNode) =>
    own.nodeId = node.nodeId ∧ ∀ cpu, cpu ∈ own.vmCpus ↔
      cpu ∈ node.cpus ∧ cpu ∈ plan.vmLayout.vm.cpus) plan.topology.nodes plan.nodes
  partition : Partitions (plan.nodes.map CpuPlanNode.vmCpus) plan.vmLayout.vm.cpus
  increasing : plan.vmCpus.Pairwise (· < ·)
  mem_vmCpus : ∀ cpu, cpu ∈ plan.vmCpus ↔ cpu ∈ plan.vmLayout.vm.cpus
  spans : plan.vmSpansNodes = true ↔
    2 ≤ (plan.topology.nodesOf plan.vmLayout.vm.cpus).length
  noDominant : plan.dominantNode = none ↔ plan.vmLayout.vm.cpus = []
  dominant : ∀ id, plan.dominantNode = some id →
    MostOf (plan.topology.nodes.map fun node => (node.nodeId, node.cpus))
      plan.vmLayout.vm.cpus id

lemma overlap_eq_zero {given own : List ℕ} : overlap given own = 0 ↔ ∀ cpu ∈ given, cpu ∉ own := by
  rw [overlap, Finset.card_eq_zero, ← Finset.disjoint_iff_inter_eq_empty, Finset.disjoint_left]
  simp

/-- If all CPUs of the VM lie on nodes, a node is dominant unless there are none. -/
lemma dominantNode_eq_none
    (hcover : ∀ cpu ∈ inputs.vmLayout.vm.cpus, ∃ node ∈ inputs.topology.nodes, cpu ∈ node.cpus) :
    (buildCpuPlan inputs).dominantNode = none ↔ inputs.vmLayout.vm.cpus = [] := by
  rw [dominantNode_eq, firstBest_eq_none, List.eq_nil_iff_forall_not_mem]
  constructor
  · intro hnone cpu hcpu
    obtain ⟨node, hnode, hon⟩ := hcover cpu hcpu
    have hzero : overlap inputs.vmLayout.vm.cpus node.cpus = 0 :=
      hnone _ (List.mem_map_of_mem hnode)
    exact overlap_eq_zero.mp hzero cpu hcpu hon
  · rintro hnil c hc
    obtain ⟨node, -, rfl⟩ := List.mem_map.mp hc
    exact overlap_eq_zero.mpr fun cpu hcpu => absurd hcpu (hnil cpu)

/-- **A plan without findings is sound**, over a topology of disjoint nodes; and the findings are
the CPUs of the layout that lie on no node. -/
theorem plan_sound_of_validate (hne : inputs.topology.nodes ≠ [])
    (hdisjoint : inputs.topology.nodes.Pairwise fun a b => a.cpus.Disjoint b.cpus) :
    (validateCpuPlan (buildCpuPlan inputs) = [] → PlanSound (buildCpuPlan inputs)) ∧
      ∀ cpu,
        (.HostCpuOutsideTopology cpu ∈ validateCpuPlan (buildCpuPlan inputs) ↔
          cpu ∈ inputs.vmLayout.host.cpus ∧ ∀ node ∈ inputs.topology.nodes, cpu ∉ node.cpus) ∧
        (.VmCpuOutsideTopology cpu ∈ validateCpuPlan (buildCpuPlan inputs) ↔
          cpu ∈ inputs.vmLayout.vm.cpus ∧ ∀ node ∈ inputs.topology.nodes, cpu ∉ node.cpus) := by
  let plan := buildCpuPlan inputs
  refine ⟨fun hvalid => ?_, fun cpu => @mem_validateCpuPlan plan hne cpu⟩
  have hcover : ∀ cpu ∈ inputs.vmLayout.vm.cpus,
      ∃ node ∈ inputs.topology.nodes, cpu ∈ node.cpus :=
    fun cpu hcpu => mem_topology_of_validateCpuPlan hvalid hne (.inr hcpu)
  have hpartition : Partitions (plan.nodes.map CpuPlanNode.vmCpus) inputs.vmLayout.vm.cpus := by
    rw [nodes_buildCpuPlan, List.map_map]
    refine .of_cells hdisjoint hcover (fun node _ => ?_) fun node _ cpu => mem_share
    exact pairwise_sortDedup.imp Nat.ne_of_lt
  have hperm : plan.vmCpus.Perm (plan.nodes.map CpuPlanNode.vmCpus).flatten := by
    rw [CpuPlan.vmCpus, List.flatMap_def]
    exact List.perm_insertionSort _ _
  constructor
  case shares =>
    rw [nodes_buildCpuPlan, List.forall₂_map_right_iff]
    exact List.forall₂_same.mpr fun node _ => ⟨rfl, fun cpu => mem_share⟩
  case partition => exact hpartition
  case increasing =>
    have hle : plan.vmCpus.Pairwise (· ≤ ·) := List.pairwise_insertionSort _ _
    exact hle.imp₂ (fun _ _ => Nat.lt_of_le_of_ne) (hperm.nodup_iff.mpr hpartition.nodup_flatten)
  case mem_vmCpus => exact fun cpu => hperm.mem_iff.trans hpartition.mem_flatten
  case spans => exact vmSpansNodes_iff
  case noDominant => exact dominantNode_eq_none hcover
  case dominant =>
    intro id hid
    rw [dominantNode_eq] at hid
    obtain ⟨c, hc, rfl⟩ := exists_leads_of_firstBest hid
    exact mostOf_of_leads_topology hc

end

/-- A VM with three CPUs on two nodes. -/
def twoNodePlan : CpuPlanInputs where
  ident := ⟨.Unknown, 0, 0, 0, none, none⟩
  arch := .Unknown
  topology := ⟨[⟨0, [0, 1]⟩, ⟨1, [2, 3, 4]⟩]⟩
  vmLayout := ⟨⟨[0, 2]⟩, ⟨[4, 1, 3]⟩⟩

theorem plan_sound_twoNodes : PlanSound (buildCpuPlan twoNodePlan) :=
  (plan_sound_of_validate (by decide) (by simp [twoNodePlan])).1 (by decide)

end Chalybs
