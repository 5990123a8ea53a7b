import Chalybs.Cpu.Reserve
import Chalybs.Foundation.Grouping

/-!
# The CPUs that are left to the host

`derive_host_cpus_from_topology` (`cpuset/mod.rs`) gives the host the nodes that the VM does not
use.  If the VM uses every node, it takes the online CPUs outside the VM.

* `NumaTopology.deriveHostCpus`, `NumaSysfs.deriveHostCpusFromTopology` — the function.
* `DerivesLeftOver` — the host gets CPUs exactly if some are left over, and none of the VM's.
* `mem_hostCpus` — what the host gets.
* `derivesLeftOver_iff` — for which topologies it is so.
-/

namespace Chalybs

open Foundation

/-! ## The function -/

/-- `topo.node_cpus.get(n)`. -/
def NumaTopology.cpusOf (topo : NumaTopology) (id : ℕ) : Option (List ℕ) :=
  (topo.nodeCpus.find? fun node => decide (node.nodeId = id)).map HostNumaNode.cpus

/-- `host_nodes`: all nodes but those of the VM. -/
def NumaTopology.hostNodes (topo : NumaTopology) (vmCpus : List ℕ) : List ℕ :=
  (topo.nodeCpus.map HostNumaNode.nodeId).filter fun id => !(nodesForCpus topo vmCpus).contains id

/-- `host_cpus`, before it is checked. -/
def NumaTopology.hostCpus (topo : NumaTopology) (vmCpus : List ℕ) : List ℕ :=
  if !(topo.hostNodes vmCpus).isEmpty then
    sortDedup ((topo.hostNodes vmCpus).flatMap fun id => (topo.cpusOf id).getD [])
  else sortDedup (topo.onlineCpus.filter fun cpu => !vmCpus.contains cpu)

/-- The part of `derive_host_cpus_from_topology` that looks at the topology. -/
def NumaTopology.deriveHostCpus (topo : NumaTopology) (vmCpus : List ℕ) :
    Except ChalybsError (List ℕ) :=
  if (nodesForCpus topo vmCpus).isEmpty then
    .error (.Cgroup "no NUMA nodes found for vm_cpus; topology inconsistent")
  else if (topo.hostCpus vmCpus).isEmpty then
    .error (.Cgroup "derived host_cpus is empty (vm_cpus may consume all CPUs)")
  else .ok (topo.hostCpus vmCpus)

/-- `derive_host_cpus_from_topology`. -/
def NumaSysfs.deriveHostCpusFromTopology (sys : NumaSysfs) (vmCpus : List ℕ) :
    Except ChalybsError (List ℕ) :=
  if vmCpus.isEmpty then .error (.Cgroup "cannot derive host_cpus from empty vm_cpus")
  else do
    let topo ← sys.discoverNumaTopology
    topo.deriveHostCpus vmCpus

/-! ## Discovered topologies -/

lemma sublist_keys_of_readNodes {dirs : List (Sigma fun _ : ℕ => CpuListFile)}
    {nodes : List HostNumaNode} (h : readNodes dirs = .ok nodes) :
    (nodes.map HostNumaNode.nodeId).Sublist dirs.keys := by
  induction dirs generalizing nodes with
  | nil =>
      obtain rfl := Except.ok.inj h
      exact .refl _
  | cons dir dirs ih =>
      obtain ⟨id, file⟩ := dir
      rcases file with _ | (e | text)
      · exact (ih h).cons _
      · cases h
      · rw [readNodes] at h
        obtain ⟨cpus, -, h⟩ := except_bind_eq_ok.mp h
        obtain ⟨rest, hrest, h⟩ := except_bind_eq_ok.mp h
        obtain rfl := Except.ok.inj h
        exact (ih hrest).cons_cons _

/-- The nodes that are discovered have distinct numbers. -/
lemma nodup_discovered {sys : NumaSysfs} {topo : NumaTopology}
    (h : sys.discoverNumaTopology = .ok topo) :
    (topo.nodeCpus.map HostNumaNode.nodeId).Nodup := by
  obtain ⟨online, -, h⟩ := except_bind_eq_ok.mp h
  obtain ⟨nodes, hnodes, h⟩ := except_bind_eq_ok.mp h
  obtain rfl := Except.ok.inj h
  dsimp only
  split_ifs with hempty
  · exact List.nodup_singleton 0
  · have hperm := List.perm_insertionSort (fun a b : HostNumaNode => a.nodeId ≤ b.nodeId) nodes
    rw [(hperm.map HostNumaNode.nodeId).nodup_iff]
    rw [NumaSysfs.readNodeDir] at hnodes
    cases hdir : sys.nodeDir with
    | none =>
        rw [hdir] at hnodes
        obtain rfl := Except.ok.inj hnodes
        exact List.nodup_nil
    | some read =>
        cases read with
        | error e => simp [hdir] at hnodes
        | ok dirs =>
            simp only [hdir] at hnodes
            exact (sublist_keys_of_readNodes hnodes).nodup dirs.nodupKeys

/-! ## What the host gets -/

/-- A node without a CPU of the VM. -/
def NumaTopology.Free (topo : NumaTopology) (vmCpus : List ℕ) (node : HostNumaNode) : Prop :=
  node ∈ topo.nodeCpus ∧ ∀ cpu ∈ node.cpus, cpu ∉ vmCpus

/-- Every online CPU lies on a node. -/
def NumaTopology.OnlineOnNodes (topo : NumaTopology) : Prop :=
  ∀ cpu ∈ topo.onlineCpus, ∃ node ∈ topo.nodeCpus, cpu ∈ node.cpus

instance (topo : NumaTopology) : Decidable topo.OnlineOnNodes :=
  inferInstanceAs (Decidable (∀ cpu ∈ topo.onlineCpus, ∃ node ∈ topo.nodeCpus, cpu ∈ node.cpus))

/-- Some online CPU is not the VM's. -/
def NumaTopology.LeavesCpus (topo : NumaTopology) (vmCpus : List ℕ) : Prop :=
  ∃ cpu ∈ topo.onlineCpus, cpu ∉ vmCpus

section

variable {topo : NumaTopology} {vmCpus : List ℕ} {cpu : ℕ}

/-- Of distinct nodes, the free ones are those that the VM's nodes do not name. -/
lemma free_iff (hnodup : (topo.nodeCpus.map HostNumaNode.nodeId).Nodup) {node : HostNumaNode}
    (hnode : node ∈ topo.nodeCpus) :
    node.nodeId ∉ nodesForCpus topo vmCpus ↔ topo.Free vmCpus node := by
  rw [nodesForCpus, NumaTopology.Free]
  constructor
  · intro hid
    refine ⟨hnode, fun cpu hcpu hvm => hid (List.mem_map_of_mem ?_)⟩
    exact List.mem_filter.mpr ⟨hnode, by simpa using ⟨cpu, hcpu, hvm⟩⟩
  · rintro ⟨-, hfree⟩ hid
    obtain ⟨other, hother, hid⟩ := List.mem_map.mp hid
    obtain ⟨hmem, htouched⟩ := List.mem_filter.mp hother
    obtain rfl := List.inj_on_of_nodup_map hnodup hmem hnode hid
    obtain ⟨cpu, hcpu, hvm⟩ := List.any_eq_true.mp htouched
    exact hfree cpu hcpu (by simpa using hvm)

lemma mem_hostNodes (hnodup : (topo.nodeCpus.map HostNumaNode.nodeId).Nodup) {id : ℕ} :
    id ∈ topo.hostNodes vmCpus ↔ ∃ node, topo.Free vmCpus node ∧ node.nodeId = id := by
  rw [NumaTopology.hostNodes, List.mem_filter]
  constructor
  · rintro ⟨hid, hnot⟩
    obtain ⟨node, hnode, rfl⟩ := List.mem_map.mp hid
    exact ⟨node, (free_iff hnodup hnode).mp (by simpa using hnot), rfl⟩
  · rintro ⟨node, hfree, rfl⟩
    have hnot := (free_iff hnodup hfree.1).mpr hfree
    exact ⟨List.mem_map_of_mem hfree.1, by simpa using hnot⟩

lemma cpusOf_eq (hnodup : (topo.nodeCpus.map HostNumaNode.nodeId).Nodup) {node : HostNumaNode}
    (hnode : node ∈ topo.nodeCpus) : topo.cpusOf node.nodeId = some node.cpus := by
  rw [NumaTopology.cpusOf, (find?_key_eq_some hnodup).mpr ⟨hnode, rfl⟩, Option.map_some]

lemma hostNodes_eq_nil (hnodup : (topo.nodeCpus.map HostNumaNode.nodeId).Nodup) :
    topo.hostNodes vmCpus = [] ↔ ¬ ∃ node, topo.Free vmCpus node := by
  rw [List.eq_nil_iff_forall_not_mem]
  simp only [mem_hostNodes hnodup]
  constructor
  · rintro h ⟨node, hfree⟩
    exact h _ ⟨node, hfree, rfl⟩
  · rintro h id ⟨node, hfree, -⟩
    exact h ⟨node, hfree⟩

/-- **What the host gets**: the CPUs of the free nodes, or if there are none the online CPUs outside
the VM. -/
lemma mem_hostCpus (hnodup : (topo.nodeCpus.map HostNumaNode.nodeId).Nodup) :
    cpu ∈ topo.hostCpus vmCpus ↔
      (∃ node, topo.Free vmCpus node ∧ cpu ∈ node.cpus) ∨
        (¬ ∃ node, topo.Free vmCpus node) ∧ cpu ∈ topo.onlineCpus ∧ cpu ∉ vmCpus := by
  rw [NumaTopology.hostCpus]
  by_cases hfree : ∃ node, topo.Free vmCpus node
  · have hempty : (topo.hostNodes vmCpus).isEmpty = false :=
      List.isEmpty_eq_false_iff.mpr fun h => (hostNodes_eq_nil hnodup).mp h hfree
    rw [hempty, Bool.not_false, if_pos rfl, mem_sortDedup, List.mem_flatMap]
    constructor
    · rintro ⟨id, hid, hcpu⟩
      obtain ⟨node, hnode, rfl⟩ := (mem_hostNodes hnodup).mp hid
      rw [cpusOf_eq hnodup hnode.1] at hcpu
      exact .inl ⟨node, hnode, hcpu⟩
    · rintro (⟨node, hnode, hcpu⟩ | ⟨hnone, -⟩)
      · refine ⟨node.nodeId, (mem_hostNodes hnodup).mpr ⟨node, hnode, rfl⟩, ?_⟩
        rwa [cpusOf_eq hnodup hnode.1]
      · exact absurd hfree hnone
  · have hempty : (topo.hostNodes vmCpus).isEmpty = true :=
      List.isEmpty_iff.mpr ((hostNodes_eq_nil hnodup).mpr hfree)
    rw [hempty, Bool.not_true, if_neg Bool.false_ne_true, mem_sortDedup, List.mem_filter]
    constructor
    · rintro ⟨honline, hvm⟩
      exact .inr ⟨hfree, honline, by simpa using hvm⟩
    · rintro (⟨node, hnode, -⟩ | ⟨-, honline, hvm⟩)
      · exact absurd ⟨node, hnode⟩ hfree
      · exact ⟨honline, by simpa using hvm⟩

/-- If a node is free, the host gets CPUs exactly if a free node has some. -/
lemma exists_hostCpus_of_free (hnodup : (topo.nodeCpus.map HostNumaNode.nodeId).Nodup)
    (hfree : ∃ node, topo.Free vmCpus node) :
    (∃ cpu, cpu ∈ topo.hostCpus vmCpus) ↔ ∃ node, topo.Free vmCpus node ∧ node.cpus ≠ [] := by
  simp only [mem_hostCpus hnodup, hfree, not_true_eq_false, false_and, or_false]
  constructor
  · rintro ⟨cpu, node, hnode, hcpu⟩
    exact ⟨node, hnode, List.ne_nil_of_mem hcpu⟩
  · rintro ⟨node, hnode, hne⟩
    obtain ⟨cpu, hcpu⟩ := List.exists_mem_of_ne_nil _ hne
    exact ⟨cpu, node, hnode, hcpu⟩

/-- If the VM is on every node, the host gets the online CPUs that are left over. -/
lemma exists_hostCpus_of_not_free (hnodup : (topo.nodeCpus.map HostNumaNode.nodeId).Nodup)
    (hfree : ¬ ∃ node, topo.Free vmCpus node) :
    (∃ cpu, cpu ∈ topo.hostCpus vmCpus) ↔ topo.LeavesCpus vmCpus := by
  simp only [mem_hostCpus hnodup, hfree, not_false_eq_true, true_and]
  constructor
  · rintro ⟨cpu, ⟨node, hnode, -⟩ | hcpu⟩
    · exact absurd ⟨node, hnode⟩ hfree
    · exact ⟨cpu, hcpu⟩
  · rintro ⟨cpu, hcpu⟩
    exact ⟨cpu, .inr hcpu⟩

/-- The host gets none of the VM's CPUs. -/
lemma not_mem_of_mem_hostCpus (hnodup : (topo.nodeCpus.map HostNumaNode.nodeId).Nodup)
    (hcpu : cpu ∈ topo.hostCpus vmCpus) : cpu ∉ vmCpus := by
  rcases (mem_hostCpus hnodup).mp hcpu with ⟨node, hfree, hon⟩ | ⟨-, -, hnot⟩
  · exact hfree.2 cpu hon
  · exact hnot

lemma pairwise_hostCpus : (topo.hostCpus vmCpus).Pairwise (· < ·) := by
  rw [NumaTopology.hostCpus]
  split_ifs
  · exact pairwise_sortDedup
  · exact pairwise_sortDedup

lemma deriveHostCpus_eq_ok (hmeets : topo.Meets vmCpus) {cpus : List ℕ} :
    topo.deriveHostCpus vmCpus = .ok cpus ↔
      topo.hostCpus vmCpus ≠ [] ∧ cpus = topo.hostCpus vmCpus := by
  have hnodes : (nodesForCpus topo vmCpus).isEmpty = false :=
    List.isEmpty_eq_false_iff.mpr fun hnil => nodesForCpus_eq_nil.mp hnil hmeets
  rw [NumaTopology.deriveHostCpus, hnodes, if_neg Bool.false_ne_true]
  split_ifs with hempty
  · exact iff_of_false (fun h => by cases h) fun h => h.1 (List.isEmpty_iff.mp hempty)
  · rw [Except.ok.injEq, eq_comm]
    exact (and_iff_right fun hnil => hempty (List.isEmpty_iff.mpr hnil)).symm

/-- **The whole function**, on the topology that is discovered. -/
lemma deriveHostCpusFromTopology_eq_ok {sys : NumaSysfs}
    (htopo : sys.discoverNumaTopology = .ok topo) (hmeets : topo.Meets vmCpus) {cpus : List ℕ} :
    sys.deriveHostCpusFromTopology vmCpus = .ok cpus ↔
      topo.hostCpus vmCpus ≠ [] ∧ cpus = topo.hostCpus vmCpus := by
  have hvm : vmCpus.isEmpty = false := List.isEmpty_eq_false_iff.mpr hmeets.ne_nil
  rw [NumaSysfs.deriveHostCpusFromTopology, hvm, if_neg Bool.false_ne_true, htopo]
  exact deriveHostCpus_eq_ok hmeets

end

/-! ## When the host gets what is left over -/

/-- The host gets CPUs exactly if an online one is left over, in increasing order and none of the
VM's. -/
structure DerivesLeftOver (sys : NumaSysfs) (topo : NumaTopology) (vmCpus : List ℕ) : Prop where
  ok_iff : (∃ cpus, sys.deriveHostCpusFromTopology vmCpus = .ok cpus) ↔ topo.LeavesCpus vmCpus
  sound : ∀ cpus, sys.deriveHostCpusFromTopology vmCpus = .ok cpus →
    cpus.Pairwise (· < ·) ∧ cpus ≠ [] ∧ ∀ cpu ∈ cpus, cpu ∉ vmCpus

/-- **When the host gets what is left over**: either every node has a CPU of the VM; or some of the
others has CPUs, exactly if an online CPU is left over. -/
theorem derivesLeftOver_iff {sys : NumaSysfs} {topo : NumaTopology} {vmCpus : List ℕ}
    (htopo : sys.discoverNumaTopology = .ok topo) (hmeets : topo.Meets vmCpus) :
    DerivesLeftOver sys topo vmCpus ↔
      ((∃ node, topo.Free vmCpus node) →
        ((∃ node, topo.Free vmCpus node ∧ node.cpus ≠ []) ↔ topo.LeavesCpus vmCpus)) := by
  have hnodup := nodup_discovered htopo
  have hok : (∃ cpus, sys.deriveHostCpusFromTopology vmCpus = .ok cpus) ↔
      ∃ cpu, cpu ∈ topo.hostCpus vmCpus := by
    simp only [deriveHostCpusFromTopology_eq_ok htopo hmeets, exists_and_left, exists_eq, and_true]
    exact ⟨List.exists_mem_of_ne_nil _, fun h => h.elim fun _ => List.ne_nil_of_mem⟩
  constructor
  · intro h hfree
    rw [← exists_hostCpus_of_free hnodup hfree, ← hok]
    exact h.ok_iff
  · intro h
    constructor
    case ok_iff =>
      refine hok.trans ?_
      by_cases hfree : ∃ node, topo.Free vmCpus node
      · exact (exists_hostCpus_of_free hnodup hfree).trans (h hfree)
      · exact exists_hostCpus_of_not_free hnodup hfree
    case sound =>
      intro cpus hcpus
      obtain ⟨hne, rfl⟩ := (deriveHostCpusFromTopology_eq_ok htopo hmeets).mp hcpus
      exact ⟨pairwise_hostCpus, hne, fun _ => not_mem_of_mem_hostCpus hnodup⟩

/-- A host whose second node has memory only. -/
def memoryNodeSysfs : NumaSysfs where
  online := .ok "0-3"
  nodeDir :=
    let file : ℕ → String → CpuListFile := fun _ text => some (.ok text)
    some (.ok ((AList.singleton 0 (file 0 "0-3")).insert 1 (file 1 "")))

/-- What is discovered there. -/
def memoryNodeTopology : NumaTopology := ⟨[⟨0, [0, 1, 2, 3]⟩, ⟨1, []⟩], [0, 1, 2, 3]⟩

/-- The node without CPUs is all that the host gets, although two CPUs are left over. -/
theorem memoryNode_refused :
    memoryNodeSysfs.discoverNumaTopology = .ok memoryNodeTopology ∧
      memoryNodeTopology.OnlineOnNodes ∧ memoryNodeTopology.Meets [2, 3] ∧
        ¬ DerivesLeftOver memoryNodeSysfs memoryNodeTopology [2, 3] := by
  have hmeets : memoryNodeTopology.Meets [2, 3] :=
    ⟨⟨0, [0, 1, 2, 3]⟩, by decide, 2, by decide, by decide⟩
  refine ⟨by rfl, by decide, hmeets, fun h => ?_⟩
  obtain ⟨cpus, hcpus⟩ := h.ok_iff.mpr ⟨0, by decide, by decide⟩
  have herror : memoryNodeSysfs.deriveHostCpusFromTopology [2, 3] =
      .error (.Cgroup "derived host_cpus is empty (vm_cpus may consume all CPUs)") := by rfl
  rw [herror] at hcpus
  cases hcpus

/-- With the VM on all its CPUs, the same host has nothing left over and gets nothing. -/
theorem memoryNode_consumed : DerivesLeftOver memoryNodeSysfs memoryNodeTopology [0, 1, 2, 3] := by
  have hmeets : memoryNodeTopology.Meets [0, 1, 2, 3] :=
    ⟨⟨0, [0, 1, 2, 3]⟩, by decide, 0, by decide, by decide⟩
  refine (derivesLeftOver_iff (by rfl) hmeets).mpr fun _ => iff_of_false ?_ ?_
  · rintro ⟨node, ⟨hmem, hfree⟩, hne⟩
    simp [memoryNodeTopology] at hmem
    rcases hmem with rfl | rfl
    · exact hfree 0 (by decide) (by decide)
    · exact hne rfl
  · rintro ⟨cpu, hcpu, hnot⟩
    exact hnot hcpu

end Chalybs
