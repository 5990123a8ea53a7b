import Chalybs.Cpu.Completeness
import Chalybs.Foundation.ArgMax
import Chalybs.Hugepages.Record
import Mathlib.Order.Nat

/-!
# The choice of a NUMA node

`select_hugepage_node` (`hugepages.rs`) and `build_cpu_plan` (`cpuplan/builder.rs`) choose a node by
the same loop over the node directory: the best node so far gives way to one with strictly more of
the CPUs.  The first counts the entries of `host_cpus`, the second the CPUs of the VM.

* `bestNode_eq`, `dominantNode_eq` — both are the scan of `Foundation.firstBest`.
* `MostOf` — no other node has more of some CPUs.
* `determined_iff` — when the choice does not depend on the order of the directory.
* `localPages_iff` — when the hugepages lie where the vCPUs are pinned.
-/

namespace Chalybs

open Foundation

/-! ## CPUs on a node -/

/-- How many of the given CPUs are among those of a node. -/
def overlap (given own : List ℕ) : ℕ := (given.toFinset ∩ own.toFinset).card

/-- The node has as many of the given CPUs as any other one. -/
def MostOf {ν : Type} (nodes : List (ν × List ℕ)) (given : List ℕ) (node : ν) : Prop :=
  ∃ n ∈ nodes, n.1 = node ∧ ∀ other ∈ nodes, overlap given other.2 ≤ overlap given n.2

/-! ## The node of the hugepages -/

/-- The node that an entry of the directory stands for, with its CPUs. -/
def entryNode (entry : String × Option String) : Option (UInt16 × List ℕ) := do
  let digits ← match entry.1.toList with
    | 'n' :: 'o' :: 'd' :: 'e' :: digits => some digits
    | _ => none
  let node ← (fromStrRadix 10 (2 ^ 16) digits).toOption
  let cpus ← (parseCpuList (String.ofList (trim (← entry.2).toList))).toOption
  pure (UInt16.ofNat node, cpus)

/-- The nodes that the directory shows. -/
def shownNodes (entries : List (String × Option String)) : List (UInt16 × List ℕ) :=
  entries.filterMap entryNode

/-- The node of an entry, with the number of entries of `host_cpus` that lie on it. -/
def entryCount (hostCpus : List ℕ) (entry : String × Option String) : Option (UInt16 × ℕ) :=
  (entryNode entry).map fun node =>
    (node.1, (hostCpus.filter fun cpu => node.2.contains cpu).length)

/-- A turn of the loop of `select_hugepage_node`. -/
lemma bestNode_cons (hostCpus : List ℕ) (entry : String × Option String)
    (entries : List (String × Option String)) (best : Option UInt16 × ℕ) :
    bestNode hostCpus best (entry :: entries) =
      bestNode hostCpus (((entryCount hostCpus entry).map (keepBest best)).getD best) entries := by
  obtain ⟨name, cpulist⟩ := entry
  -- the code counts as soon as it has read the CPUs of the node
  have hcount : entryCount hostCpus (name, cpulist) = (do
      let digits ← match name.toList with
        | 'n' :: 'o' :: 'd' :: 'e' :: digits => some digits
        | _ => none
      let node ← (fromStrRadix 10 (2 ^ 16) digits).toOption
      let cpus ← (parseCpuList (String.ofList (trim (← cpulist).toList))).toOption
      pure (UInt16.ofNat node, (hostCpus.filter fun cpu => cpus.contains cpu).length)) := by
    simp only [entryCount, entryNode, Option.bind_eq_bind, Option.pure_def]
    split
    · simp only [Option.map_bind, Option.bind_some, Function.comp_def, Option.map_some]
    · rfl
  rw [bestNode]
  dsimp only
  split
  next hnone => rw [hcount.trans hnone, Option.map_none, Option.getD_none]
  next node overlap hsome =>
    rw [hcount.trans hsome, Option.map_some, Option.getD_some, keepBest]
    split_ifs
    · rfl
    · rfl

/-- **The loop of `select_hugepage_node`** ends with the first of the best entries. -/
lemma bestNode_eq (hostCpus : List ℕ) (entries : List (String × Option String))
    (best : Option UInt16 × ℕ) :
    bestNode hostCpus best entries =
      ((entries.filterMap (entryCount hostCpus)).foldl keepBest best).1 := by
  induction entries generalizing best with
  | nil => rfl
  | cons entry entries ih =>
      rw [bestNode_cons, ih]
      cases hcount : entryCount hostCpus entry with
      | none => rw [List.filterMap_cons_none hcount, Option.map_none, Option.getD_none]
      | some c =>
          rw [List.filterMap_cons_some hcount, List.foldl_cons, Option.map_some, Option.getD_some]

/-- The list that `select_hugepage_node` goes by. -/
def VmConfig.hostCpuList (cfg : VmConfig) : Except ChalybsError (List ℕ) :=
  parseCpuList (String.ofList (trim cfg.cpu.hostCpus.toList))

section

variable {cfg : VmConfig} {entries : List (String × Option String)} {hostCpus : List ℕ}
  {node : UInt16}

lemma selectHugepageNode_eq_ok (hconf : cfg.configuredNode = none) :
    selectHugepageNode cfg (.ok entries) = .ok node ↔
      ∃ hostCpus, cfg.hostCpuList = .ok hostCpus ∧
        firstBest (entries.filterMap (entryCount hostCpus)) = some node := by
  simp only [selectHugepageNode, hconf, VmConfig.hostCpuList]
  cases parseCpuList (String.ofList (trim cfg.cpu.hostCpus.toList)) with
  | error e => simp
  | ok hostCpus =>
      have hbest : bestNode hostCpus (none, 0) entries =
          firstBest (entries.filterMap (entryCount hostCpus)) := bestNode_eq hostCpus entries _
      simp only [hbest, Except.ok.injEq, exists_eq_left']
      cases firstBest (entries.filterMap (entryCount hostCpus)) with
      | none => simp
      | some node' => simp

/-- Two orders of the directory give the same node if the loop ends alike. -/
lemma selectHugepageNode_congr {entries' : List (String × Option String)}
    (hparse : cfg.hostCpuList = .ok hostCpus) (hconf : cfg.configuredNode = none) :
    selectHugepageNode cfg (.ok entries') = selectHugepageNode cfg (.ok entries) ↔
      firstBest (entries'.filterMap (entryCount hostCpus)) =
        firstBest (entries.filterMap (entryCount hostCpus)) := by
  have hbest : ∀ entries, bestNode hostCpus (none, 0) entries =
      firstBest (entries.filterMap (entryCount hostCpus)) :=
    fun entries => bestNode_eq hostCpus entries _
  rw [VmConfig.hostCpuList] at hparse
  simp only [selectHugepageNode, hconf, hparse, hbest]
  cases firstBest (entries'.filterMap (entryCount hostCpus)) with
  | none => cases firstBest (entries.filterMap (entryCount hostCpus)) with
    | none => simp
    | some node => simp
  | some node' => cases firstBest (entries.filterMap (entryCount hostCpus)) with
    | none => simp
    | some node => simp

end

/-! ## The dominant node -/

/-- A node of the topology, with the number of the CPUs of the VM that lie on it. -/
def nodeCount (vmCpus : List ℕ) (node : HostNumaNode) : ℕ × ℕ :=
  (node.nodeId, overlap vmCpus node.cpus)

lemma length_vmCpus (vmCpus own : List ℕ) :
    (sortDedup ((sortDedup own).filter fun cpu => vmCpus.contains cpu)).length =
      overlap vmCpus own := by
  rw [length_sortDedup, overlap]
  refine congrArg Finset.card (Finset.ext fun cpu => ?_)
  simp [mem_sortDedup, and_comm]

/-- A turn of the loop of `build_cpu_plan`. -/
lemma addNode_dominant (layout : VmCpuLayout) (p : PlanProgress) (node : HostNumaNode) :
    ((p.addNode layout node).dominantNode, (p.addNode layout node).dominantVmCount) =
      keepBest (p.dominantNode, p.dominantVmCount) (nodeCount layout.vm.cpus node) := by
  have hlength := length_vmCpus layout.vm.cpus node.cpus
  by_cases hlt : p.dominantVmCount < overlap layout.vm.cpus node.cpus
  · have hne : sortDedup ((sortDedup node.cpus).filter fun cpu => layout.vm.cpus.contains cpu) ≠
        [] := by
      intro hnil
      rw [hnil, List.length_nil] at hlength
      omega
    simp only [PlanProgress.addNode, List.isEmpty_iff, hne, if_false, hlength, hlt, if_true,
      keepBest, nodeCount]
  · simp only [PlanProgress.addNode, hlength, hlt, if_false, keepBest, nodeCount]
    split_ifs
    · rfl
    · rfl

lemma foldl_addNode (layout : VmCpuLayout) (nodes : List HostNumaNode) (p : PlanProgress) :
    ((nodes.foldl (PlanProgress.addNode layout) p).dominantNode,
      (nodes.foldl (PlanProgress.addNode layout) p).dominantVmCount) =
      (nodes.map (nodeCount layout.vm.cpus)).foldl keepBest
        (p.dominantNode, p.dominantVmCount) := by
  induction nodes generalizing p with
  | nil => rfl
  | cons node nodes ih => rw [List.foldl_cons, ih, addNode_dominant, List.map_cons, List.foldl_cons]

/-- **The dominant node** is the first of those with the most CPUs of the VM. -/
lemma dominantNode_eq (inputs : CpuPlanInputs) :
    (buildCpuPlan inputs).dominantNode =
      firstBest (inputs.topology.nodes.map (nodeCount inputs.vmLayout.vm.cpus)) :=
  congrArg Prod.fst (foldl_addNode inputs.vmLayout inputs.topology.nodes {})

/-! ## When the choice is determined -/

/-- The node for the hugepages is the same for every order of the directory, and if it is not
configured it has as many of the CPUs of `host_cpus` as any other node. -/
structure SelectionDetermined (cfg : VmConfig) (entries : List (String × Option String)) :
    Prop where
  same : ∀ entries', entries.Perm entries' →
    selectHugepageNode cfg (.ok entries') = selectHugepageNode cfg (.ok entries)
  most : cfg.configuredNode = none → ∀ hostCpus, cfg.hostCpuList = .ok hostCpus → ∀ node,
    selectHugepageNode cfg (.ok entries) = .ok node → MostOf (shownNodes entries) hostCpus node

/-- The condition, if no node is configured: the nodes with the most entries of `host_cpus` are one
node, and where CPUs are named repeatedly it is also one with the most CPUs. -/
structure SelectionClear (cfg : VmConfig) (entries : List (String × Option String)) : Prop where
  noTie : cfg.configuredNode = none → ∀ hostCpus, cfg.hostCpuList = .ok hostCpus → ∀ c d,
    Leads (entries.filterMap (entryCount hostCpus)) c →
    Leads (entries.filterMap (entryCount hostCpus)) d → c.1 = d.1
  repeated : cfg.configuredNode = none → ∀ hostCpus, cfg.hostCpuList = .ok hostCpus →
    ¬ hostCpus.Nodup → ∀ c, Leads (entries.filterMap (entryCount hostCpus)) c →
      MostOf (shownNodes entries) hostCpus c.1

/-- The node directory shows the same in any order. -/
def NumaSysfs.Relists (sys sys' : NumaSysfs) : Prop :=
  match sys.nodeDir, sys'.nodeDir with
  | some (.ok dirs), some (.ok dirs') => dirs.entries.Perm dirs'.entries
  | dir, dir' => dir = dir'

/-- The dominant node of the plan that is made of the files. -/
def dominantNodeOn (ident : CpuIdentity) (arch : CpuArch) (vmLayout : VmCpuLayout)
    (sys : NumaSysfs) : Except String (Option ℕ) := do
  let topology ← sys.fromSysfs
  pure (buildCpuPlan { ident, arch, topology, vmLayout }).dominantNode

/-- The dominant node is the same for every order of the directory, and has as many of the CPUs of
the VM as any other node. -/
structure DominanceDetermined (ident : CpuIdentity) (arch : CpuArch) (vmLayout : VmCpuLayout)
    (sys : NumaSysfs) : Prop where
  same : ∀ sys', sys.Relists sys' →
    dominantNodeOn ident arch vmLayout sys' = dominantNodeOn ident arch vmLayout sys
  most : ∀ topology, sys.fromSysfs = .ok topology → ∀ node,
    dominantNodeOn ident arch vmLayout sys = .ok (some node) →
      MostOf (topology.nodes.map fun n => (n.nodeId, n.cpus)) vmLayout.vm.cpus node

/-- The condition: the nodes with the most CPUs of the VM are one node. -/
def DominanceClear (vmLayout : VmCpuLayout) (sys : NumaSysfs) : Prop :=
  ∀ topology, sys.fromSysfs = .ok topology → ∀ c d,
    Leads (topology.nodes.map (nodeCount vmLayout.vm.cpus)) c →
    Leads (topology.nodes.map (nodeCount vmLayout.vm.cpus)) d → c.1 = d.1

section

variable {cfg : VmConfig} {entries : List (String × Option String)} {hostCpus : List ℕ}

/-- Where no CPU is named twice, an entry counts as a CPU. -/
lemma length_filter_eq_overlap (hnodup : hostCpus.Nodup) (own : List ℕ) :
    (hostCpus.filter fun cpu => own.contains cpu).length = overlap hostCpus own := by
  rw [overlap, ← List.toFinset_card_of_nodup (hnodup.filter _)]
  refine congrArg Finset.card (Finset.ext fun cpu => ?_)
  simp

lemma mostOf_of_leads {c : UInt16 × ℕ} (hnodup : hostCpus.Nodup)
    (hc : Leads (entries.filterMap (entryCount hostCpus)) c) :
    MostOf (shownNodes entries) hostCpus c.1 := by
  obtain ⟨entry, hentry, hcount⟩ := List.mem_filterMap.mp hc.mem
  obtain ⟨⟨node, own⟩, hnode, rfl⟩ := Option.map_eq_some_iff.mp hcount
  refine ⟨_, List.mem_filterMap.mpr ⟨entry, hentry, hnode⟩, rfl, fun other hother => ?_⟩
  obtain ⟨entry', hentry', hother⟩ := List.mem_filterMap.mp hother
  have hle := hc.le _ (List.mem_filterMap.mpr ⟨entry', hentry', by rw [entryCount, hother]; rfl⟩)
  simpa only [length_filter_eq_overlap hnodup] using hle

/-- **When the node for the hugepages is determined.** -/
lemma selectionDetermined_iff : SelectionDetermined cfg entries ↔ SelectionClear cfg entries := by
  constructor
  · intro h
    have hfound : ∀ hostCpus, cfg.configuredNode = none → cfg.hostCpuList = .ok hostCpus →
        ∀ entries', entries.Perm entries' →
          firstBest (entries'.filterMap (entryCount hostCpus)) =
            firstBest (entries.filterMap (entryCount hostCpus)) :=
      fun hostCpus hconf hparse entries' hperm =>
        (selectHugepageNode_congr hparse hconf).mp (h.same entries' hperm)
    constructor
    · intro hconf hostCpus hparse
      exact firstBest_filterMap_perm_iff.mp (hfound hostCpus hconf hparse)
    · intro hconf hostCpus hparse _ c hc
      -- in some order the node is chosen, so it is in every order
      obtain ⟨entries', hperm, hchosen⟩ := exists_perm_firstBest hc
      rw [hfound hostCpus hconf hparse entries' hperm] at hchosen
      exact h.most hconf hostCpus hparse c.1
        ((selectHugepageNode_eq_ok hconf).mpr ⟨hostCpus, hparse, hchosen⟩)
  · intro h
    constructor
    · intro entries' hperm
      cases hconf : cfg.configuredNode with
      | some node => simp only [selectHugepageNode, hconf]
      | none =>
          cases hparse : cfg.hostCpuList with
          | error e =>
              rw [VmConfig.hostCpuList] at hparse
              simp only [selectHugepageNode, hconf, hparse]
          | ok hostCpus =>
              refine (selectHugepageNode_congr hparse hconf).mpr ?_
              exact firstBest_filterMap_perm_iff.mpr (h.noTie hconf hostCpus hparse) entries' hperm
    · intro hconf hostCpus hparse node hnode
      obtain ⟨hostCpus', hparse', hchosen⟩ := (selectHugepageNode_eq_ok hconf).mp hnode
      obtain rfl : hostCpus = hostCpus' := Except.ok.inj (hparse.symm.trans hparse')
      obtain ⟨c, hc, rfl⟩ := exists_leads_of_firstBest hchosen
      by_cases hnodup : hostCpus.Nodup
      · exact mostOf_of_leads hnodup hc
      · exact h.repeated hconf hostCpus hparse hnodup c hc

variable {ident : CpuIdentity} {arch : CpuArch} {vmLayout : VmCpuLayout} {sys : NumaSysfs}

/-- The node of a directory, with the number of the CPUs of the VM that lie on it. -/
def dirCount (vmCpus : List ℕ) (dir : Sigma fun _ : ℕ => CpuListFile) : Option (ℕ × ℕ) :=
  (detectNode dir.1 dir.2).map (nodeCount vmCpus)

lemma dominantNodeOn_eq {dirs : AList fun _ : ℕ => CpuListFile}
    (hdir : sys.nodeDir = some (.ok dirs)) :
    dominantNodeOn ident arch vmLayout sys =
      .ok (firstBest (dirs.entries.filterMap (dirCount vmLayout.vm.cpus))) := by
  have htopology : sys.fromSysfs =
      .ok ⟨dirs.entries.filterMap fun dir => detectNode dir.1 dir.2⟩ := by
    rw [NumaSysfs.fromSysfs, hdir]
  rw [dominantNodeOn, htopology]
  show Except.ok (buildCpuPlan _).dominantNode = _
  rw [dominantNode_eq, List.map_filterMap]
  rfl

lemma mostOf_of_leads_topology {topology : HostNumaTopology} {c : ℕ × ℕ}
    (hc : Leads (topology.nodes.map (nodeCount vmLayout.vm.cpus)) c) :
    MostOf (topology.nodes.map fun n => (n.nodeId, n.cpus)) vmLayout.vm.cpus c.1 := by
  obtain ⟨node, hnode, rfl⟩ := List.mem_map.mp hc.mem
  refine ⟨_, List.mem_map.mpr ⟨node, hnode, rfl⟩, rfl, fun other hother => ?_⟩
  obtain ⟨node', hnode', rfl⟩ := List.mem_map.mp hother
  exact hc.le _ (List.mem_map.mpr ⟨node', hnode', rfl⟩)

lemma NumaSysfs.Relists.cases {sys' : NumaSysfs} (h : sys.Relists sys') :
    sys.nodeDir = sys'.nodeDir ∨ ∃ dirs dirs' : AList fun _ : ℕ => CpuListFile,
      sys.nodeDir = some (.ok dirs) ∧ sys'.nodeDir = some (.ok dirs') ∧
        dirs.entries.Perm dirs'.entries := by
  rw [NumaSysfs.Relists] at h
  split at h
  next dirs dirs' hdir hdir' => exact .inr ⟨dirs, dirs', hdir, hdir', h⟩
  next => exact .inl h

/-- **When the dominant node is determined.** -/
lemma dominanceDetermined_iff :
    DominanceDetermined ident arch vmLayout sys ↔ DominanceClear vmLayout sys := by
  have hcounts : ∀ {dirs : AList fun _ : ℕ => CpuListFile} {topology},
      sys.nodeDir = some (.ok dirs) → sys.fromSysfs = .ok topology →
      topology.nodes.map (nodeCount vmLayout.vm.cpus) =
        dirs.entries.filterMap (dirCount vmLayout.vm.cpus) := by
    intro dirs topology hdir htopology
    rw [NumaSysfs.fromSysfs, hdir] at htopology
    rw [← Except.ok.inj htopology, List.map_filterMap]
    rfl
  constructor
  · intro h topology htopology
    cases hdir : sys.nodeDir with
    | none => simp [NumaSysfs.fromSysfs, hdir] at htopology
    | some read =>
        cases read with
        | error e => simp [NumaSysfs.fromSysfs, hdir] at htopology
        | ok dirs =>
            rw [hcounts hdir htopology]
            refine firstBest_filterMap_perm_iff.mp fun entries' hperm => ?_
            have hrelists : sys.Relists { sys with nodeDir := some (.ok ⟨entries',
                (List.perm_nodupKeys hperm).mp dirs.nodupKeys⟩) } := by
              rw [NumaSysfs.Relists, hdir]
              exact hperm
            have hsame := h.same _ hrelists
            rw [dominantNodeOn_eq hdir, dominantNodeOn_eq rfl] at hsame
            exact Except.ok.inj hsame
  · intro h
    constructor
    · intro sys' hrelists
      rcases hrelists.cases with heq | ⟨dirs, dirs', hdir, hdir', hperm⟩
      · simp only [dominantNodeOn, NumaSysfs.fromSysfs, heq]
      · have hclear := h _ (by rw [NumaSysfs.fromSysfs, hdir])
        rw [hcounts hdir (by rw [NumaSysfs.fromSysfs, hdir])] at hclear
        rw [dominantNodeOn_eq hdir, dominantNodeOn_eq hdir',
          firstBest_filterMap_perm_iff.mpr hclear _ hperm]
    · intro topology htopology node hnode
      rw [dominantNodeOn, htopology] at hnode
      have hfirst : (buildCpuPlan ⟨ident, arch, topology, vmLayout⟩).dominantNode = some node :=
        Except.ok.inj hnode
      rw [dominantNode_eq] at hfirst
      obtain ⟨c, hc, rfl⟩ := exists_leads_of_firstBest hfirst
      exact mostOf_of_leads_topology hc

end

/-- **When the choice of the node is determined.**  The node for the hugepages and the dominant node
of the CPU plan are the same for every order of the node directory, and no other node has more of
the CPUs that they go by, exactly when no two nodes share the largest number of them; where
`host_cpus` names CPUs repeatedly, the node with the most entries must also have the most CPUs. -/
theorem determined_iff (cfg : VmConfig) (entries : List (String × Option String))
    (ident : CpuIdentity) (arch : CpuArch) (vmLayout : VmCpuLayout) (sys : NumaSysfs) :
    (SelectionDetermined cfg entries ↔ SelectionClear cfg entries) ∧
      (DominanceDetermined ident arch vmLayout sys ↔ DominanceClear vmLayout sys) :=
  ⟨selectionDetermined_iff, dominanceDetermined_iff⟩

/-- Two nodes with two CPUs each. -/
def twoNodes : List (String × Option String) := [("node0", some "0-1\n"), ("node1", some "2-3\n")]

/-- The directory of one node after the others. -/
def addNodeDir (id : ℕ) (cpulist : String) (dirs : AList fun _ : ℕ => CpuListFile) :
    AList fun _ : ℕ => CpuListFile := dirs.insert id (some (.ok cpulist))

/-- A host that lists the directories. -/
def listing (dirs : AList fun _ : ℕ => CpuListFile) : NumaSysfs := ⟨.ok "0-3\n", some (.ok dirs)⟩

/-- The VM of the unit tests without a section for NUMA. -/
def vmWithoutNode (hostCpus vmCpus : String) : VmConfig :=
  let cfg := minimalVmConfig {} {}
  { cfg with
    cpu := { hostCpus, vmCpus }
    numa := none
    qemu := { cfg.qemu with hugepages := true } }

/-- CPUs that lie on two nodes in equal parts, and the node that is listed first. -/
theorem tied_nodes :
    selectHugepageNode (vmWithoutNode "0-3" "0-3") (.ok twoNodes) = .ok 0 ∧
      selectHugepageNode (vmWithoutNode "0-3" "0-3") (.ok twoNodes.reverse) = .ok 1 ∧
      ¬ SelectionDetermined (vmWithoutNode "0-3" "0-3") twoNodes ∧
      ¬ DominanceDetermined ⟨.Amd, 0x19, 0x21, 0, none, none⟩ .AmdZen3OrZen4
        ⟨⟨[0, 1, 2, 3]⟩, ⟨[0, 1, 2, 3]⟩⟩
        (listing (addNodeDir 0 "0-1\n" (addNodeDir 1 "2-3\n" ∅))) := by
  refine ⟨by decide, by decide, fun h => ?_, fun h => ?_⟩
  · have hsame := h.same twoNodes.reverse (List.reverse_perm _).symm
    exact absurd hsame (by decide)
  · have hrelists : (listing (addNodeDir 0 "0-1\n" (addNodeDir 1 "2-3\n" ∅))).Relists
        (listing (addNodeDir 1 "2-3\n" (addNodeDir 0 "0-1\n" ∅))) := List.Perm.swap _ _ _
    exact absurd (h.same _ hrelists) (by decide)

/-! ## The pages and the pinned CPUs -/

/-- The CPUs that `pin_vcpus` pins the vCPUs to. -/
def VmRuntime.pinnedCpus (rt : VmRuntime) : List ℕ :=
  (List.range rt.cfg.qemu.numVcpus.toNat).filterMap rt.vcpuTarget

/-- The node has some of the CPUs, and no other node has more of them. -/
def IsHomeOf (nodes : List (UInt16 × List ℕ)) (cpus : List ℕ) (node : UInt16) : Prop :=
  ∃ n ∈ nodes, n.1 = node ∧ 0 < overlap cpus n.2 ∧
    ∀ other ∈ nodes, overlap cpus other.2 ≤ overlap cpus n.2

instance (nodes : List (UInt16 × List ℕ)) (cpus : List ℕ) (node : UInt16) :
    Decidable (IsHomeOf nodes cpus node) := inferInstanceAs (Decidable (∃ n ∈ nodes, _))

/-- The recorded hugepages lie on the node of the pinned CPUs. -/
def LocalPages (nodes : List (UInt16 × List ℕ)) (rt : VmRuntime) : Prop :=
  ∃ node, rt.hugepages.node = some node ∧ IsHomeOf nodes rt.pinnedCpus node

section

variable {V : Type} {h : Host V} {os : HugepageCalls V}

/-- **The step that provisions** records pages on the node that is selected, and leaves the
configuration and the layout as they are. -/
lemma ends_prepareHugepages {s : VmStateMachine × HugeWorld V}
    (hstate : s.1.state = .PrepareHugepages) (hhuge : s.1.rt.cfg.qemu.hugepages = true) :
    Ends ((h.withHuge os).perform .Step) s
      (fun _ t => t.1.rt.cfg = s.1.rt.cfg ∧ t.1.rt.cpus = s.1.rt.cpus ∧
        ∃ node, selectHugepageNode s.1.rt.cfg (os.nodeEntries s.2.rest) = .ok node ∧
          t.1.rt.hugepages.node = some node)
      fun _ _ => True := by
  rw [ends_perform, hstate]
  show Ends (pushSystem _ >>= fun _ => (h.withHuge os).invoke .ProvisionHugepages >>= fun _ =>
    setState .PreparePci) s _ _
  rw [ends_bind]
  show Ends ((h.withHuge os).invoke .ProvisionHugepages >>= _) ({ s.1 with rt := _ }, s.2) _ _
  rw [ends_bind, ends_invoke]
  refine (@ends_provisionForVm_record V os (s.1.rt.pushSystem _) _).mono (fun _ u hu => ?_)
    fun _ _ _ => trivial
  have hhuge' : (s.1.rt.pushSystem "state=PrepareHugepages").cfg.qemu.hugepages = true := hhuge
  rw [if_pos hhuge'] at hu
  obtain ⟨node, hselect, hrecord⟩ := hu
  exact ⟨rfl, rfl, node, hselect, congrArg HugepageRecord.node hrecord⟩

end

/-- **When the hugepages lie where the vCPUs are pinned.**  After a step that has provisioned
hugepages for a VM without a configured node, the recorded node has some of the pinned CPUs, and no
other has more, exactly when this is so of the first listed node among those with the most entries
of `host_cpus`. -/
theorem localPages_iff {V : Type} {h : Host V} {os : HugepageCalls V}
    {s t : VmStateMachine × HugeWorld V} {state : VmState}
    {entries : List (String × Option String)} (hstate : s.1.state = .PrepareHugepages)
    (hhuge : s.1.rt.cfg.qemu.hugepages = true) (hconf : s.1.rt.cfg.configuredNode = none)
    (hentries : os.nodeEntries s.2.rest = .ok entries)
    (hok : (h.withHuge os).perform .Step s = .ok state t) :
    LocalPages (shownNodes entries) t.1.rt ↔
      ∃ hostCpus c, s.1.rt.cfg.hostCpuList = .ok hostCpus ∧
        LeadsFirst (entries.filterMap (entryCount hostCpus)) c ∧
        IsHomeOf (shownNodes entries) s.1.rt.pinnedCpus c.1 := by
  have hends := @ends_prepareHugepages V h os s hstate hhuge
  rw [Ends, hok] at hends
  obtain ⟨hcfg, hcpus, node, hselect, hnode⟩ := hends
  have htarget : t.1.rt.vcpuTarget = s.1.rt.vcpuTarget := by
    funext idx
    rw [VmRuntime.vcpuTarget, VmRuntime.vcpuTarget, hcpus]
  have hpinned : t.1.rt.pinnedCpus = s.1.rt.pinnedCpus := by
    rw [VmRuntime.pinnedCpus, VmRuntime.pinnedCpus, hcfg, htarget]
  rw [hentries] at hselect
  obtain ⟨hostCpus, hparse, hfound⟩ := (selectHugepageNode_eq_ok hconf).mp hselect
  rw [LocalPages, hpinned, hnode]
  constructor
  · rintro ⟨node', heq, hhome⟩
    obtain rfl := Option.some.inj heq
    obtain ⟨c, hc, rfl⟩ := firstBest_eq_some.mp hfound
    exact ⟨hostCpus, c, hparse, hc, hhome⟩
  · rintro ⟨hostCpus', c, hparse', hc, hhome⟩
    obtain rfl : hostCpus = hostCpus' := Except.ok.inj (hparse.symm.trans hparse')
    have heq : some c.1 = some node := (firstBest_eq_some.mpr ⟨c, hc, rfl⟩).symm.trans hfound
    exact ⟨c.1, heq.symm, hhome⟩

/-- Every operation succeeds, on a host with two nodes. -/
def twoNodeCalls : HugepageCalls Unit := { obligingCalls with nodeEntries := fun _ => .ok twoNodes }

/-- The host with two nodes, for the phases up to provisioning. -/
def twoNodeHost : Host (HugeWorld Unit) :=
  (planningHost (listing (addNodeDir 0 "0-1\n" (addNodeDir 1 "2-3\n" ∅)))).withHuge twoNodeCalls

/-- The machine of a VM in the Validate phase, on a host with enough free pages. -/
def validating (hostCpus vmCpus : String) (layout : VmCpuLayout) :
    VmStateMachine × HugeWorld Unit :=
  (⟨.Validate, VmRuntime.new "a" (vmWithoutNode hostCpus vmCpus) layout⟩, hugeHost 1024)

/-- The machine after that phase. -/
def validated (hostCpus vmCpus : String) (layout : VmCpuLayout) :
    VmStateMachine × HugeWorld Unit :=
  advance (validating hostCpus vmCpus layout) (.Step, twoNodeHost)

/-- The host keeps the first node for itself and leaves the second to the VM; both phases succeed,
and the pages are recorded on the first. -/
theorem remote_pages :
    (⟨AList.singleton "a" (vmWithoutNode "0-1" "2-3")⟩ : RootConfig).validate = .ok () ∧
      parseCpuList "2-3" = .ok [2, 3] ∧
      (validated "0-1" "2-3" ⟨⟨[0, 1]⟩, ⟨[2, 3]⟩⟩).1.state = .PrepareHugepages ∧
      (advance (validated "0-1" "2-3" ⟨⟨[0, 1]⟩, ⟨[2, 3]⟩⟩) (.Step, twoNodeHost)).1.state =
        .PreparePci ∧
      ¬ LocalPages (shownNodes twoNodes)
        (advance (validated "0-1" "2-3" ⟨⟨[0, 1]⟩, ⟨[2, 3]⟩⟩) (.Step, twoNodeHost)).1.rt := by
  refine ⟨by decide, by decide, by decide, by decide, ?_⟩
  rintro ⟨node, hnode, hhome⟩
  have hzero : (advance (validated "0-1" "2-3" ⟨⟨[0, 1]⟩, ⟨[2, 3]⟩⟩)
      (.Step, twoNodeHost)).1.rt.hugepages.node = some 0 := by decide
  rw [hzero] at hnode
  obtain rfl := Option.some.inj hnode
  exact absurd hhome (by decide)

/-- The VM runs on CPUs of the first node. -/
theorem localPages_twoNodes :
    LocalPages (shownNodes twoNodes)
      (advance (validated "0-3" "0-1" ⟨⟨[0, 1, 2, 3]⟩, ⟨[0, 1]⟩⟩) (.Step, twoNodeHost)).1.rt := by
  have hok : outcome (twoNodeHost.perform .Step)
      (validated "0-3" "0-1" ⟨⟨[0, 1, 2, 3]⟩, ⟨[0, 1]⟩⟩) =
      (true, advance (validated "0-3" "0-1" ⟨⟨[0, 1, 2, 3]⟩, ⟨[0, 1]⟩⟩) (.Step, twoNodeHost)) :=
    Prod.ext (by decide) rfl
  obtain ⟨state, hok⟩ := outcome_eq_true.mp hok
  have hentries : twoNodeCalls.nodeEntries () = .ok twoNodes := rfl
  refine (localPages_iff (by decide) (by decide) (by decide) hentries hok).mpr ?_
  refine ⟨[0, 1, 2, 3], (0, 2), by decide, ⟨by decide, [], [(1, 2)], by decide, by simp, ?_⟩, ?_⟩
  · simp
  · decide

end Chalybs
