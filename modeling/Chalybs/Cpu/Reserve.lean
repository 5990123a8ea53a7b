import Chalybs.Cpu.Topology

/-!
# The cpusets and the pinning of the vCPUs

`create_cpuset` (`cpuset/mod.rs`) and `pin_vcpus` (`affinity.rs`): the phases that use the CPU
layout after QEMU's resources have been prepared.  Each of them checks the layout again, with rules
of its own.

* `createCpuset` — the first; `cpusetTexts` is the part of it that looks at the layout.
* `pinVcpus` — the second; `checkVcpuCount` and `vcpuTarget` are the check and the mapping.
* `createCpuset_layout_error` — which layouts the first refuses.
-/

namespace Chalybs

open Foundation

/-! ## The cpusets -/

/-- The files that `create_cpuset` reads and writes. -/
structure CpusetFs (V : Type) where
  numaSysfs : V → NumaSysfs
  createDirAll : String → EStateM String V Unit
  write : String → String → EStateM String V Unit

/-- The texts that are written to the files of the two cpusets. -/
structure CpusetTexts where
  vmCpus : String
  vmMems : String
  hostCpus : String
  hostMems : String
  deriving DecidableEq, Repr

/-- `format_cpu_list`. -/
def formatCpuList (cpus : List ℕ) : String := joinWith "," ((sortDedup cpus).map toString)

/-- `format_node_list`. -/
def formatNodeList (nodes : List ℕ) : String := joinWith "," (nodes.map toString)

def vmCpusetEmpty : ChalybsError := .Cgroup "vm cpuset is empty; cannot create vfio_vm cpuset"

def hostCpusetEmpty : ChalybsError :=
  .Cgroup "host cpuset is empty; cannot create vfio_host cpuset"

def noVmNodes : ChalybsError := .Cgroup "no NUMA nodes found for vm_cpus when creating cpuset"

def noHostNodes : ChalybsError := .Cgroup "no NUMA nodes found for host_cpus when creating cpuset"

/-- The errors by which `create_cpuset` refuses a layout. -/
def layoutErrors : List ChalybsError := [vmCpusetEmpty, hostCpusetEmpty, noVmNodes, noHostNodes]

/-- The part of `create_cpuset` that looks at the layout. -/
def layoutTexts (topo : NumaTopology) (cpus : VmCpuLayout) : Except ChalybsError CpusetTexts :=
  if cpus.vm.cpus.isEmpty then .error vmCpusetEmpty
  else if cpus.host.cpus.isEmpty then .error hostCpusetEmpty
  else
    let vmNodes := nodesForCpus topo cpus.vm.cpus
    let hostNodes := nodesForCpus topo cpus.host.cpus
    if vmNodes.isEmpty then .error noVmNodes
    else if hostNodes.isEmpty then .error noHostNodes
    else .ok
      { vmCpus := formatCpuList cpus.vm.cpus
        vmMems := formatNodeList vmNodes
        hostCpus := formatCpuList cpus.host.cpus
        hostMems := formatNodeList hostNodes }

/-- The same for the topology that `create_cpuset` discovers. -/
def cpusetTexts (sys : NumaSysfs) (cpus : VmCpuLayout) : Except ChalybsError CpusetTexts := do
  let topo ← sys.discoverNumaTopology
  layoutTexts topo cpus

section

variable {V : Type}

/-- A computation on `rt.cgroups` and the files. -/
abbrev CpusetM (V : Type) := EStateM ChalybsError (Option CgroupPaths × V)

/-- An operation on the files. -/
def onFs (x : EStateM String V Unit) : CpusetM V Unit :=
  zoom Prod.snd (fun v t => (t.1, v)) (EStateM.adaptExcept ChalybsError.Io x)

/-- `create_cpuset`. -/
def createCpuset (fs : CpusetFs V) (rt : VmRuntime) : CpusetM V Unit := do
  let paths := CgroupPaths.ofRoot "/sys/fs/cgroup"
  onFs (fs.createDirAll paths.vm)
  onFs (fs.createDirAll paths.host)
  let t ← get
  let texts ← fromExcept (cpusetTexts (fs.numaSysfs t.2) rt.cpus)
  onFs (fs.write s!"{paths.vm}/cpuset.cpus" texts.vmCpus)
  onFs (fs.write s!"{paths.vm}/cpuset.mems" texts.vmMems)
  onFs (fs.write s!"{paths.host}/cpuset.cpus" texts.hostCpus)
  onFs (fs.write s!"{paths.host}/cpuset.mems" texts.hostMems)
  modify fun t => (some paths, t.2)

/-! ## Pinning -/

/-- The threads of QEMU, and the system call that pins one. -/
structure AffinityCalls (V : Type) where
  /-- `Process::new`. -/
  openProcess : ℕ → V → Except String Unit
  /-- `Process::tasks`: the id and the name of every thread that can be read. -/
  tasks : ℕ → V → Except String (List (ℕ × String))
  /-- `sched_setaffinity` with a set of one CPU. -/
  setAffinity : ℕ → ℕ → EStateM String V Unit

/-- `discover_vcpus`: the vCPU threads of a process, each with its index. -/
def discoverVcpus (os : AffinityCalls V) (pid : ℕ) (v : V) : Except ChalybsError (List (ℕ × ℕ)) :=
  match os.openProcess pid v with
  | .error e => .error (.Affinity s!"procfs: failed to open /proc/{pid}: {e}")
  | .ok _ =>
      match os.tasks pid v with
      | .error e => .error (.Affinity s!"procfs: failed to list tasks for pid {pid}: {e}")
      | .ok tasks => .ok
          (tasks.filterMap fun task => (parseVcpuName task.2).map fun idx => (task.1, idx))

/-- The check of `pin_vcpus` on the length of the layout. -/
def VmRuntime.checkVcpuCount (rt : VmRuntime) : Except ChalybsError Unit :=
  let expected := rt.cfg.qemu.numVcpus.toNat
  let len := rt.cpus.vm.cpus.length
  if len < expected then
    .error (.Affinity s!"vm_cpus length {len} < expected num_vcpus {expected}")
  else .ok ()

/-- The host CPU that a vCPU is pinned to. -/
def VmRuntime.vcpuTarget (rt : VmRuntime) (idx : ℕ) : Option ℕ := rt.cpus.vm.cpus[idx]?

/-- The number of CPUs that a `CpuSet` of the `nix` crate has room for. -/
def cpuSetSize : ℕ := 1024

/-- The loop of `pin_vcpus` over the threads. -/
def pinThreads (os : AffinityCalls V) (rt : VmRuntime) :
    List (Sigma fun _ : ℕ => ℕ) → EStateM ChalybsError V Unit
  | [] => pure ()
  | ⟨idx, tid⟩ :: threads =>
      match rt.vcpuTarget idx with
      | none => pinThreads os rt threads
      | some hostCpu => do
          if cpuSetSize ≤ hostCpu then
            throw (.Affinity (s!"failed to build cpuset for vCPU {idx} (host CPU {hostCpu}): " ++
              "EINVAL: Invalid argument"))
          EStateM.adaptExcept
            (fun e => ChalybsError.Affinity
              s!"failed to set affinity: tid={tid} vcpu={idx} cpu={hostCpu} err={e}")
            (os.setAffinity tid hostCpu)
          pinThreads os rt threads

/-- `pin_vcpus`.  Of two threads with one index the later one is pinned. -/
def pinVcpus (os : AffinityCalls V) (rt : VmRuntime) : EStateM ChalybsError V Unit :=
  match rt.qemu with
  | none => throw (.Affinity "QEMU state not present in runtime")
  | some q => do
      fromExcept rt.checkVcpuCount
      let v ← get
      let threads ← fromExcept (discoverVcpus os q.pid v)
      let byIndex := threads.foldl (fun m thread => m.insert thread.2 thread.1)
        (∅ : AList fun _ : ℕ => ℕ)
      let expected := List.range rt.cfg.qemu.numVcpus.toNat
      let missing := expected.filter fun idx => !decide (idx ∈ byIndex)
      if !missing.isEmpty then
        let indices := joinWith ", " (missing.map toString)
        throw (.Affinity s!"missing vCPU threads for indices: [{indices}]")
      pinThreads os rt byIndex.entries

end

/-! ## The layouts that are refused -/

/-- An error of reading or parsing a file. -/
def ChalybsError.OfFile (e : ChalybsError) : Prop := ∃ msg, e = .Io msg ∨ e = .Config msg

lemma parseCpuPart_error {part : List Char} {e : ChalybsError} (h : parseCpuPart part = .error e) :
    e.OfFile := by
  unfold parseCpuPart at h
  repeat' split at h
  all_goals first | exact ⟨_, .inr (Except.error.inj h).symm⟩ | cases h

lemma parseCpuList_error {s : String} {e : ChalybsError} (h : parseCpuList s = .error e) :
    e.OfFile := by
  rw [parseCpuList] at h
  generalize ((s.toList.splitOn ',').map trim).filter _ = parts at h
  induction parts with
  | nil => cases h
  | cons part parts ih =>
      rw [parseCpuParts] at h
      rcases except_bind_eq_error.mp h with h | ⟨cpus, -, h⟩
      · exact parseCpuPart_error h
      · rcases except_bind_eq_error.mp h with h | ⟨rest, -, h⟩
        · exact ih h
        · cases h

lemma readNodes_error {dirs : List (Sigma fun _ : ℕ => CpuListFile)} {e : ChalybsError}
    (h : readNodes dirs = .error e) : e.OfFile := by
  induction dirs with
  | nil => cases h
  | cons dir dirs ih =>
      obtain ⟨id, file⟩ := dir
      rcases file with _ | (msg | text)
      · exact ih h
      · exact ⟨msg, .inl (Except.error.inj h).symm⟩
      · rw [readNodes] at h
        rcases except_bind_eq_error.mp h with h | ⟨cpus, -, h⟩
        · exact parseCpuList_error h
        · rcases except_bind_eq_error.mp h with h | ⟨nodes, -, h⟩
          · exact ih h
          · cases h

lemma discoverNumaTopology_error {sys : NumaSysfs} {e : ChalybsError}
    (h : sys.discoverNumaTopology = .error e) : e.OfFile := by
  rcases except_bind_eq_error.mp h with h | ⟨online, -, h⟩
  · rcases except_bind_eq_error.mp h with h | ⟨text, -, h⟩
    · cases honline : sys.online with
      | error msg =>
          rw [honline] at h
          exact ⟨msg, .inl (Except.error.inj h).symm⟩
      | ok text => simp [honline, Except.mapError] at h
    · rcases except_bind_eq_error.mp h with h | ⟨cpus, -, h⟩
      · exact parseCpuList_error h
      · cases h
  · rcases except_bind_eq_error.mp h with h | ⟨nodes, -, h⟩
    · rw [NumaSysfs.readNodeDir] at h
      split at h
      · cases h
      · exact ⟨_, .inl (Except.error.inj h).symm⟩
      · exact readNodes_error h
    · cases h

lemma not_mem_layoutErrors {e : ChalybsError} (h : e.OfFile) : e ∉ layoutErrors := by
  obtain ⟨msg, rfl | rfl⟩ := h <;>
  simp [layoutErrors, vmCpusetEmpty, hostCpusetEmpty, noVmNodes, noHostNodes]

lemma NumaTopology.Meets.ne_nil {topo : NumaTopology} {cpus : List ℕ} (h : topo.Meets cpus) :
    cpus ≠ [] := by
  obtain ⟨_, _, cpu, _, hcpu⟩ := h
  exact List.ne_nil_of_mem hcpu

/-- Both lists of the layout have CPUs on a node. -/
def VmCpuLayout.Meets (cpus : VmCpuLayout) (topo : NumaTopology) : Prop :=
  topo.Meets cpus.vm.cpus ∧ topo.Meets cpus.host.cpus

lemma layoutTexts_cases (topo : NumaTopology) (cpus : VmCpuLayout) :
    cpus.Meets topo ∧ (∃ texts, layoutTexts topo cpus = .ok texts) ∨
      ¬ cpus.Meets topo ∧ ∃ e ∈ layoutErrors, layoutTexts topo cpus = .error e := by
  have hnodes : ∀ list, (nodesForCpus topo list).isEmpty = true ↔ ¬ topo.Meets list := by
    intro list
    rw [List.isEmpty_iff, nodesForCpus_eq_nil]
  simp only [layoutTexts, VmCpuLayout.Meets]
  split_ifs with hvm hhost hvmNodes hhostNodes
  · exact .inr ⟨fun h => h.1.ne_nil (List.isEmpty_iff.mp hvm), _, by simp [layoutErrors], rfl⟩
  · exact .inr ⟨fun h => h.2.ne_nil (List.isEmpty_iff.mp hhost), _, by simp [layoutErrors], rfl⟩
  · exact .inr ⟨fun h => (hnodes _).mp hvmNodes h.1, _, by simp [layoutErrors], rfl⟩
  · exact .inr ⟨fun h => (hnodes _).mp hhostNodes h.2, _, by simp [layoutErrors], rfl⟩
  · rw [hnodes, not_not] at hvmNodes hhostNodes
    exact .inl ⟨⟨hvmNodes, hhostNodes⟩, _, rfl⟩

/-- The CPUs that are written are those of the layout. -/
lemma cpus_of_cpusetTexts {sys : NumaSysfs} {cpus : VmCpuLayout} {texts : CpusetTexts}
    (h : cpusetTexts sys cpus = .ok texts) :
    texts.vmCpus = formatCpuList cpus.vm.cpus ∧ texts.hostCpus = formatCpuList cpus.host.cpus := by
  obtain ⟨topo, -, hlayout⟩ := except_bind_eq_ok.mp h
  simp only [layoutTexts] at hlayout
  split_ifs at hlayout
  obtain rfl := Except.ok.inj hlayout
  exact ⟨rfl, rfl⟩

/-- **The layouts that are refused** are those with a list of CPUs that lie on no node. -/
lemma cpusetTexts_layout_error {sys : NumaSysfs} {cpus : VmCpuLayout} :
    (∃ e ∈ layoutErrors, cpusetTexts sys cpus = .error e) ↔
      ∃ topo, sys.discoverNumaTopology = .ok topo ∧ ¬ cpus.Meets topo := by
  constructor
  · rintro ⟨e, he, herror⟩
    rcases except_bind_eq_error.mp herror with hfile | ⟨topo, htopo, hlayout⟩
    · exact absurd he (not_mem_layoutErrors (discoverNumaTopology_error hfile))
    · rcases layoutTexts_cases topo cpus with ⟨-, texts, hok⟩ | ⟨hmeets, -⟩
      · rw [hok] at hlayout
        cases hlayout
      · exact ⟨topo, htopo, hmeets⟩
  · rintro ⟨topo, htopo, hmeets⟩
    rcases layoutTexts_cases topo cpus with ⟨hmeets', -⟩ | ⟨-, e, he, herror⟩
    · exact absurd hmeets' hmeets
    · exact ⟨e, he, except_bind_eq_error.mpr (.inr ⟨topo, htopo, herror⟩)⟩

/-- Apart from its files, `create_cpuset` fails only where `cpusetTexts` does. -/
lemma createCpuset_error {V : Type} (fs : CpusetFs V) (rt : VmRuntime)
    (t : Option CgroupPaths × V) :
    Ends (createCpuset fs rt) t (fun _ _ => True)
      (fun e _ => e.OfFile ∨ ∃ v, cpusetTexts (fs.numaSysfs v) rt.cpus = .error e) := by
  have hfs : ∀ {x : EStateM String V Unit} {t : Option CgroupPaths × V}
      {Q : Unit → Option CgroupPaths × V → Prop}, (∀ t, Q () t) →
      Ends (onFs x) t Q
        (fun e _ => e.OfFile ∨ ∃ v, cpusetTexts (fs.numaSysfs v) rt.cpus = .error e) := by
    intro x t Q hQ
    rw [onFs, ends_zoom, Ends, EStateM.adaptExcept]
    cases x t.2 with
    | ok a v => exact hQ _
    | error e v => exact .inl ⟨e, .inl rfl⟩
  rw [createCpuset]
  simp only [ends_bind]
  refine hfs fun t => hfs fun t => ?_
  rw [ends_get, ends_fromExcept]
  cases htexts : cpusetTexts (fs.numaSysfs t.2) rt.cpus with
  | error e => exact .inr ⟨t.2, htexts⟩
  | ok texts => exact hfs fun t => hfs fun t => hfs fun t => hfs fun t => trivial

end Chalybs
