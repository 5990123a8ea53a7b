import Chalybs.Cpu.ListGrammar
import Chalybs.Cpu.Sharing
import Chalybs.Foundation.Overwrite

/-!
# Is the split between host and VM atomic?

`create_cpuset` (`cpuset/mod.rs`) writes four files one after the other.  The kernel may refuse each
of them, and what was written before is not taken back.

* `CpusetTexts.writes`, `CpusetCalls.Prepares` — the writes, and what comes before them.
* `Describes.readBack` — what the two files of a cgroup are read as.
* `SplitBy`, `SplitAtomic` — all four files describe one layout, or nothing has changed.
* `SplitSafe` — the condition on the answers of the host.
* `splitAtomic_iff` — when the split is atomic.
-/

namespace Chalybs

open Foundation

variable {V : Type}

/-! ## The writes -/

/-- The four files, in the order in which they are written. -/
def cpusetFiles : List String :=
  [s!"{vfioCgroups.vm}/cpuset.cpus", s!"{vfioCgroups.vm}/cpuset.mems",
    s!"{vfioCgroups.host}/cpuset.cpus", s!"{vfioCgroups.host}/cpuset.mems"]

/-- What is written to them. -/
def CpusetTexts.writes (texts : CpusetTexts) : List (String × String) :=
  cpusetFiles.zip [texts.vmCpus, texts.vmMems, texts.hostCpus, texts.hostMems]

/-- `create_cpuset` comes to its first write, with these texts. -/
def CpusetCalls.Prepares (os : CpusetCalls V) (cpus : VmCpuLayout) (v v' : V)
    (texts : CpusetTexts) : Prop :=
  ∃ v₁, os.createDirAll vfioCgroups.vm v = .ok () v₁ ∧
    os.createDirAll vfioCgroups.host v₁ = .ok () v' ∧
      cpusetTexts (os.numaSysfs v') cpus = .ok texts

section

variable {os : CpusetCalls V} {rt : VmRuntime} {t : Option CgroupPaths × CpusetWorld V}
  {Q : Unit → Option CgroupPaths × CpusetWorld V → Prop}
  {E : ChalybsError → Option CgroupPaths × CpusetWorld V → Prop}

/-- A write of `create_cpuset`, on the runtime and the files. -/
def CpusetCalls.writeFile (os : CpusetCalls V) (w : String × String) :
    CpusetM (CpusetWorld V) Unit := onFs (os.fs.write w.1 w.2)

lemma overwrites_writeFile (os : CpusetCalls V) (cgroups : Option CgroupPaths) :
    Overwrites os.write (fun files rest => (cgroups, (⟨files, rest⟩ : CpusetWorld V))) .Io
      os.writeFile where
  ok m w r r' h := by
    simp [CpusetCalls.writeFile, onFs, zoom, EStateM.adaptExcept, CpusetCalls.fs, h]
  error m w r e r' h := by
    simp [CpusetCalls.writeFile, onFs, zoom, EStateM.adaptExcept, CpusetCalls.fs, h]

/-- **`create_cpuset`** is a loop over the writes, after the directories have been made and the
texts determined. -/
lemma createCpuset_eq (os : CpusetCalls V) (rt : VmRuntime) :
    createCpuset os.fs rt = (do
      onFs (os.fs.createDirAll vfioCgroups.vm)
      onFs (os.fs.createDirAll vfioCgroups.host)
      let t ← get
      let texts ← fromExcept (cpusetTexts (os.numaSysfs t.2.rest) rt.cpus)
      forM texts.writes os.writeFile
      modify fun t => (some vfioCgroups, t.2)) := by
  simp only [CpusetTexts.writes, cpusetFiles, List.zip_cons_cons, List.zip_nil_left,
    List.forM_cons, List.forM_nil, bind_assoc, pure_bind]
  rfl

/-- Before the first write, nothing has happened to the files. -/
lemma ends_createCpuset_of_prepares {v' : V} {texts : CpusetTexts}
    (h : os.Prepares rt.cpus t.2.rest v' texts) :
    Ends (createCpuset os.fs rt) t Q E ↔
      Ends (forM texts.writes os.writeFile) (t.1, ⟨t.2.files, v'⟩)
        (fun _ u => Q () (some vfioCgroups, u.2)) E := by
  obtain ⟨v₁, hvm, hhost, htexts⟩ := h
  have hmkdir : ∀ {path : String} {t : Option CgroupPaths × CpusetWorld V} {v : V}
      {Q : Unit → Option CgroupPaths × CpusetWorld V → Prop},
      os.createDirAll path t.2.rest = .ok () v →
        (Ends (onFs (os.fs.createDirAll path)) t Q E ↔ Q () (t.1, { t.2 with rest := v })) := by
    intro path t v Q hok
    rw [ends_createDirAll, Ends, hok]
  rw [createCpuset_eq, ends_bind, hmkdir hvm, ends_bind, hmkdir hhost, ends_bind, ends_get,
    ends_bind, ends_fromExcept, htexts]
  exact ends_bind

lemma ends_createCpuset_of_not_prepares
    (h : ∀ v' texts, ¬ os.Prepares rt.cpus t.2.rest v' texts)
    (hE : ∀ e v, E e (t.1, { t.2 with rest := v })) : Ends (createCpuset os.fs rt) t Q E := by
  refine ends_bind.mpr (ends_createDirAll.mpr
    (ends_of_eq (fun _ v₁ hvm => ?_) fun e v _ => hE _ v))
  refine ends_bind.mpr (ends_createDirAll.mpr
    (ends_of_eq (fun _ v₂ hhost => ?_) fun e v _ => hE _ v))
  refine ends_bind.mpr (ends_get.mpr (ends_bind.mpr (ends_fromExcept.mpr ?_)))
  cases htexts : cpusetTexts (os.numaSysfs v₂) rt.cpus with
  | error e =>
      simp only [CpusetCalls.fs, htexts]
      exact hE e v₂
  | ok texts => exact absurd ⟨v₁, hvm, hhost, htexts⟩ (h v₂ texts)

end

/-! ## Atomic splits -/

/-- The two files of a cgroup have the CPUs, and the nodes that contain some of them. -/
structure Describes (topo : NumaTopology) (dir : String) (cpus : List ℕ)
    (files : String → Option String) : Prop where
  list : files s!"{dir}/cpuset.cpus" = some (formatCpuList cpus)
  mems : ∃ nodes, files s!"{dir}/cpuset.mems" = some (formatNodeList nodes) ∧
    ∀ id, id ∈ nodes ↔ ∃ node ∈ topo.nodeCpus, node.nodeId = id ∧ ∃ cpu ∈ node.cpus, cpu ∈ cpus

/-- Both files are read back: the one as the CPUs, the other as the nodes. -/
lemma Describes.readBack {topo : NumaTopology} {dir : String} {cpus : List ℕ}
    {files : String → Option String} (h : Describes topo dir cpus files)
    (hcpus : ∀ cpu ∈ cpus, cpu < 2 ^ 32) (hids : ∀ node ∈ topo.nodeCpus, node.nodeId < 2 ^ 32) :
    (∃ text, files s!"{dir}/cpuset.cpus" = some text ∧ DenotesCpus text (sortDedup cpus)) ∧
      ∃ text nodes, files s!"{dir}/cpuset.mems" = some text ∧ DenotesCpus text nodes ∧
        ∀ id, id ∈ nodes ↔
          ∃ node ∈ topo.nodeCpus, node.nodeId = id ∧ ∃ cpu ∈ node.cpus, cpu ∈ cpus := by
  obtain ⟨nodes, hmems, hnodes⟩ := h.mems
  refine ⟨⟨_, h.list, denotesCpus_formatCpuList hcpus⟩, _, nodes, hmems,
    denotesCpus_joinWith fun id hid => ?_, hnodes⟩
  obtain ⟨node, hnode, rfl, -⟩ := (hnodes id).mp hid
  exact hids node hnode

/-- The files split the CPUs between the VM and the host as the layout says. -/
structure SplitBy (topo : NumaTopology) (cpus : VmCpuLayout) (files : String → Option String) :
    Prop where
  vm : Describes topo vfioCgroups.vm cpus.vm.cpus files
  host : Describes topo vfioCgroups.host cpus.host.cpus files
  disjoint : cpus.vm.cpus.Disjoint cpus.host.cpus

/-- The topology that `create_cpuset` finds. -/
def CpusetCalls.Discovers (os : CpusetCalls V) (v : V) (topo : NumaTopology) : Prop :=
  ∃ v₁ v₂, os.createDirAll vfioCgroups.vm v = .ok () v₁ ∧
    os.createDirAll vfioCgroups.host v₁ = .ok () v₂ ∧
      (os.numaSysfs v₂).discoverNumaTopology = .ok topo

/-- `create_cpuset` splits the CPUs, or it fails and leaves the files and the runtime as they
were. -/
def SplitAtomic (os : CpusetCalls V) (rt : VmRuntime) (t : Option CgroupPaths × CpusetWorld V) :
    Prop :=
  Ends (createCpuset os.fs rt) t
    (fun _ u => ∃ topo, os.Discovers t.2.rest topo ∧ SplitBy topo rt.cpus u.2.files)
    fun _ u => u.1 = t.1 ∧ ∀ file ∈ cpusetFiles, u.2.files file = t.2.files file

/-- The host answers the writes of `create_cpuset`, if it comes to them, in one of two ways: it
carries out all four, and the lists are disjoint; or it refuses one, and those before it have put
what was there. -/
def SplitSafe (os : CpusetCalls V) (cpus : VmCpuLayout) (w : CpusetWorld V) : Prop :=
  ∀ v texts, os.Prepares cpus w.rest v texts →
    (∀ v', Carries os.write texts.writes v v' → cpus.vm.cpus.Disjoint cpus.host.cpus) ∧
      ∀ pre e v', Stops os.write texts.writes pre v e v' →
        ∀ write ∈ pre, w.files write.1 = some write.2

section

variable {os : CpusetCalls V} {rt : VmRuntime} {t : Option CgroupPaths × CpusetWorld V}
  {v v' : V} {texts : CpusetTexts}

lemma nodup_cpusetFiles : cpusetFiles.Nodup := by decide

/-- The nodes of a text are those that contain some of the CPUs. -/
lemma mem_nodesForCpus {topo : NumaTopology} {cpus : List ℕ} {id : ℕ} :
    id ∈ nodesForCpus topo cpus ↔
      ∃ node ∈ topo.nodeCpus, node.nodeId = id ∧ ∃ cpu ∈ node.cpus, cpu ∈ cpus := by
  simp only [nodesForCpus, List.mem_map, List.mem_filter, List.any_eq_true, List.contains_iff_mem]
  constructor
  · rintro ⟨node, ⟨hnode, hcpu⟩, hid⟩
    exact ⟨node, hnode, hid, hcpu⟩
  · rintro ⟨node, hnode, hid, hcpu⟩
    exact ⟨node, ⟨hnode, hcpu⟩, hid⟩

/-- After all four writes, the files describe the layout. -/
lemma splits_of_writes {topo : NumaTopology} {cpus : VmCpuLayout} {m : String → Option String}
    (htexts : layoutTexts topo cpus = .ok texts)
    (hdisjoint : cpus.vm.cpus.Disjoint cpus.host.cpus) :
    SplitBy topo cpus (overwrite m texts.writes) := by
  have hwritten : ∀ write ∈ texts.writes, overwrite m texts.writes write.1 = some write.2 :=
    fun write => overwrite_of_mem nodup_cpusetFiles
  have hvmCpus := hwritten (_, _) (.head _)
  have hvmMems := hwritten (_, _) (.tail _ (.head _))
  have hhostCpus := hwritten (_, _) (.tail _ (.tail _ (.head _)))
  have hhostMems := hwritten (_, _) (.tail _ (.tail _ (.tail _ (.head _))))
  simp only [layoutTexts] at htexts
  split_ifs at htexts
  obtain rfl := Except.ok.inj htexts
  constructor
  case vm => exact ⟨hvmCpus, _, hvmMems, fun _ => mem_nodesForCpus⟩
  case host => exact ⟨hhostCpus, _, hhostMems, fun _ => mem_nodesForCpus⟩
  case disjoint => exact hdisjoint

/-- Where all writes are carried out, the lists must be disjoint. -/
lemma splitAtomic_of_carries (hprep : os.Prepares rt.cpus t.2.rest v texts)
    (h : Carries os.write texts.writes v v') :
    SplitAtomic os rt t ↔ rt.cpus.vm.cpus.Disjoint rt.cpus.host.cpus := by
  rw [SplitAtomic, ends_createCpuset_of_prepares hprep, Ends,
    forM_of_carries (overwrites_writeFile os t.1) h t.2.files]
  constructor
  · rintro ⟨topo, -, hsplits⟩
    exact hsplits.disjoint
  · intro hdisjoint
    obtain ⟨v₁, hvm, hhost, htexts⟩ := hprep
    obtain ⟨topo, htopo, hlayout⟩ := except_bind_eq_ok.mp htexts
    exact ⟨topo, ⟨v₁, v, hvm, hhost, htopo⟩, splits_of_writes hlayout hdisjoint⟩

/-- Where a write is refused, those before it must have put what was there. -/
lemma splitAtomic_of_stops {pre : List (String × String)} {e : String}
    (hprep : os.Prepares rt.cpus t.2.rest v texts) (h : Stops os.write texts.writes pre v e v') :
    SplitAtomic os rt t ↔ ∀ write ∈ pre, t.2.files write.1 = some write.2 := by
  have hpre : pre <+: texts.writes := by
    obtain ⟨w, post, r₁, hwrites, -⟩ := h
    exact ⟨w :: post, hwrites.symm⟩
  have hnodup : (pre.map Prod.fst).Nodup :=
    (hpre.sublist.map Prod.fst).nodup nodup_cpusetFiles
  have hmem : ∀ write ∈ pre, write.1 ∈ cpusetFiles :=
    fun write hwrite => List.mem_map_of_mem (f := Prod.fst) (hpre.subset hwrite)
  rw [SplitAtomic, ends_createCpuset_of_prepares hprep, Ends,
    forM_of_stops (overwrites_writeFile os t.1) h t.2.files]
  exact (and_iff_right rfl).trans (overwrite_eq_iff hnodup hmem)

end

/-- **When the split is atomic**: whenever `create_cpuset` comes to its writes, either all four are
carried out and the lists of the VM and the host are disjoint, or the writes before the one that is
refused have put what was there. -/
theorem splitAtomic_iff (os : CpusetCalls V) (rt : VmRuntime)
    (t : Option CgroupPaths × CpusetWorld V) :
    SplitAtomic os rt t ↔ SplitSafe os rt.cpus t.2 := by
  constructor
  · intro h v texts hprep
    exact ⟨fun v' hcarries => (splitAtomic_of_carries hprep hcarries).mp h,
      fun pre e v' hstops => (splitAtomic_of_stops hprep hstops).mp h⟩
  · intro h
    by_cases hprep : ∃ v texts, os.Prepares rt.cpus t.2.rest v texts
    · obtain ⟨v, texts, hprep⟩ := hprep
      obtain ⟨hcarries, hstops⟩ := h v texts hprep
      rcases carries_or_stops os.write texts.writes v with ⟨v', h'⟩ | ⟨pre, e, v', h'⟩
      · exact (splitAtomic_of_carries hprep h').mpr (hcarries v' h')
      · exact (splitAtomic_of_stops hprep h').mpr (hstops pre e v' h')
    · push Not at hprep
      exact ends_createCpuset_of_not_prepares hprep fun _ _ => ⟨rfl, fun _ _ => rfl⟩

/-- An operating system like `sixCpuCalls` that refuses the CPUs of the host. -/
def refusingCpusets : CpusetCalls Unit where
  numaSysfs := sixCpuCalls.numaSysfs
  createDirAll := sixCpuCalls.createDirAll
  write path _ :=
    if path = s!"{vfioCgroups.host}/cpuset.cpus" then
      throw "Device or resource busy (os error 16)"
    else pure ()

/-- A runtime with the CPUs of its VM and of the host. -/
def runtimeOn (vmCpus hostCpus : List ℕ) : VmRuntime :=
  VmRuntime.new "a" (minimalVmConfig {} {}) ⟨⟨hostCpus⟩, ⟨vmCpus⟩⟩

/-- Before `create_cpuset` has run. -/
def noCpusets : Option CgroupPaths × CpusetWorld Unit := (none, ⟨fun _ => none, ()⟩)

/-- If the CPUs of the host are refused, those of the VM have been written; and nothing keeps the
VM and the host apart. -/
theorem split_not_atomic :
    ¬ SplitAtomic refusingCpusets (runtimeOn [2, 3] [0, 1]) noCpusets ∧
      ¬ SplitAtomic sixCpuCalls (runtimeOn [2, 3] [0, 1, 2]) noCpusets := by
  constructor
  · have htexts : cpusetTexts (refusingCpusets.numaSysfs ()) ⟨⟨[0, 1]⟩, ⟨[2, 3]⟩⟩ =
        .ok ⟨"2,3", "0", "0,1", "0"⟩ := by rfl
    have hprep : refusingCpusets.Prepares ⟨⟨[0, 1]⟩, ⟨[2, 3]⟩⟩ () () ⟨"2,3", "0", "0,1", "0"⟩ :=
      ⟨(), rfl, rfl, htexts⟩
    have hstops : Stops refusingCpusets.write
        (CpusetTexts.writes ⟨"2,3", "0", "0,1", "0"⟩)
        [(s!"{vfioCgroups.vm}/cpuset.cpus", "2,3"), (s!"{vfioCgroups.vm}/cpuset.mems", "0")] ()
        "Device or resource busy (os error 16)" () :=
      ⟨_, _, (), rfl, ⟨(), rfl, (), rfl, rfl⟩, rfl⟩
    rw [splitAtomic_of_stops hprep hstops]
    intro h
    exact absurd (h _ List.mem_cons_self) (by decide)
  · have htexts : cpusetTexts (sixCpuCalls.numaSysfs ()) ⟨⟨[0, 1, 2]⟩, ⟨[2, 3]⟩⟩ =
        .ok ⟨"2,3", "0", "0,1,2", "0"⟩ := by rfl
    have hprep : sixCpuCalls.Prepares ⟨⟨[0, 1, 2]⟩, ⟨[2, 3]⟩⟩ () () ⟨"2,3", "0", "0,1,2", "0"⟩ :=
      ⟨(), rfl, rfl, htexts⟩
    have hcarries : Carries sixCpuCalls.write
        (CpusetTexts.writes ⟨"2,3", "0", "0,1,2", "0"⟩) () () :=
      ⟨(), rfl, (), rfl, (), rfl, (), rfl, rfl⟩
    rw [splitAtomic_of_carries hprep hcarries]
    intro h
    exact h (by decide : 2 ∈ [2, 3]) (by decide)

end Chalybs
