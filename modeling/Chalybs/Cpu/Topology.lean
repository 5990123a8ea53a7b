import Chalybs.Core.Model
import Chalybs.Foundation.Fallible
import Mathlib.Data.List.TakeWhile

/-!
# The NUMA nodes in sysfs

The same directory is read twice: by `HostNumaTopology::from_sysfs` (`cpu/detect/topology.rs`),
which skips what it cannot read, and by `discover_numa_topology` (`cpuset/mod.rs`), which stops at
it and takes all online CPUs for one node when there is no node at all.

* `NumaSysfs` — the files.
* `NumaSysfs.fromSysfs`, `NumaSysfs.discoverNumaTopology` — the two functions.
* `parseCpulist_of_parseCpuList` — where the strict parser accepts, the lenient one agrees.
* `meets_iff` — which lists of CPUs lie on a node that `discover_numa_topology` finds.
-/

namespace Chalybs

open Foundation

/-! ## The files -/

/-- The file `cpulist` of a node, which may be missing or unreadable. -/
abbrev CpuListFile := Option (Except String String)

/-- What sysfs shows of the CPUs: the file `cpu/online` and the directory `node`, if there is one,
with the entries named `node<N>` in it. -/
structure NumaSysfs where
  online : Except String String
  nodeDir : Option (Except String (AList fun _ : ℕ => CpuListFile))

/-- The text without the white space around it. -/
def trimmed (s : String) : String := String.ofList (trim s.toList)

/-! ## The lenient reader -/

/-- One part of the list, in `parse_cpulist`.  Of a range with one bad end the good one is kept. -/
def lenientCpuPart (part : List Char) : List ℕ :=
  match splitOnce '-' part with
  | some (first, last) =>
      match parseU32 (trim first), parseU32 (trim last) with
      | .ok a, .ok b => if b < a then [] else inclusiveRange a b
      | .ok a, .error _ => [a]
      | .error _, .ok b => [b]
      | .error _, .error _ => []
  | none =>
      match parseU32 part with
      | .ok a => [a]
      | .error _ => []

/-- The trimmed parts of a list that are not empty. -/
def cpuParts (s : String) : List (List Char) :=
  ((s.toList.splitOn ',').map trim).filter fun part => !part.isEmpty

/-- `parse_cpulist`. -/
def parseCpulist (s : String) : List ℕ := (cpuParts s).flatMap lenientCpuPart

example : parseCpulist "0-x,2-3,y,5" = [0, 2, 3, 5] := by decide

/-- The node that a directory stands for; a node without CPUs is skipped. -/
def detectNode (id : ℕ) : CpuListFile → Option HostNumaNode
  | some (.ok text) =>
      let cpus := parseCpulist (trimmed text)
      if cpus.isEmpty then none else some ⟨id, sortDedup cpus⟩
  | _ => none

/-- `HostNumaTopology::from_sysfs`. -/
def NumaSysfs.fromSysfs (sys : NumaSysfs) : Except String HostNumaTopology :=
  match sys.nodeDir with
  | none => .error "No such file or directory (os error 2)"
  | some (.error e) => .error e
  | some (.ok dirs) => .ok ⟨dirs.entries.filterMap fun dir => detectNode dir.1 dir.2⟩

/-! ## The strict reader -/

/-- `NumaTopology`: the CPUs of each node, and the online CPUs. -/
structure NumaTopology where
  nodeCpus : List HostNumaNode
  onlineCpus : List ℕ
  deriving DecidableEq, Repr

/-- The loop of `discover_numa_topology` over the node directories. -/
def readNodes : List (Sigma fun _ : ℕ => CpuListFile) → Except ChalybsError (List HostNumaNode)
  | [] => .ok []
  | ⟨_, none⟩ :: dirs => readNodes dirs
  | ⟨_, some (.error e)⟩ :: _ => .error (.Io e)
  | ⟨id, some (.ok text)⟩ :: dirs => do
      let cpus ← parseCpuList (trimmed text)
      let nodes ← readNodes dirs
      pure (⟨id, sortDedup cpus⟩ :: nodes)

/-- The nodes that are found before the fallback. -/
def NumaSysfs.readNodeDir (sys : NumaSysfs) : Except ChalybsError (List HostNumaNode) :=
  match sys.nodeDir with
  | none => .ok []
  | some (.error e) => .error (.Io e)
  | some (.ok dirs) => readNodes dirs.entries

/-- The list of the online CPUs. -/
def NumaSysfs.onlineCpus (sys : NumaSysfs) : Except ChalybsError (List ℕ) := do
  let text ← sys.online.mapError .Io
  let cpus ← parseCpuList (trimmed text)
  pure (sortDedup cpus)

/-- `discover_numa_topology`.  The nodes are kept in the order of their numbers. -/
def NumaSysfs.discoverNumaTopology (sys : NumaSysfs) : Except ChalybsError NumaTopology := do
  let onlineCpus ← sys.onlineCpus
  let nodes ← sys.readNodeDir
  pure
    { nodeCpus :=
        if nodes.isEmpty then [⟨0, onlineCpus⟩]
        else nodes.insertionSort fun a b => a.nodeId ≤ b.nodeId
      onlineCpus }

/-- `nodes_for_cpus`. -/
def nodesForCpus (topo : NumaTopology) (cpus : List ℕ) : List ℕ :=
  (topo.nodeCpus.filter fun node => node.cpus.any fun cpu => cpus.contains cpu).map
    HostNumaNode.nodeId

/-! ## Where the readers agree -/

section

variable {part : List Char} {cpus : List ℕ} {n : ℕ}

lemma not_isWhitespace_of_toDigit {radix d : ℕ} {c : Char} (h : toDigit radix c = some d) :
    isWhitespace c = false := by
  have hrange : 48 ≤ c.toNat ∧ c.toNat ≤ 57 ∨ 97 ≤ c.toNat ∧ c.toNat ≤ 122 ∨
      65 ≤ c.toNat ∧ c.toNat ≤ 90 := by
    rw [toDigit] at h
    split_ifs at h with hnum hlower hupper
    · exact .inl hnum
    · exact .inr (.inl hlower)
    · exact .inr (.inr hupper)
    · cases h
  simp only [isWhitespace, Bool.or_eq_false_iff, Bool.and_eq_false_iff, decide_eq_false_iff_not,
    beq_eq_false_iff_ne, ne_eq]
  omega

lemma digits_of_parseDigits {radix bound acc : ℕ} (h : parseDigits radix bound acc part = .ok n) :
    ∀ c ∈ part, isWhitespace c = false := by
  induction part generalizing acc with
  | nil => exact fun c hc => absurd hc List.not_mem_nil
  | cons first rest ih =>
      rw [parseDigits] at h
      cases hdigit : toDigit radix first with
      | none => simp [hdigit] at h
      | some d =>
          simp only [hdigit] at h
          split_ifs at h
          exact List.forall_mem_cons.mpr ⟨not_isWhitespace_of_toDigit hdigit, ih h⟩

lemma trim_eq_self (h : ∀ c ∈ part, isWhitespace c = false) : trim part = part := by
  have hdrop : ∀ s : List Char, (∀ c ∈ s, isWhitespace c = false) →
      s.dropWhile isWhitespace = s := by
    intro s hs
    refine List.dropWhile_eq_self_iff.mpr fun hlen => ?_
    rw [hs _ (List.getElem_mem hlen)]
    exact Bool.false_ne_true
  rw [trim, hdrop part h, hdrop part.reverse fun c hc => h c (List.mem_reverse.mp hc),
    List.reverse_reverse]

/-- A text that is a number has no white space around it. -/
lemma trim_of_parseU32 (h : parseU32 part = .ok n) : trim part = part := by
  refine trim_eq_self ?_
  rw [parseU32] at h
  unfold fromStrRadix at h
  split at h
  · cases h
  · cases h
  · exact List.forall_mem_cons.mpr ⟨by decide, digits_of_parseDigits h⟩
  · exact digits_of_parseDigits h

/-- A part that the strict parser accepts is read alike. -/
lemma lenientCpuPart_of_parseCpuPart (h : parseCpuPart part = .ok cpus) :
    lenientCpuPart part = cpus := by
  rw [parseCpuPart] at h
  rw [lenientCpuPart]
  cases hsplit : splitOnce '-' part with
  | none =>
      simp only [hsplit] at h ⊢
      cases hnum : parseU32 part with
      | error e => simp [hnum] at h
      | ok a => simpa [hnum] using h
  | some ends =>
      obtain ⟨first, last⟩ := ends
      simp only [hsplit] at h ⊢
      cases hfirst : parseU32 first with
      | error e => simp [hfirst] at h
      | ok a =>
          cases hlast : parseU32 last with
          | error e => simp [hfirst, hlast] at h
          | ok b =>
              simp only [hfirst, hlast, Except.ok.injEq] at h
              simp only [trim_of_parseU32 hfirst, trim_of_parseU32 hlast, hfirst, hlast]
              split_ifs with hlt
              · rw [← h, inclusiveRange, Nat.sub_eq_zero_of_le (by omega), List.range'_zero]
              · exact h

lemma flatMap_of_parseCpuParts {parts : List (List Char)} (h : parseCpuParts parts = .ok cpus) :
    parts.flatMap lenientCpuPart = cpus := by
  induction parts generalizing cpus with
  | nil => exact Except.ok.inj h
  | cons part parts ih =>
      rw [parseCpuParts] at h
      obtain ⟨first, hfirst, h⟩ := except_bind_eq_ok.mp h
      obtain ⟨rest, hrest, h⟩ := except_bind_eq_ok.mp h
      rw [List.flatMap_cons, lenientCpuPart_of_parseCpuPart hfirst, ih hrest]
      exact Except.ok.inj h

/-- **Where the strict parser accepts a list, the lenient one agrees.** -/
lemma parseCpulist_of_parseCpuList {s : String} (h : parseCpuList s = .ok cpus) :
    parseCpulist s = cpus :=
  flatMap_of_parseCpuParts h

end

/-! ## The nodes of a list of CPUs -/

lemma sortDedup_eq_nil {cpus : List ℕ} : sortDedup cpus = [] ↔ cpus = [] := by
  rw [sortDedup, List.destutter_eq_nil, ← List.length_eq_zero_iff, List.length_insertionSort,
    List.length_eq_zero_iff]

/-- The nodes that the lenient reader finds are those with CPUs that the strict one finds. -/
lemma filterMap_detectNode {dirs : List (Sigma fun _ : ℕ => CpuListFile)}
    {nodes : List HostNumaNode} (h : readNodes dirs = .ok nodes) :
    (dirs.filterMap fun dir => detectNode dir.1 dir.2) =
      nodes.filter fun node => !node.cpus.isEmpty := by
  induction dirs generalizing nodes with
  | nil =>
      obtain rfl := Except.ok.inj h
      rfl
  | cons dir dirs ih =>
      obtain ⟨id, file⟩ := dir
      rcases file with _ | (e | text)
      · exact ih h
      · cases h
      · rw [readNodes] at h
        obtain ⟨cpus, hcpus, h⟩ := except_bind_eq_ok.mp h
        obtain ⟨rest, hrest, h⟩ := except_bind_eq_ok.mp h
        obtain rfl := Except.ok.inj h
        rw [List.filterMap_cons, detectNode, parseCpulist_of_parseCpuList hcpus]
        cases cpus with
        | nil => simpa [sortDedup] using ih hrest
        | cons cpu cpus =>
            have hne : (sortDedup (cpu :: cpus)).isEmpty = false := by
              rw [List.isEmpty_eq_false_iff]
              exact fun hnil => List.cons_ne_nil _ _ (sortDedup_eq_nil.mp hnil)
            simpa [hne] using ih hrest

/-- Some of the CPUs lie on a node that `discover_numa_topology` has found. -/
def NumaTopology.Meets (topo : NumaTopology) (cpus : List ℕ) : Prop :=
  ∃ node ∈ topo.nodeCpus, ∃ cpu ∈ node.cpus, cpu ∈ cpus

lemma nodesForCpus_eq_nil {topo : NumaTopology} {cpus : List ℕ} :
    nodesForCpus topo cpus = [] ↔ ¬ topo.Meets cpus := by
  simp [nodesForCpus, NumaTopology.Meets, List.filter_eq_nil_iff]

/-- Where a node has CPUs, any list of CPUs of nodes has a node; otherwise the list must have an
online CPU, and no node may be there at all. -/
def NumaSysfs.Locates (sys : NumaSysfs) (cpus : List ℕ) : Prop :=
  match sys.fromSysfs, sys.readNodeDir, sys.onlineCpus with
  | .ok topology, .ok nodes, .ok online =>
      if topology.nodes = [] then nodes = [] ∧ ∃ cpu ∈ online, cpu ∈ cpus else cpus ≠ []
  | _, _, _ => True

lemma fromSysfs_nodes {sys : NumaSysfs} {topology : HostNumaTopology} {nodes : List HostNumaNode}
    (htopology : sys.fromSysfs = .ok topology) (hnodes : sys.readNodeDir = .ok nodes) :
    topology.nodes = nodes.filter fun node => !node.cpus.isEmpty := by
  rw [NumaSysfs.fromSysfs] at htopology
  rw [NumaSysfs.readNodeDir] at hnodes
  cases hdir : sys.nodeDir with
  | none => simp [hdir] at htopology
  | some read =>
      cases read with
      | error e => simp [hdir] at htopology
      | ok dirs =>
          simp only [hdir, Except.ok.injEq] at htopology hnodes
          rw [← htopology]
          exact filterMap_detectNode hnodes

/-- **Which lists have a node**, if all their CPUs lie on the nodes that `from_sysfs` finds, as far
as it finds any. -/
lemma meets_iff {sys : NumaSysfs} {topology : HostNumaTopology} {topo : NumaTopology}
    (htopology : sys.fromSysfs = .ok topology) (htopo : sys.discoverNumaTopology = .ok topo)
    {cpus : List ℕ}
    (hcpus : topology.nodes ≠ [] → ∀ cpu ∈ cpus, ∃ node ∈ topology.nodes, cpu ∈ node.cpus) :
    topo.Meets cpus ↔ sys.Locates cpus := by
  obtain ⟨online, honline, htopo⟩ := except_bind_eq_ok.mp htopo
  obtain ⟨nodes, hnodes, htopo⟩ := except_bind_eq_ok.mp htopo
  obtain rfl := Except.ok.inj htopo
  have hfound := fromSysfs_nodes htopology hnodes
  simp only [NumaSysfs.Locates, htopology, hnodes, honline, NumaTopology.Meets]
  by_cases hnil : nodes = []
  · have hempty : topology.nodes = [] := by rw [hfound, hnil, List.filter_nil]
    simp [hnil, hempty]
  · rw [if_neg (by simpa using hnil)]
    simp only [List.mem_insertionSort]
    split_ifs with hempty
    · refine iff_of_false ?_ fun h => hnil h.1
      rintro ⟨node, hnode, cpu, hcpu, -⟩
      rw [hempty, eq_comm, List.filter_eq_nil_iff] at hfound
      have hnone : node.cpus = [] := by simpa using hfound node hnode
      rw [hnone] at hcpu
      exact absurd hcpu List.not_mem_nil
    · constructor
      · rintro ⟨_, _, cpu, _, hmem⟩ hnone
        rw [hnone] at hmem
        exact absurd hmem List.not_mem_nil
      · intro hne
        obtain ⟨cpu, hcpu⟩ := List.exists_mem_of_ne_nil cpus hne
        obtain ⟨node, hnode, hon⟩ := hcpus hempty cpu hcpu
        rw [hfound] at hnode
        exact ⟨node, (List.mem_filter.mp hnode).1, cpu, hon, hcpu⟩

end Chalybs
