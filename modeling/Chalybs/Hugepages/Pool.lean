import Chalybs.Core.Model
import Chalybs.Foundation.Fallible

/-!
# Hugepages

`provision_for_vm` and `cleanup_for_vm` (`hugepages.rs`), on a host with one NUMA node whose pool of
2 MiB pages all VMs share.  Provisioning looks for free pages and raises the size of the pool, but
reserves nothing; the pages are taken when QEMU is launched.

* `NodePool` — the pool.  It is never smaller than what is in use, and a write that raises it adds
  no more pages than the kernel can allocate.
* `HugeIo`, `HugeIo.effect` — the operations on sysfs and mounts, each of which may fail.
* `NodeFiles`, `NodeFiles.provisionForVm` — provisioning, on a host of any kind.
* `HugepageCalls.files` — the host that all VMs share; `HugepageCalls.provisionForVm`,
  `HugepageCalls.cleanupForVm` — the functions on it.
-/

namespace Chalybs

open Foundation

/-! ## The pool -/

/-- The 2 MiB pages of a NUMA node. -/
structure NodePool where
  node : UInt16
  /-- `nr_hugepages`. -/
  total : ℕ
  inUse : ℕ
  inUse_le : inUse ≤ total
  deriving DecidableEq

namespace NodePool

/-- `free_hugepages`. -/
def free (p : NodePool) : ℕ := p.total - p.inUse

/-- A write to `nr_hugepages`, when so many more pages can be allocated.  Pages that are in use are
not given back. -/
def write (p : NodePool) (n available : ℕ) : NodePool :=
  { p with total := max (min n (p.total + available)) p.inUse, inUse_le := le_max_right _ _ }

/-- A process takes pages, all of them or none. -/
def take (p : NodePool) (n : ℕ) : NodePool :=
  if h : n ≤ p.free then
    { p with
      inUse := p.inUse + n
      inUse_le := by
        have hle := p.inUse_le
        rw [free] at h
        omega }
  else p

/-- A process that exits gives back pages. -/
def giveBack (p : NodePool) (n : ℕ) : NodePool :=
  { p with inUse := p.inUse - n, inUse_le := (Nat.sub_le _ _).trans p.inUse_le }

variable {p : NodePool} {n available : ℕ}

/-- Nothing has to be allocated for a write of 0. -/
lemma write_zero : p.write 0 available = p.write 0 0 := by
  simp [write]

lemma write_write_zero : (p.write 0 available).write 0 0 = p.write 0 0 := by
  simp [write]

lemma free_write : (p.write n available).free = min n (p.total + available) - p.inUse := by
  show max (min n (p.total + available)) p.inUse - p.inUse = _
  omega

lemma total_write (h : p.total ≤ n) :
    (p.write n available).total = min n (p.total + available) := by
  have hle := p.inUse_le
  show max (min n (p.total + available)) p.inUse = _
  omega

/-- Raising the pool leaves no fewer pages free. -/
lemma free_le_write (h : p.total ≤ n) : p.free ≤ (p.write n available).free := by
  rw [free_write, free]
  omega

lemma free_take (h : n ≤ p.free) : (p.take n).free = p.free - n := by
  rw [take, dif_pos h]
  show p.total - (p.inUse + n) = p.total - p.inUse - n
  omega

lemma free_le_giveBack : p.free ≤ (p.giveBack n).free :=
  Nat.sub_le_sub_left (Nat.sub_le _ _) _

end NodePool

/-! ## The host -/

/-- The pool, how often hugetlbfs is mounted on `/dev/hugepages`, whether the marker of a mount of
Chalybs is there, and the rest of the host. -/
structure HugeWorld (V : Type) where
  pool : NodePool
  mounts : ℕ
  marker : Bool
  rest : V

/-- The operations on the host. -/
inductive HugeIo
  | CreateMountPath
  | ReadMounts
  | Mount
  | WriteMarker
  | ReadNr
  | ReadFree
  | DropCaches
  | CompactMemory
  | WriteNr (pages : ℕ)
  /-- A write to `/proc/sys/vm/nr_hugepages`, which counts the pages of all nodes. -/
  | WriteGlobalNr (pages : ℕ)
  | Umount
  | RemoveMarker
  deriving DecidableEq, Repr

variable {V : Type}

/-- What an operation that succeeds does, when so many more pages can be allocated. -/
def HugeIo.effect (available : ℕ) (w : HugeWorld V) : HugeIo → HugeWorld V
  | .Mount => { w with mounts := w.mounts + 1 }
  | .WriteMarker => { w with marker := true }
  | .WriteNr pages | .WriteGlobalNr pages => { w with pool := w.pool.write pages available }
  | .Umount => { w with mounts := w.mounts - 1 }
  | .RemoveMarker => { w with marker := false }
  | .CreateMountPath | .ReadMounts | .ReadNr | .ReadFree | .DropCaches | .CompactMemory => w

/-- What the operating system answers. -/
structure HugepageCalls (V : Type) where
  /-- The outcome of an operation. -/
  io : HugeIo → EStateM String V Unit
  /-- How many more pages the kernel can allocate on the node. -/
  available : V → ℕ
  mountPathExists : V → Bool
  /-- Whether a mount on top of another one is refused with `EBUSY`. -/
  refusesMount : V → Bool
  /-- The entries of `/sys/devices/system/node` in the order in which they are listed, with their
  `cpulist` if it can be read. -/
  nodeEntries : V → Except String (List (String × Option String))
  /-- Whether a launch that fails leaves behind the QEMU that it has spawned. -/
  leavesChild : VmRuntime → V → Bool

/-- A computation on the host. -/
abbrev PoolM (V : Type) := EStateM ChalybsError (HugeWorld V)

/-- A computation on the part of the runtime that provisioning may write, and the host. -/
abbrev HugeM (V : Type) := EStateM ChalybsError ((HugepageRecord × List CoreEvent) × HugeWorld V)

/-! ## The node -/

/-- The loop of `select_hugepage_node` over the entries, with the best node so far and its overlap:
the first entry with the largest overlap wins. -/
def bestNode (hostCpus : List ℕ) :
    Option UInt16 × ℕ → List (String × Option String) → Option UInt16
  | best, [] => best.1
  | best, (name, cpulist) :: entries =>
      let candidate : Option (UInt16 × ℕ) := do
        let digits ← match name.toList with
          | 'n' :: 'o' :: 'd' :: 'e' :: digits => some digits
          | _ => none
        let node ← (fromStrRadix 10 (2 ^ 16) digits).toOption
        let cpus ← (parseCpuList (String.ofList (trim (← cpulist).toList))).toOption
        pure (UInt16.ofNat node, (hostCpus.filter fun cpu => cpus.contains cpu).length)
      match candidate with
      | none => bestNode hostCpus best entries
      | some (node, overlap) =>
          if best.2 < overlap then bestNode hostCpus (some node, overlap) entries
          else bestNode hostCpus best entries

/-- The node that is configured. -/
def VmConfig.configuredNode (cfg : VmConfig) : Option UInt16 :=
  cfg.numa.bind fun numa => numa.hugepageNode.or numa.node

/-- `select_hugepage_node`. -/
def selectHugepageNode (cfg : VmConfig)
    (nodeEntries : Except String (List (String × Option String))) : Except ChalybsError UInt16 :=
  match cfg.configuredNode with
  | some node => .ok node
  | none =>
      match parseCpuList (String.ofList (trim cfg.cpu.hostCpus.toList)) with
      | .error e => .error (.Other ("hugepages: failed to parse host CPU list " ++
          s!"'{cfg.cpu.hostCpus}' for NUMA detection: {e.display}"))
      | .ok hostCpus =>
          match nodeEntries with
          | .error e => .error (.Other ("hugepages: failed to list NUMA nodes in " ++
              s!"/sys/devices/system/node: {e}"))
          | .ok entries =>
              match bestNode hostCpus (none, 0) entries with
              | some node => .ok node
              | none => .error (.Other ("hugepages: failed to determine NUMA node " ++
                  "(no overlap between host CPUs and NUMA nodes)"))

/-- `node_hugepages_dir`. -/
def nodeHugepagesDir (node : UInt16) : String :=
  s!"/sys/devices/system/node/node{node}/hugepages/hugepages-2048kB"

/-- The pages that the memory of the VM needs. -/
def QemuConfig.requiredPages (q : QemuConfig) : UInt64 :=
  let hugepageSizeBytes : UInt64 := 2 * 1024 * 1024
  (q.memMb * 1024 * 1024 + hugepageSizeBytes - 1) / hugepageSizeBytes

/-- The memory of some pages in GiB with one decimal; a tie goes to the even digit. -/
def gibText (pages : UInt64) : String :=
  let tenths := pages.toNat * 10 / 512
  let remainder := pages.toNat * 10 % 512
  let rounded :=
    if 256 < remainder ∨ remainder = 256 ∧ tenths % 2 = 1 then tenths + 1 else tenths
  s!"{rounded / 10}.{rounded % 10}"

/-! ## Provisioning -/

/-- What provisioning does with a host. -/
structure NodeFiles (σ : Type) where
  /-- `select_hugepage_node`. -/
  selectNode : VmConfig → EStateM ChalybsError σ UInt16
  ensureHugetlbfsMount : EStateM ChalybsError σ Unit
  /-- `nr_hugepages` and `free_hugepages`. -/
  readCounters : UInt16 → EStateM ChalybsError σ (ℕ × ℕ)
  writeNr : UInt16 → ℕ → EStateM ChalybsError σ Unit
  dropCachesAndCompact : σ → σ

namespace NodeFiles

variable {σ : Type}

/-- A computation on the record and the events of the runtime, and a host. -/
abbrev RecordM (σ : Type) := EStateM ChalybsError ((HugepageRecord × List CoreEvent) × σ)

/-- A computation on the host, apart from the runtime. -/
def onHost {α : Type} : EStateM ChalybsError σ α → RecordM σ α :=
  zoom Prod.snd fun w t => (t.1, w)

/-- The pages are recorded, with an event. -/
def recordPages (node : UInt16) (pages : UInt64) (message : String) : RecordM σ Unit :=
  modify fun t =>
    ((⟨some node, pages.toNat, (pages * (2 * 1024 * 1024)).toNat, true⟩,
      t.1.2 ++ [⟨.Info, message⟩]), t.2)

variable (files : NodeFiles σ)

/-- One attempt to have the pages: the pool is raised if it is smaller than what is required.  The
counters are read again at the end. -/
def raisePool (node : UInt16) (pages : ℕ) : EStateM ChalybsError σ (ℕ × ℕ) := do
  modify files.dropCachesAndCompact
  let before ← files.readCounters node
  if before.1 < pages then files.writeNr node pages else pure ()
  files.readCounters node

/-- The loop of `provision_for_vm`, with the counters that were read last. -/
def attemptRaise (rt : VmRuntime) (node : UInt16) (pages : UInt64) :
    List ℕ → ℕ × ℕ → RecordM σ Unit
  | [], (nr, free) => throw (.Other ("hugepages: insufficient 2MiB hugepages on NUMA node " ++
      s!"{node} after compaction/raise attempts: required {pages}, nr_hugepages={nr}, " ++
      s!"free_hugepages={free}. Consider increasing large-page capacity or reducing VM RAM."))
  | attempt :: attempts, _ => do
      let counters ← onHost (files.raisePool node pages.toNat)
      if pages.toNat ≤ counters.2 then
        recordPages node pages (s!"hugepages: provisioned {pages} x 2MiB pages " ++
          s!"({gibText pages} GiB) on NUMA node {node} for VM {rt.name} after {attempt} attempt(s)")
      else attemptRaise rt node pages attempts counters

/-- The part of `provision_for_vm` after the node is selected. -/
def provisionOn (rt : VmRuntime) (node : UInt16) : RecordM σ Unit := do
  let pages := rt.cfg.qemu.requiredPages
  onHost files.ensureHugetlbfsMount
  let counters ← onHost (files.readCounters node)
  if pages.toNat ≤ counters.2 then
    recordPages node pages (s!"hugepages: using existing {pages} x 2MiB pages " ++
      s!"({gibText pages} GiB) on NUMA node {node} for VM {rt.name}")
  else files.attemptRaise rt node pages [1, 2, 3] counters

/-- `provision_for_vm`. -/
def provisionForVm (rt : VmRuntime) : RecordM σ Unit :=
  if rt.cfg.qemu.hugepages then do
    let node ← onHost (files.selectNode rt.cfg)
    files.provisionOn rt node
  else modify fun t => (({}, t.1.2), t.2)

end NodeFiles

/-! ## The host that all VMs share -/

namespace HugepageCalls

variable (os : HugepageCalls V)

/-- An operation, with its effect if it succeeds. -/
def perform (io : HugeIo) : EStateM String (HugeWorld V) Unit := fun w =>
  match os.io io w.rest with
  | .ok _ rest => .ok () (io.effect (os.available w.rest) { w with rest })
  | .error e rest => .error e { w with rest }

/-- An operation whose failure is only logged. -/
def attempt (io : HugeIo) (w : HugeWorld V) : HugeWorld V := (outcome (os.perform io) w).2

/-- An operation on the files of a node, which are there only for the node of the host. -/
def performOn (node : UInt16) (io : HugeIo) : EStateM String (HugeWorld V) Unit := do
  let w ← get
  if node = w.pool.node then os.perform io
  else throw "No such file or directory (os error 2)"

/-! ## The mount -/

/-- The part of `ensure_hugetlbfs_mount` that creates the directory. -/
def ensureMountPath : PoolM V Unit := do
  let w ← get
  if os.mountPathExists w.rest then pure ()
  else
    EStateM.adaptExcept
      (fun e => ChalybsError.Other s!"hugepages: failed to create /dev/hugepages: {e}")
      (os.perform .CreateMountPath)

/-- Whether `/proc/mounts` can be read and shows a mount. -/
def alreadyMounted : PoolM V Bool := fun w =>
  match os.perform .ReadMounts w with
  | .ok _ w => .ok (decide (0 < w.mounts)) w
  | .error _ w => .ok false w

/-- The part of `ensure_hugetlbfs_mount` that mounts.  `EBUSY` is taken for success. -/
def mountHugetlbfs : PoolM V Unit := fun w =>
  if 0 < w.mounts ∧ os.refusesMount w.rest then .ok () w
  else
    match os.perform .Mount w with
    | .ok _ w => .ok () (os.attempt .WriteMarker w)
    | .error e w =>
        .error (.Other s!"hugepages: failed to mount hugetlbfs on /dev/hugepages: {e}") w

/-- `ensure_hugetlbfs_mount`. -/
def ensureHugetlbfsMount : PoolM V Unit := do
  os.ensureMountPath
  let mounted ← os.alreadyMounted
  if mounted then pure () else os.mountHugetlbfs

/-- `cleanup_hugetlbfs_mount`, which only unmounts where the marker is. -/
def cleanupHugetlbfsMount (w : HugeWorld V) : HugeWorld V :=
  if w.marker then os.attempt .RemoveMarker (os.attempt .Umount w) else w

/-! ## The files of the node -/

/-- `read_node_hugepage_counters`. -/
def readNodeHugepageCounters (node : UInt16) : PoolM V (ℕ × ℕ) := do
  let dir := nodeHugepagesDir node
  EStateM.adaptExcept
    (fun e => ChalybsError.Other
      s!"hugepages: failed to read nr_hugepages from {dir}/nr_hugepages: {e}")
    (os.performOn node .ReadNr)
  EStateM.adaptExcept
    (fun e => ChalybsError.Other
      s!"hugepages: failed to read free_hugepages from {dir}/free_hugepages: {e}")
    (os.performOn node .ReadFree)
  let w ← get
  pure (w.pool.total, w.pool.free)

/-- `write_node_nr_hugepages`. -/
def writeNodeNrHugepages (node : UInt16) (pages : ℕ) : PoolM V Unit :=
  EStateM.adaptExcept
    (fun e => ChalybsError.Other ("hugepages: failed to write nr_hugepages for node " ++
      s!"{node} at {nodeHugepagesDir node}/nr_hugepages: {e}"))
    (os.performOn node (.WriteNr pages))

/-- `drop_caches_and_compact`. -/
def dropCachesAndCompact (w : HugeWorld V) : HugeWorld V :=
  os.attempt .CompactMemory (os.attempt .DropCaches w)

/-- The host, as far as provisioning looks at it. -/
def files : NodeFiles (HugeWorld V) where
  selectNode cfg := do
    let w ← get
    fromExcept (selectHugepageNode cfg (os.nodeEntries w.rest))
  ensureHugetlbfsMount := os.ensureHugetlbfsMount
  readCounters := os.readNodeHugepageCounters
  writeNr := os.writeNodeNrHugepages
  dropCachesAndCompact := os.dropCachesAndCompact

/-- `provision_for_vm` on that host. -/
def provisionForVm (rt : VmRuntime) : HugeM V Unit := os.files.provisionForVm rt

/-! ## Teardown -/

/-- The reset of the pool of the recorded node. -/
def resetNode (node : Option UInt16) (w : HugeWorld V) : HugeWorld V :=
  match node with
  | none => w
  | some node => (outcome (os.writeNodeNrHugepages node 0) w).2

/-- `cleanup_for_vm`.  It never fails. -/
def cleanupForVm : HugeM V Unit := fun t =>
  if t.1.1.active then
    let w := os.attempt (.WriteGlobalNr 0) (os.resetNode t.1.1.node t.2)
    .ok () (({}, t.1.2 ++ [⟨.Info, "hugepages: cleanup completed for VM"⟩]),
      os.cleanupHugetlbfsMount (os.dropCachesAndCompact w))
  else .ok () t

end HugepageCalls

/-! ## What they do to the host -/

/-- At least as many pages are free, and at least as many mounts are there. -/
structure HugeWorld.NoLess (w w' : HugeWorld V) : Prop where
  free : w.pool.free ≤ w'.pool.free
  mounts : w.mounts ≤ w'.mounts

/-- The pages are free, and hugetlbfs is mounted. -/
structure HugeWorld.Provides (w : HugeWorld V) (pages : ℕ) : Prop where
  pages_le : pages ≤ w.pool.free
  mounted : 0 < w.mounts

namespace HugeWorld

variable {w w' w'' : HugeWorld V} {pages : ℕ}

lemma NoLess.refl (w : HugeWorld V) : w.NoLess w := ⟨le_rfl, le_rfl⟩

lemma NoLess.trans (h : w.NoLess w') (h' : w'.NoLess w'') : w.NoLess w'' :=
  ⟨h.free.trans h'.free, h.mounts.trans h'.mounts⟩

lemma Provides.noLess (h : w.Provides pages) (h' : w.NoLess w') : w'.Provides pages :=
  ⟨h.pages_le.trans h'.free, h.mounted.trans_le h'.mounts⟩

end HugeWorld

/-- Operations that neither write to the pool nor unmount. -/
def HugeIo.Harmless : HugeIo → Prop
  | .WriteNr _ | .WriteGlobalNr _ | .Umount => False
  | _ => True

section

variable {os : HugepageCalls V} {w₀ w : HugeWorld V} {io : HugeIo} {node : UInt16}

lemma noLess_effect (h : io.Harmless) (available : ℕ) : w.NoLess (io.effect available w) := by
  cases io with
  | WriteNr pages => exact h.elim
  | WriteGlobalNr pages => exact h.elim
  | Umount => exact h.elim
  | Mount => exact ⟨le_rfl, Nat.le_succ _⟩
  | _ => exact ⟨le_rfl, le_rfl⟩

/-- An operation that succeeds has its effect, and one that fails has none. -/
lemma ends_io (io : HugeIo) (w : HugeWorld V) :
    Ends (os.perform io) w
      (fun _ w' => ∃ rest, w' = io.effect (os.available w.rest) { w with rest })
      fun _ w' => ∃ rest, w' = { w with rest } := by
  rw [Ends, HugepageCalls.perform]
  cases os.io io w.rest with
  | ok a rest => exact ⟨rest, rfl⟩
  | error e rest => exact ⟨rest, rfl⟩

/-- An operation keeps what its effect keeps. -/
lemma preserves_io {P : HugeWorld V → Prop} (hrest : ∀ w rest, P w → P { w with rest })
    (heffect : ∀ available w, P w → P (io.effect available w)) :
    Preserves P (os.perform io) := by
  intro w hw
  refine (ends_io io w).mono ?_ ?_
  · rintro - w' ⟨rest, rfl⟩
    exact heffect _ _ (hrest w rest hw)
  · rintro - w' ⟨rest, rfl⟩
    exact hrest w rest hw

lemma preserves_perform_io (io : HugeIo) (h : io.Harmless) : Preserves w₀.NoLess (os.perform io) :=
  preserves_io (fun _ _ hw => ⟨hw.free, hw.mounts⟩) fun _ _ hw => hw.trans (noLess_effect h _)

lemma noLess_attempt (io : HugeIo) (h : io.Harmless) : w.NoLess (os.attempt io w) :=
  (preserves_perform_io io h).outcome_snd (.refl w)

lemma noLess_dropCaches : w.NoLess (os.dropCachesAndCompact w) :=
  (noLess_attempt .DropCaches trivial).trans (noLess_attempt .CompactMemory trivial)

lemma preserves_performOn {P : HugeWorld V → Prop} (h : Preserves P (os.perform io)) :
    Preserves P (os.performOn node io) := by
  refine Preserves.get.bind fun w => ?_
  split_ifs
  · exact h
  · exact Preserves.throw

/-- **Reading the counters** changes nothing, and they are those of the pool. -/
lemma ends_counters (w : HugeWorld V) :
    Ends (os.readNodeHugepageCounters node) w
      (fun counters w' => w.NoLess w' ∧ counters = (w.pool.total, w.pool.free) ∧ w'.pool = w.pool)
      (fun _ w' => w.NoLess w') := by
  let Same : HugeWorld V → Prop := fun w' => w'.pool = w.pool ∧ w'.mounts = w.mounts
  have hless : ∀ {w'}, Same w' → w.NoLess w' := fun h => by
    obtain ⟨hpool, hmounts⟩ := h
    exact ⟨by rw [hpool], hmounts.ge⟩
  have hread : ∀ io : HugeIo, (∀ available (w : HugeWorld V), io.effect available w = w) →
      Preserves Same (os.performOn node io) := fun io hio =>
    preserves_performOn (preserves_io (fun _ _ h => h) fun available w hw => by rwa [hio])
  refine Preserves.ends_bind (hread .ReadNr fun _ _ => rfl).adaptExcept (fun _ _ h => hless h)
    (fun _ w₁ h₁ => ?_) (⟨rfl, rfl⟩ : Same w)
  refine Preserves.ends_bind (hread .ReadFree fun _ _ => rfl).adaptExcept (fun _ _ h => hless h)
    (fun _ w₂ h₂ => ?_) h₁
  exact ⟨hless h₂, by rw [h₂.1], h₂.1⟩

/-- A failure to read `/proc/mounts` is no error. -/
lemma ends_alreadyMounted {Q : Bool → HugeWorld V → Prop}
    {E : ChalybsError → HugeWorld V → Prop} :
    Ends os.alreadyMounted w Q E ↔
      Ends (os.perform .ReadMounts) w (fun _ w' => Q (decide (0 < w'.mounts)) w')
        fun _ w' => Q false w' := by
  unfold Ends HugepageCalls.alreadyMounted
  cases os.perform .ReadMounts w with
  | ok a w' => rfl
  | error e w' => rfl

/-- Mounting where it is not refused, with the marker after it. -/
lemma ends_mountHugetlbfs {Q : Unit → HugeWorld V → Prop}
    {E : ChalybsError → HugeWorld V → Prop} :
    Ends os.mountHugetlbfs w Q E ↔
      if 0 < w.mounts ∧ os.refusesMount w.rest then Q () w
      else
        Ends (os.perform .Mount) w (fun _ w' => Q () (os.attempt .WriteMarker w')) fun e w' =>
          E (.Other s!"hugepages: failed to mount hugetlbfs on /dev/hugepages: {e}") w' := by
  unfold Ends HugepageCalls.mountHugetlbfs
  split_ifs
  · rfl
  · cases os.perform .Mount w with
    | ok a w' => rfl
    | error e w' => rfl

/-- **The mount** is there after it was ensured. -/
lemma ends_ensureMount (w : HugeWorld V) :
    Ends os.ensureHugetlbfsMount w (fun _ w' => w.NoLess w' ∧ 0 < w'.mounts)
      (fun _ w' => w.NoLess w') := by
  have hmount : ∀ w₂, w.NoLess w₂ → Ends os.mountHugetlbfs w₂
      (fun _ w' => w.NoLess w' ∧ 0 < w'.mounts) fun _ w' => w.NoLess w' := by
    intro w₂ h₂
    rw [ends_mountHugetlbfs]
    split_ifs with hbusy
    · exact ⟨h₂, hbusy.1⟩
    · refine (ends_io .Mount w₂).mono ?_ ?_
      · rintro - w' ⟨rest, rfl⟩
        have hmarker := @noLess_attempt V os
          (HugeIo.effect (os.available w₂.rest) { w₂ with rest } .Mount) .WriteMarker trivial
        have hmount : w₂.NoLess (HugeIo.effect (os.available w₂.rest) { w₂ with rest } .Mount) :=
          ⟨le_rfl, Nat.le_succ _⟩
        exact ⟨h₂.trans (hmount.trans hmarker), (Nat.succ_pos _).trans_le hmarker.mounts⟩
      · rintro - w' ⟨rest, rfl⟩
        exact ⟨h₂.free, h₂.mounts⟩
  refine Preserves.ends_bind (P := w.NoLess) ?_ (fun _ _ h => h) (fun _ w₁ h₁ => ?_) (.refl w)
  · refine Preserves.get.bind fun w => ?_
    split_ifs
    · exact fun _ hw => hw
    · exact (preserves_perform_io .CreateMountPath trivial).adaptExcept
  rw [ends_bind, ends_alreadyMounted]
  refine (preserves_perform_io .ReadMounts trivial w₁ h₁).mono (fun _ w₂ h₂ => ?_) fun _ w₂ h₂ => ?_
  · by_cases hmounted : 0 < w₂.mounts
    · rw [decide_eq_true hmounted]
      exact ⟨h₂, hmounted⟩
    · rw [decide_eq_false hmounted]
      exact hmount w₂ h₂
  · exact hmount w₂ h₂

/-- **An attempt to raise the pool** takes nothing from it, and reads how many pages are free. -/
lemma ends_raisePool (pages : ℕ) (w : HugeWorld V) :
    Ends (os.files.raisePool node pages) w
      (fun counters w' => w.NoLess w' ∧ counters.2 = w'.pool.free) fun _ w' => w.NoLess w' := by
  have hread : ∀ w' : HugeWorld V, w.NoLess w' → Ends (os.readNodeHugepageCounters node) w'
      (fun counters w' => w.NoLess w' ∧ counters.2 = w'.pool.free) fun _ w' => w.NoLess w' := by
    intro w' h
    refine (ends_counters w').mono (fun counters w₁ h₁ => ?_) fun _ _ h₁ => h.trans h₁
    obtain ⟨hless, rfl, hpool⟩ := h₁
    exact ⟨h.trans hless, by rw [hpool]⟩
  show Ends (os.readNodeHugepageCounters node >>= _) (os.dropCachesAndCompact w) _ _
  rw [ends_bind]
  refine (ends_counters _).mono (fun before w₁ h₁ => ?_) fun _ _ h₁ => noLess_dropCaches.trans h₁
  obtain ⟨hless, rfl, hpool⟩ := h₁
  have hless₁ : w.NoLess w₁ := noLess_dropCaches.trans hless
  rw [← hpool]
  dsimp only
  split_ifs with hraise
  · -- the pool is raised from what was read
    have hwrite : Preserves (fun w' => w.NoLess w' ∧ w'.pool.total ≤ pages)
        (os.writeNodeNrHugepages node pages) := by
      refine (preserves_performOn (preserves_io (fun _ _ h => ⟨⟨h.1.free, h.1.mounts⟩, h.2⟩)
        ?_)).adaptExcept
      rintro available w' ⟨h, htotal⟩
      refine ⟨⟨h.free.trans (NodePool.free_le_write htotal), h.mounts⟩, ?_⟩
      exact (NodePool.total_write htotal).trans_le (min_le_left _ _)
    exact hwrite.ends_bind (fun _ _ h => h.1) (fun _ w₂ h₂ => hread w₂ h₂.1) ⟨hless₁, hraise.le⟩
  · exact hread w₁ hless₁

/-- The node is selected from the configuration and the entries that are listed. -/
lemma ends_selectNode {cfg : VmConfig} {t : (HugepageRecord × List CoreEvent) × HugeWorld V}
    {Q : UInt16 → (HugepageRecord × List CoreEvent) × HugeWorld V → Prop}
    {E : ChalybsError → (HugepageRecord × List CoreEvent) × HugeWorld V → Prop} :
    Ends (NodeFiles.onHost (os.files.selectNode cfg)) t Q E ↔
      Ends (fromExcept (selectHugepageNode cfg (os.nodeEntries t.2.rest))) t Q E := by
  rw [NodeFiles.onHost, ends_zoom, HugepageCalls.files, ends_bind, ends_get, ends_fromExcept,
    ends_fromExcept]

/-- What provisioning leaves when it returns: a record of pages that are there. -/
def Provisioned (t : (HugepageRecord × List CoreEvent) × HugeWorld V) : Prop :=
  t.1.1.active = true → t.2.Provides t.1.1.pages

lemma ends_attemptRaise {rt : VmRuntime} {pages : UInt64} (attempts : List ℕ) (counters : ℕ × ℕ)
    (t : (HugepageRecord × List CoreEvent) × HugeWorld V) (hmounted : 0 < t.2.mounts) :
    Ends (os.files.attemptRaise rt node pages attempts counters) t
      (fun _ t' => t.2.NoLess t'.2 ∧ Provisioned t') fun _ t' => t.2.NoLess t'.2 := by
  induction attempts generalizing t counters with
  | nil => exact .refl t.2
  | cons attempt attempts ih =>
      rw [NodeFiles.attemptRaise, ends_bind, NodeFiles.onHost, ends_zoom]
      refine (ends_raisePool pages.toNat t.2).mono (fun counters w h => ?_) fun _ w h => h
      obtain ⟨hless, hfree⟩ := h
      have hmounted' : 0 < w.mounts := hmounted.trans_le hless.mounts
      split_ifs with henough
      · exact ⟨hless, fun _ => ⟨hfree ▸ henough, hmounted'⟩⟩
      · refine (ih counters (t.1, w) hmounted').mono (fun _ t' h => ?_) fun _ t' h => ?_
        · exact ⟨hless.trans h.1, h.2⟩
        · exact hless.trans h

/-- **Provisioning** takes nothing from the host, and what it records is there when it returns. -/
theorem ends_provisionForVm (rt : VmRuntime)
    (t : (HugepageRecord × List CoreEvent) × HugeWorld V) :
    Ends (os.provisionForVm rt) t (fun _ t' => t.2.NoLess t'.2 ∧ Provisioned t')
      fun _ t' => t.2.NoLess t'.2 := by
  rw [HugepageCalls.provisionForVm, NodeFiles.provisionForVm]
  split_ifs
  · rw [ends_bind, ends_selectNode, ends_fromExcept]
    cases selectHugepageNode rt.cfg (os.nodeEntries t.2.rest) with
    | error e => exact .refl t.2
    | ok node =>
        show Ends (os.files.provisionOn rt node) t _ _
        rw [NodeFiles.provisionOn, ends_bind, NodeFiles.onHost, ends_zoom]
        refine (ends_ensureMount t.2).mono (fun _ w h => ?_) fun _ _ h => h
        obtain ⟨hless, hmounted⟩ := h
        rw [ends_bind, NodeFiles.onHost, ends_zoom]
        refine (ends_counters w).mono (fun counters w' h => ?_) fun _ _ h => hless.trans h
        obtain ⟨hless', rfl, hpool⟩ := h
        have hmounted' : 0 < w'.mounts := hmounted.trans_le hless'.mounts
        split_ifs with henough
        · refine ⟨hless.trans hless', fun _ => ⟨?_, hmounted'⟩⟩
          show _ ≤ w'.pool.free
          rw [hpool]
          exact henough
        · refine (ends_attemptRaise [1, 2, 3] _ (t.1, w') hmounted').mono (fun _ t' h => ?_)
            fun _ t' h => ?_
          · exact ⟨(hless.trans hless').trans h.1, h.2⟩
          · exact (hless.trans hless').trans h
  · exact ⟨.refl t.2, fun h => by cases h⟩

end

/-! ## A host to provision on -/

/-- A host whose pool has so many pages, all of them free. -/
def hugeHost (total : ℕ) : HugeWorld Unit where
  pool := ⟨0, total, 0, Nat.zero_le _⟩
  mounts := 0
  marker := false
  rest := ()

/-- Every operation succeeds. -/
def obligingCalls : HugepageCalls Unit where
  io _ := pure ()
  available _ := 1024
  mountPathExists _ := true
  refusesMount _ := false
  nodeEntries _ := .ok []
  leavesChild _ _ := false

end Chalybs
