import Chalybs.Hugepages.Sharing

/-!
# Provisioning on a node of limited capacity

A node cannot have more huge pages than its memory holds.  `provision_for_vm` compares the size of
the pool with what the VM requires, and raises it to no more than that; whether it succeeds is
decided by the pages that are free.

* `CappedNode`, `cappedFiles` — a node of limited capacity, where every read and write succeeds.
* `provides_iff` — **when provisioning succeeds** on a node that has room for the pages.
-/

namespace Chalybs

open Foundation

/-! ## A node of limited capacity -/

/-- The pages of a node that has room for so many. -/
structure CappedNode where
  /-- `nr_hugepages`. -/
  total : ℕ
  inUse : ℕ
  capacity : ℕ
  inUse_le_total : inUse ≤ total
  inUse_le_capacity : inUse ≤ capacity

namespace CappedNode

/-- `free_hugepages`. -/
def free (c : CappedNode) : ℕ := c.total - c.inUse

/-- A write to `nr_hugepages`. -/
def write (c : CappedNode) (n : ℕ) : CappedNode :=
  { c with
    total := min (max n c.inUse) c.capacity
    inUse_le_total := le_min (le_max_right _ _) c.inUse_le_capacity }

/-- The node after an attempt to have so many pages. -/
def raisedTo (c : CappedNode) (pages : ℕ) : CappedNode :=
  if c.total < pages then c.write pages else c

variable {c : CappedNode} {pages : ℕ}

/-- Another attempt changes nothing more. -/
lemma raisedTo_raisedTo : (c.raisedTo pages).raisedTo pages = c.raisedTo pages := by
  by_cases hraise : c.total < pages
  · have hwrite : c.raisedTo pages = c.write pages := if_pos hraise
    rw [hwrite, raisedTo]
    split_ifs
    · rfl
    · rfl
  · have hkeep : c.raisedTo pages = c := if_neg hraise
    rw [hkeep, hkeep]

/-- Raising the pool gets the pages only where nobody else has pages. -/
lemma le_free_raisedTo (hfits : c.inUse + pages ≤ c.capacity) :
    pages ≤ (c.raisedTo pages).free ↔ pages ≤ c.free ∨ c.inUse = 0 := by
  have hle := c.inUse_le_total
  rw [raisedTo]
  split_ifs with hraise
  · show pages ≤ min (max pages c.inUse) c.capacity - c.inUse ↔ pages ≤ c.total - c.inUse ∨ _
    omega
  · show pages ≤ c.total - c.inUse ↔ pages ≤ c.total - c.inUse ∨ _
    omega

end CappedNode

/-- A host with such a node, where every read and write succeeds. -/
def cappedFiles (entries : Except String (List (String × Option String))) :
    NodeFiles CappedNode where
  selectNode cfg := fromExcept (selectHugepageNode cfg entries)
  ensureHugetlbfsMount := pure ()
  readCounters _ := do
    let c ← get
    pure (c.total, c.free)
  writeNr _ pages := modify fun c => c.write pages
  dropCachesAndCompact c := c

/-- Provisioning succeeds, and the pages are free. -/
def Provides (entries : Except String (List (String × Option String))) (rt : VmRuntime)
    (t : (HugepageRecord × List CoreEvent) × CappedNode) : Prop :=
  Ends ((cappedFiles entries).provisionForVm rt) t
    (fun _ u => rt.cfg.qemu.requiredPages.toNat ≤ u.2.free) fun _ _ => False

section

variable {entries : Except String (List (String × Option String))} {rt : VmRuntime}
  {node : UInt16} {pages : UInt64}

/-- An attempt always ends, with the counters of the node. -/
lemma raisePool_capped (pages : ℕ) (c : CappedNode) :
    (cappedFiles entries).raisePool node pages c =
      .ok ((c.raisedTo pages).total, (c.raisedTo pages).free) (c.raisedTo pages) := by
  refine bind_eq_ok.mpr ⟨(), c, rfl, bind_eq_ok.mpr ⟨(c.total, c.free), c, rfl, ?_⟩⟩
  rw [CappedNode.raisedTo]
  dsimp only
  split_ifs
  · rfl
  · rfl

lemma ends_attemptRaise_capped (attempts : List ℕ) (counters : ℕ × ℕ)
    (t : (HugepageRecord × List CoreEvent) × CappedNode) :
    Ends ((cappedFiles entries).attemptRaise rt node pages attempts counters) t
      (fun _ u => pages.toNat ≤ u.2.free ∧ pages.toNat ≤ (t.2.raisedTo pages.toNat).free)
      fun _ _ => attempts = [] ∨ ¬pages.toNat ≤ (t.2.raisedTo pages.toNat).free := by
  induction attempts generalizing t counters with
  | nil => exact .inl rfl
  | cons attempt attempts ih =>
      rw [NodeFiles.attemptRaise, ends_bind, NodeFiles.onHost]
      refine ends_zoom.mpr (ends_of_ok (raisePool_capped pages.toNat t.2) ?_)
      split_ifs with henough
      · exact ⟨henough, henough⟩
      · let counters' := ((t.2.raisedTo pages.toNat).total, (t.2.raisedTo pages.toNat).free)
        have hrest := ih counters' (t.1, t.2.raisedTo pages.toNat)
        rw [CappedNode.raisedTo_raisedTo] at hrest
        exact hrest.mono (fun _ _ h => h) fun _ _ _ => .inr henough

lemma ends_provisionForVm_capped (henabled : rt.cfg.qemu.hugepages = true)
    (hnode : selectHugepageNode rt.cfg entries = .ok node)
    (t : (HugepageRecord × List CoreEvent) × CappedNode) :
    let pages := rt.cfg.qemu.requiredPages.toNat
    Ends ((cappedFiles entries).provisionForVm rt) t
      (fun _ u => pages ≤ u.2.free ∧ (pages ≤ t.2.free ∨ pages ≤ (t.2.raisedTo pages).free))
      fun _ _ => ¬(pages ≤ t.2.free ∨ pages ≤ (t.2.raisedTo pages).free) := by
  intro pages
  have hselect : (cappedFiles entries).selectNode rt.cfg t.2 = .ok node t.2 :=
    fromExcept_eq_ok.mpr ⟨hnode, rfl⟩
  have hmount : (cappedFiles entries).ensureHugetlbfsMount t.2 = .ok () t.2 := rfl
  have hread : (cappedFiles entries).readCounters node t.2 = .ok (t.2.total, t.2.free) t.2 := rfl
  rw [NodeFiles.provisionForVm, if_pos henabled, ends_bind, NodeFiles.onHost]
  refine ends_zoom.mpr (ends_of_ok hselect ?_)
  rw [NodeFiles.provisionOn, ends_bind, NodeFiles.onHost]
  refine ends_zoom.mpr (ends_of_ok hmount ?_)
  rw [ends_bind, NodeFiles.onHost]
  refine ends_zoom.mpr (ends_of_ok hread ?_)
  split_ifs with henough
  · exact ⟨henough, .inl henough⟩
  · refine (ends_attemptRaise_capped [1, 2, 3] _ t).mono (fun _ u h => ?_) fun _ _ h => ?_
    · exact ⟨h.1, .inr h.2⟩
    · rw [not_or]
      exact ⟨henough, h.resolve_left (List.cons_ne_nil _ _)⟩

/-- **Provisioning succeeds** on a node that has room for the pages exactly if nobody else has pages
of it, or the pages are free from the start. -/
theorem provides_iff (henabled : rt.cfg.qemu.hugepages = true)
    (hnode : selectHugepageNode rt.cfg entries = .ok node)
    (t : (HugepageRecord × List CoreEvent) × CappedNode)
    (hfits : t.2.inUse + rt.cfg.qemu.requiredPages.toNat ≤ t.2.capacity) :
    Provides entries rt t ↔
      t.2.inUse = 0 ∨ t.2.inUse + rt.cfg.qemu.requiredPages.toNat ≤ t.2.total := by
  have hrun := ends_provisionForVm_capped henabled hnode t
  have hcondition : t.2.inUse = 0 ∨ t.2.inUse + rt.cfg.qemu.requiredPages.toNat ≤ t.2.total ↔
      rt.cfg.qemu.requiredPages.toNat ≤ t.2.free ∨
        rt.cfg.qemu.requiredPages.toNat ≤ (t.2.raisedTo rt.cfg.qemu.requiredPages.toNat).free := by
    have hle := t.2.inUse_le_total
    rw [CappedNode.le_free_raisedTo hfits, CappedNode.free]
    omega
  rw [hcondition]
  unfold Provides
  unfold Ends at hrun ⊢
  cases hx : (cappedFiles entries).provisionForVm rt t with
  | ok a u =>
      simp only [hx] at hrun ⊢
      exact iff_of_true hrun.1 hrun.2
  | error e u =>
      simp only [hx] at hrun ⊢
      exact iff_of_false id hrun

/-! ## Nodes with room for two more pages -/

/-- The runtime of a VM that needs two pages of node 0. -/
def roomyVm : VmRuntime := .new "a" hugeVm ⟨⟨[]⟩, ⟨[]⟩⟩

/-- Four pages, two of them in use. -/
def halfInUse : CappedNode := ⟨4, 2, 4, by decide, by decide⟩

theorem provides_halfInUse : Provides (.ok []) roomyVm (({}, []), halfInUse) :=
  (provides_iff rfl rfl (({}, []), halfInUse) (by decide +kernel)).mpr (.inr (by decide +kernel))

lemma not_provides_of_fails {t : (HugepageRecord × List CoreEvent) × CappedNode}
    (h : (outcome ((cappedFiles entries).provisionForVm rt) t).1 = false) :
    ¬Provides entries rt t := by
  intro hprovides
  have houtcome := Ends.outcome hprovides
  rw [h] at houtcome
  exact houtcome

/-- One page that is in use, and room for two more. -/
def oneInUse : CappedNode := ⟨1, 1, 3, le_rfl, by decide⟩

/-- The pool is raised to two pages, of which one is free, and not further. -/
theorem not_provides_oneInUse :
    oneInUse.inUse + roomyVm.cfg.qemu.requiredPages.toNat ≤ oneInUse.capacity ∧
      ¬Provides (.ok []) roomyVm (({}, []), oneInUse) := by
  constructor
  · decide +kernel
  · apply not_provides_of_fails
    decide +kernel

end

end Chalybs
