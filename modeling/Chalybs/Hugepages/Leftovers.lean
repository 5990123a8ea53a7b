import Chalybs.Hugepages.Answers

/-!
# What provisioning leaves behind

Provisioning mounts hugetlbfs and raises the pool before it records anything, and `cleanup_for_vm`
looks at the record: where provisioning fails after it has touched the host, nobody undoes it.

* `LeavesNothing` — what is left of a run of `provision_for_vm` after the teardown of the VM.
* `HugepageCalls.CleansUp` — provisioning leaves nothing behind, and records nothing if it fails.
* `cleansUp_iff` — **when it does**: where it gets its pages, if it touches the host at all, and the
  marker is there, if it mounts.
-/

namespace Chalybs

open Foundation

variable {V : Type}

/-- The writes of teardown succeed. -/
structure HugepageCalls.TearsDown (os : HugepageCalls V) : Prop where
  resetsNode : ∀ v, (outcome (os.io (.WriteNr 0)) v).1 = true
  resetsGlobal : ∀ v, (outcome (os.io (.WriteGlobalNr 0)) v).1 = true
  unmounts : ∀ v, (outcome (os.io .Umount) v).1 = true

/-- A run of provisioning from `t` to `t'` leaves nothing behind: the pool that it has raised and
the mount that it has made are gone after `cleanup_for_vm`, whatever has become of the pages of the
host in the meantime, if the writes of teardown succeed. -/
def LeavesNothing (t t' : (HugepageRecord × List CoreEvent) × HugeWorld V) : Prop :=
  ∀ (os : HugepageCalls V) (w : HugeWorld V), os.TearsDown → w.pool.node = t'.2.pool.node →
    w.mounts = t'.2.mounts → w.marker = t'.2.marker →
    Ends os.cleanupForVm (t'.1, w)
      (fun _ u =>
        (t.2.pool.total < t'.2.pool.total ∨ t.2.mounts < t'.2.mounts →
          u.2.pool = w.pool.write 0 0) ∧
        (t.2.mounts < t'.2.mounts → u.2.mounts = t.2.mounts))
      fun _ _ => False

/-- Whatever the outcome, provisioning leaves nothing behind, and it records nothing if it fails. -/
def HugepageCalls.CleansUp (os : HugepageCalls V) (rt : VmRuntime)
    (t : (HugepageRecord × List CoreEvent) × HugeWorld V) : Prop :=
  Ends (os.provisionForVm rt) t (fun _ t' => LeavesNothing t t')
    fun _ t' => LeavesNothing t t' ∧ t'.1.1 = t.1.1

section

variable {os : HugepageCalls V} {w : HugeWorld V} {io : HugeIo}

/-! ## Teardown -/

/-- An operation that always succeeds has its effect. -/
lemma attempt_of_succeeds (h : ∀ v, (outcome (os.io io) v).1 = true) (w : HugeWorld V) :
    ∃ rest available, os.attempt io w = io.effect available { w with rest } := by
  have hio := h w.rest
  rw [HugepageCalls.attempt, outcome, HugepageCalls.perform]
  rw [outcome] at hio
  cases hx : os.io io w.rest with
  | ok a rest => exact ⟨rest, os.available w.rest, rfl⟩
  | error e rest =>
      rw [hx] at hio
      cases hio

/-- Dropping caches changes nothing that is told from the rest of the host. -/
lemma same_dropCaches (w : HugeWorld V) :
    (os.dropCachesAndCompact w).pool = w.pool ∧ (os.dropCachesAndCompact w).mounts = w.mounts ∧
      (os.dropCachesAndCompact w).marker = w.marker := by
  let Same : HugeWorld V → Prop := fun w' =>
    w'.pool = w.pool ∧ w'.mounts = w.mounts ∧ w'.marker = w.marker
  have hattempt : ∀ io : HugeIo, (∀ available (w : HugeWorld V), io.effect available w = w) →
      ∀ w', Same w' → Same (os.attempt io w') := by
    intro io hio w' hw'
    refine Preserves.outcome_snd (preserves_io (fun _ _ h => h) fun available w h => ?_) hw'
    rwa [hio]
  exact hattempt .CompactMemory (fun _ _ => rfl) _
    (hattempt .DropCaches (fun _ _ => rfl) w ⟨rfl, rfl, rfl⟩)

lemma resetNode_frame (node : Option UInt16) (w : HugeWorld V) :
    (os.resetNode node w).pool.write 0 0 = w.pool.write 0 0 ∧
      (os.resetNode node w).mounts = w.mounts ∧ (os.resetNode node w).marker = w.marker := by
  cases node with
  | none => exact ⟨rfl, rfl, rfl⟩
  | some node =>
      let Kept : HugeWorld V → Prop := fun w' =>
        w'.pool.write 0 0 = w.pool.write 0 0 ∧ w'.mounts = w.mounts ∧ w'.marker = w.marker
      have hwrite : Preserves Kept (os.writeNodeNrHugepages node 0) :=
        (preserves_performOn (preserves_io (fun _ _ h => h) fun available w' h =>
          ⟨NodePool.write_write_zero.trans h.1, h.2⟩)).adaptExcept
      exact hwrite.outcome_snd ⟨rfl, rfl, rfl⟩

/-- The mount goes where the marker is. -/
lemma cleanupMount_frame (hos : os.TearsDown) (w : HugeWorld V) :
    (os.cleanupHugetlbfsMount w).pool = w.pool ∧
      (os.cleanupHugetlbfsMount w).mounts = if w.marker then w.mounts - 1 else w.mounts := by
  rw [HugepageCalls.cleanupHugetlbfsMount]
  split_ifs
  · obtain ⟨rest, available, hunmounted⟩ := attempt_of_succeeds hos.unmounts w
    rw [hunmounted]
    let Unmounted : HugeWorld V → Prop := fun w' =>
      w'.pool = w.pool ∧ w'.mounts = w.mounts - 1
    have hremove : Preserves Unmounted (os.perform .RemoveMarker) :=
      preserves_io (fun _ _ h => h) fun _ _ h => h
    exact hremove.outcome_snd ⟨rfl, rfl⟩
  · exact ⟨rfl, rfl⟩

/-- **Teardown** with an active record resets the pool, and unmounts where the marker is. -/
lemma ends_cleanupForVm_active (hos : os.TearsDown)
    {t : (HugepageRecord × List CoreEvent) × HugeWorld V} (hactive : t.1.1.active = true) :
    Ends os.cleanupForVm t
      (fun _ u => u.2.pool = t.2.pool.write 0 0 ∧
        u.2.mounts = if t.2.marker then t.2.mounts - 1 else t.2.mounts)
      fun _ _ => False := by
  obtain ⟨hnode, hmounts, hmarker⟩ := @resetNode_frame V os t.1.1.node t.2
  obtain ⟨rest, available, hreset⟩ :=
    attempt_of_succeeds hos.resetsGlobal (os.resetNode t.1.1.node t.2)
  obtain ⟨hpool', hmounts', hmarker'⟩ := @same_dropCaches V os
    (os.attempt (.WriteGlobalNr 0) (os.resetNode t.1.1.node t.2))
  obtain ⟨hpool'', hmounts''⟩ := cleanupMount_frame hos (os.dropCachesAndCompact
    (os.attempt (.WriteGlobalNr 0) (os.resetNode t.1.1.node t.2)))
  simp only [Ends, HugepageCalls.cleanupForVm, hactive, if_true]
  rw [hpool'', hpool', hmounts'', hmounts', hmarker', hreset]
  refine ⟨NodePool.write_zero.trans hnode, ?_⟩
  show (if (os.resetNode t.1.1.node t.2).marker then _ - 1 else _) = _
  rw [hmarker, ← hmounts]
  rfl

end

/-- Every operation succeeds. -/
def willingCalls (V : Type) : HugepageCalls V where
  io _ := pure ()
  available _ := 0
  mountPathExists _ := true
  refusesMount _ := false
  nodeEntries _ := .ok []
  leavesChild _ _ := false

lemma tearsDown_willing : (willingCalls V).TearsDown := ⟨fun _ => rfl, fun _ => rfl, fun _ => rfl⟩

/-- **Nothing is left** of a host that was touched exactly where the record is active, so that
teardown acts, and the marker is there, so that it unmounts what was mounted. -/
lemma leavesNothing_iff {t t' : (HugepageRecord × List CoreEvent) × HugeWorld V}
    (hmounts : t'.2.mounts ≤ t.2.mounts + 1) :
    LeavesNothing t t' ↔
      (t.2.pool.total < t'.2.pool.total ∨ t.2.mounts < t'.2.mounts →
        t'.1.1.active = true ∧ (t.2.mounts < t'.2.mounts → t'.2.marker = true)) := by
  constructor
  · intro h htouched
    have hwilling := h (willingCalls V)
    have hactive : t'.1.1.active = true := by
      by_contra hinactive
      -- a page that is free at teardown stays in the pool
      have hends := hwilling { t'.2 with pool := ⟨t'.2.pool.node, 1, 0, Nat.zero_le _⟩ }
        tearsDown_willing rfl rfl rfl
      simp only [Ends, HugepageCalls.cleanupForVm, hinactive] at hends
      exact absurd (congrArg NodePool.total (hends.1 htouched)) one_ne_zero
    refine ⟨hactive, fun hmounted => ?_⟩
    by_contra hmarker
    have hleft := hwilling t'.2 tearsDown_willing rfl rfl rfl
    have hteardown := @ends_cleanupForVm_active V (willingCalls V) tearsDown_willing t' hactive
    unfold Ends at hleft hteardown
    cases hx : (willingCalls V).cleanupForVm t' with
    | ok a u =>
        simp only [hx] at hleft hteardown
        rw [hteardown.2, if_neg hmarker] at hleft
        exact hmounted.ne' (hleft.2 hmounted)
    | error e u =>
        simp only [hx] at hteardown
  · intro h os w hos hnode hsame hmarker
    by_cases htouched : t.2.pool.total < t'.2.pool.total ∨ t.2.mounts < t'.2.mounts
    · obtain ⟨hactive, hmarked⟩ := h htouched
      refine (ends_cleanupForVm_active hos (t := (t'.1, w)) hactive).mono (fun _ u hu => ?_)
        fun _ _ hfalse => hfalse
      refine ⟨fun _ => hu.1, fun hmounted => ?_⟩
      rw [hu.2, hmarker, hmarked hmounted, hsame]
      simp only [if_true]
      omega
    · refine ends_of_eq (fun _ u _ => ⟨fun h => absurd h htouched, fun h => ?_⟩)
        fun e u herror => ?_
      · exact absurd (.inr h) htouched
      · rw [HugepageCalls.cleanupForVm] at herror
        split_ifs at herror

/-! ## Provisioning and teardown -/

/-- Where provisioning touches the host, the VM has an active record when it ends, and if it mounts,
the marker is there. -/
def HugepageCalls.Recoverable (os : HugepageCalls V) (rt : VmRuntime)
    (t : (HugepageRecord × List CoreEvent) × HugeWorld V) : Prop :=
  (os.answers rt t).Touched →
    (t.1.1.active = true ∨ os.Obtained rt t) ∧
      ((os.answers rt t).Did .Mount → t.2.marker = true ∨ (os.answers rt t).Did .WriteMarker)

/-- **Provisioning leaves nothing behind** exactly if it does not touch the host, or gets its pages
(or there was an active record before), and has the marker of the mount that it makes. -/
theorem cleansUp_iff (os : HugepageCalls V) (rt : VmRuntime)
    (t : (HugepageRecord × List CoreEvent) × HugeWorld V) :
    os.CleansUp rt t ↔ os.Recoverable rt t := by
  have hrun := ends_provisionForVm_answers os rt t
  unfold HugepageCalls.CleansUp HugepageCalls.Recoverable
  unfold Ends at hrun ⊢
  cases hx : os.provisionForVm rt t with
  | ok a t' =>
      simp only [hx] at hrun ⊢
      obtain ⟨htells, hreturned⟩ := hrun
      rw [leavesNothing_iff htells.mounts_le, htells.mounts_lt, htells.total_lt, htells.marker]
      refine forall_congr' fun htouched => and_congr_left' ?_
      obtain ⟨hactive, hobtained⟩ := hreturned htouched
      exact iff_of_true hactive (.inr hobtained)
  | error e t' =>
      simp only [hx] at hrun ⊢
      obtain ⟨htells, hrecord, hfailed⟩ := hrun
      rw [leavesNothing_iff htells.mounts_le, htells.mounts_lt, htells.total_lt, htells.marker,
        hrecord, and_iff_left rfl]
      exact forall_congr' fun _ => and_congr_left' (or_iff_left hfailed).symm

/-! ## A pool with pages in use -/

/-- Provisioning ends with a mount that it has made, and with no active record. -/
def Strands (os : HugepageCalls V) (rt : VmRuntime)
    (t : (HugepageRecord × List CoreEvent) × HugeWorld V) : Prop :=
  let u := (outcome (os.provisionForVm rt) t).2
  u.1.1.active = false ∧ u.2.mounts = t.2.mounts + 1

lemma Strands.not_cleansUp {os : HugepageCalls V} {rt : VmRuntime}
    {t : (HugepageRecord × List CoreEvent) × HugeWorld V} (h : Strands os rt t) :
    ¬os.CleansUp rt t := by
  intro hcleans
  obtain ⟨hinactive, hmounts⟩ := h
  have hends : Ends (os.provisionForVm rt) t (fun _ => LeavesNothing t) fun _ => LeavesNothing t :=
    Ends.mono hcleans (fun _ _ h => h) fun _ _ h => h.1
  have hnothing : LeavesNothing t (outcome (os.provisionForVm rt) t).2 := hends.outcome_snd
  have hactive := ((leavesNothing_iff hmounts.le).mp hnothing (.inr (by omega))).1
  rw [hinactive] at hactive
  cases hactive

/-- A host with one page of the pool in use. -/
def pageInUse : HugeWorld Unit := { hugeHost 1 with pool := (hugeHost 1).pool.take 1 }

/-- The runtime of a VM that needs two pages. -/
def twoPageVm : VmRuntime := .new "a" hugeVm ⟨⟨[]⟩, ⟨[]⟩⟩

/-- The pool is raised from one page to the two pages of the VM, of which one is free.  Provisioning
fails after three attempts; the pool and the mount stay as they are at teardown. -/
theorem leftovers_pageInUse : ¬obligingCalls.CleansUp twoPageVm (({}, []), pageInUse) := by
  apply Strands.not_cleansUp
  unfold Strands
  decide +kernel

/-- A host where each compaction of the memory makes room for one more page. -/
def fragmentedCalls : HugepageCalls ℕ where
  io
    | .CompactMemory => modify (· + 1)
    | .WriteNr _ => set 0
    | _ => pure ()
  available v := v
  mountPathExists _ := true
  refusesMount _ := false
  nodeEntries _ := .ok []
  leavesChild _ _ := false

/-- Two attempts get one page each. -/
example : (outcome (fragmentedCalls.provisionForVm twoPageVm)
      (({}, []), { hugeHost 0 with rest := 0 })).2.1.2.map CoreEvent.message =
    ["hugepages: provisioned 2 x 2MiB pages (0.0 GiB) on NUMA node 0 for VM a " ++
      "after 2 attempt(s)"] := by
  decide +kernel

end Chalybs
