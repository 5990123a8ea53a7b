import Chalybs.Hugepages.Sharing

/-!
# The recorded hugepages

The runtime records the hugepages of a VM in four fields.  `provision_for_vm` sets all of them at
once or none, `cleanup_for_vm` clears them, and only if they are active; nothing else writes them.

* `HugepageRecord.Consistent` — the fields of hugepages that are not active are empty.
* `VmStateMachine.HugeSettled` — so are those of a machine that has been through Shutdown.
* `ends_provisionForVm_record` — what provisioning records.
* `HugeSettled.tick` — what a tick makes of a settled machine is settled.
-/

namespace Chalybs

open Foundation

variable {V W : Type}

/-- Hugepages that are not active have no node, no pages and no bytes. -/
def HugepageRecord.Consistent (record : HugepageRecord) : Prop :=
  record.active = false → record = {}

/-- The record is consistent, and empty once the machine has left Shutdown. -/
structure VmStateMachine.HugeSettled (sm : VmStateMachine) : Prop where
  consistent : sm.rt.hugepages.Consistent
  cleared : VmState.Shutdown.rank < sm.state.rank → sm.rt.hugepages = {}

/-! ## The calls -/

section

variable {h : Host W} {c : Callee} {record : HugepageRecord}

lemma store_hugepages (hprovision : c ≠ .ProvisionHugepages) (hcleanup : c ≠ .CleanupHugepages)
    (rt : VmRuntime) (part : c.Owned) : (c.store rt part).hugepages = rt.hugepages := by
  cases c <;> first | rfl | contradiction

/-- The other calls leave the record alone, whatever the host. -/
lemma preserves_hugepages {R : HugepageRecord → Prop} (hprovision : c ≠ .ProvisionHugepages)
    (hcleanup : c ≠ .CleanupHugepages) :
    Preserves (OnRuntime fun rt (_ : W) => R rt.hugepages) (h.invoke c) := by
  intro t ht
  have hkept : ∀ part : c.Owned, R (c.store t.1.rt part).hugepages := by
    intro part
    rw [store_hugepages hprovision hcleanup]
    exact ht
  rw [ends_invoke]
  exact ends_of_forall (fun _ _ => hkept _) fun _ _ => hkept _

lemma framed_hugepages (R : HugepageRecord → Prop) :
    Framed fun rt (_ : W) => R rt.hugepages where
  push _ _ _ _ h := h
  pinnedThreads _ _ h := h
  pinnedIrqs _ _ h := h
  cpuPlan _ _ _ h := h

end

section

variable {h : Host V} {os : HugepageCalls V} {c : Callee}

/-- The part of the record in a computation of provisioning. -/
def OnRecord (R : HugepageRecord → Prop) (t : (HugepageRecord × List CoreEvent) × HugeWorld V) :
    Prop := R t.1.1

lemma onRecord_onHost {α : Type} {R : HugepageRecord → Prop} {x : PoolM V α} :
    Preserves (OnRecord R) (NodeFiles.onHost x) := by
  intro t ht
  rw [NodeFiles.onHost, ends_zoom]
  exact ends_of_forall (fun _ _ => ht) fun _ _ => ht

/-- What is recorded is active. -/
lemma preserves_recordPages {node : UInt16} {pages : UInt64} {message : String} :
    Preserves (OnRecord (V := V) HugepageRecord.Consistent)
      (NodeFiles.recordPages node pages message) :=
  Preserves.modify fun _ _ hinactive => by cases hinactive

lemma preserves_attemptRaise {rt : VmRuntime} {node : UInt16} {pages : UInt64}
    (attempts : List ℕ) (counters : ℕ × ℕ) :
    Preserves (OnRecord HugepageRecord.Consistent)
      (os.files.attemptRaise rt node pages attempts counters) := by
  induction attempts generalizing counters with
  | nil => exact Preserves.throw
  | cons attempt attempts ih =>
      refine onRecord_onHost.bind fun counters' => ?_
      split_ifs
      · exact preserves_recordPages
      · exact ih counters'

/-- **Provisioning** keeps the record consistent, also when it fails. -/
lemma preserves_provisionForVm (rt : VmRuntime) :
    Preserves (OnRecord HugepageRecord.Consistent) (os.provisionForVm rt) := by
  rw [HugepageCalls.provisionForVm, NodeFiles.provisionForVm]
  split_ifs
  · refine onRecord_onHost.bind fun node => ?_
    refine onRecord_onHost.bind fun _ => onRecord_onHost.bind fun counters => ?_
    split_ifs
    · exact preserves_recordPages
    · exact preserves_attemptRaise _ _
  · exact Preserves.modify fun _ _ _ => rfl

/-- What provisioning on a node records. -/
def QemuConfig.recordOn (q : QemuConfig) (node : UInt16) : HugepageRecord :=
  ⟨some node, q.requiredPages.toNat, (q.requiredPages * (2 * 1024 * 1024)).toNat, true⟩

lemma ends_attemptRaise_record {rt : VmRuntime} {node : UInt16} (attempts : List ℕ)
    (counters : ℕ × ℕ) (t : (HugepageRecord × List CoreEvent) × HugeWorld V) :
    Ends (os.files.attemptRaise rt node rt.cfg.qemu.requiredPages attempts counters) t
      (fun _ t' => t'.1.1 = rt.cfg.qemu.recordOn node) fun _ t' => t'.1.1 = t.1.1 := by
  induction attempts generalizing t counters with
  | nil => rfl
  | cons attempt attempts ih =>
      rw [NodeFiles.attemptRaise, ends_bind, NodeFiles.onHost]
      refine ends_zoom.mpr (ends_of_forall (fun counters' w => ?_) fun _ _ => rfl)
      split_ifs
      · rfl
      · exact ih counters' (t.1, w)

/-- **What provisioning records**: the pages on the node that it selects if it returns, and nothing
new if it fails. -/
theorem ends_provisionForVm_record (rt : VmRuntime)
    (t : (HugepageRecord × List CoreEvent) × HugeWorld V) :
    Ends (os.provisionForVm rt) t
      (fun _ t' => if rt.cfg.qemu.hugepages then
          ∃ node, selectHugepageNode rt.cfg (os.nodeEntries t.2.rest) = .ok node ∧
            t'.1.1 = rt.cfg.qemu.recordOn node
        else t'.1.1 = {})
      fun _ t' => t'.1.1 = t.1.1 := by
  rw [HugepageCalls.provisionForVm, NodeFiles.provisionForVm]
  split_ifs
  · rw [ends_bind, ends_selectNode, ends_fromExcept]
    cases hnode : selectHugepageNode rt.cfg (os.nodeEntries t.2.rest) with
    | error e => rfl
    | ok node =>
        have hrecord : Ends (os.files.provisionOn rt node) t
            (fun _ t' => t'.1.1 = rt.cfg.qemu.recordOn node) fun _ t' => t'.1.1 = t.1.1 := by
          rw [NodeFiles.provisionOn, ends_bind, NodeFiles.onHost]
          refine ends_zoom.mpr (ends_of_forall (fun _ w => ?_) fun _ _ => rfl)
          rw [ends_bind, NodeFiles.onHost]
          refine ends_zoom.mpr (ends_of_forall (fun counters w' => ?_) fun _ _ => rfl)
          split_ifs
          · rfl
          · exact ends_attemptRaise_record _ _ (t.1, w')
        exact hrecord.mono (fun _ t' h => ⟨node, rfl, h⟩) fun _ _ h => h
  · rfl

/-- **Teardown** of a consistent record leaves it empty. -/
lemma ends_cleanupForVm {t : (HugepageRecord × List CoreEvent) × HugeWorld V}
    (ht : t.1.1.Consistent) :
    Ends os.cleanupForVm t (fun _ t' => t'.1.1 = {}) fun _ _ => False := by
  cases hactive : t.1.1.active with
  | true => simp [Ends, HugepageCalls.cleanupForVm, hactive]
  | false => simp [Ends, HugepageCalls.cleanupForVm, ht hactive]

/-- Every call keeps the record consistent. -/
lemma preserves_consistent :
    Preserves (OnRuntime fun rt (_ : HugeWorld V) => rt.hugepages.Consistent)
      ((h.withHuge os).invoke c) := by
  by_cases hprovision : c = .ProvisionHugepages
  · subst hprovision
    intro t ht
    rw [ends_invoke]
    exact preserves_provisionForVm t.1.rt ((t.1.rt.hugepages, []), t.2) ht
  · by_cases hcleanup : c = .CleanupHugepages
    · subst hcleanup
      intro t ht
      rw [ends_invoke]
      have hends : Ends os.cleanupForVm ((t.1.rt.hugepages, []), t.2) _ _ := ends_cleanupForVm ht
      exact hends.mono (fun _ u hu _ => hu) fun _ _ hfalse => hfalse.elim
    · exact preserves_hugepages hprovision hcleanup

/-! ## The operations -/

/-- What stays of the record in the Shutdown step. -/
lemma ends_tearDown_cleared {t : VmStateMachine × HugeWorld V}
    (ht : t.1.rt.hugepages.Consistent) :
    Ends ((h.withHuge os).tearDown .Shutdown) t (fun _ t' => t'.1.rt.hugepages = {})
      fun _ _ => True := by
  have hlog : ∀ (R : HugepageRecord → Prop) m,
      Preserves (OnRuntime fun rt (_ : HugeWorld V) => R rt.hugepages) (pushInfo m) ∧
        Preserves (OnRuntime fun rt (_ : HugeWorld V) => R rt.hugepages) (pushSystem m) :=
    fun R m => ⟨preserves_modifyRt fun _ _ h => h, preserves_modifyRt fun _ _ h => h⟩
  let consistent := hlog HugepageRecord.Consistent
  let cleared := hlog (· = {})
  rw [Host.tearDown]
  refine (consistent _).2.ends_bind (fun _ _ _ => trivial) (fun _ t₁ h₁ => ?_) ht
  refine preserves_consistent.ends_bind (fun _ _ _ => trivial) (fun _ t₂ h₂ => ?_) h₁
  refine (consistent _).1.ends_bind (fun _ _ _ => trivial) (fun _ t₃ h₃ => ?_) h₂
  refine (consistent _).2.ends_bind (fun _ _ _ => trivial) (fun _ t₄ h₄ => ?_) h₃
  refine preserves_consistent.ends_bind (fun _ _ _ => trivial) (fun _ t₅ h₅ => ?_) h₄
  refine (consistent _).1.ends_bind (fun _ _ _ => trivial) (fun _ t₆ h₆ => ?_) h₅
  rw [ends_bind, ends_invoke]
  have hends : Ends os.cleanupForVm ((t₆.1.rt.hugepages, []), t₆.2) _ _ := ends_cleanupForVm h₆
  refine hends.mono (fun _ u hu => ?_) fun _ _ _ => trivial
  refine (cleared _).1.ends_bind (fun _ _ _ => trivial) (fun _ t₇ h₇ => ?_) hu
  refine (preserves_hugepages (R := (· = {})) (by decide) (by decide)).ends_bind
    (fun _ _ _ => trivial) (fun _ t₈ h₈ => ?_) h₇
  exact (cleared _).1.ends_bind (fun _ _ _ => trivial) (fun _ t₉ h₉ => h₉) h₈

/-- **An operation** leaves a settled machine settled. -/
lemma HugeSettled.perform {op : Op} {t : VmStateMachine × HugeWorld V} (ht : t.1.HugeSettled) :
    (advance t (op, h.withHuge os)).1.HugeSettled := by
  have hconsistent : (advance t (op, h.withHuge os)).1.rt.hugepages.Consistent :=
    (framed_hugepages HugepageRecord.Consistent).perform (s := t)
      (fun _ _ => preserves_consistent) ht.consistent
  refine ⟨hconsistent, fun hafter => ?_⟩
  have hlaw := observe_lawful t (op, h.withHuge os)
  by_cases hpath : VmState.Shutdown.rank < t.1.state.rank
  · refine (framed_hugepages (· = {})).perform (s := t) (fun c hc => ?_) (ht.cleared hpath)
    rw [work_of_shutdown_lt hpath] at hc
    exact absurd hc List.not_mem_nil
  · have hleft : (observe t (op, h.withHuge os)).after ≠ t.1.state := by
      intro hstays
      rw [← hstays] at hpath
      exact hpath hafter
    have hnext := hlaw.moves.resolve_left hleft
    obtain ⟨hop, hstate⟩ := shutdown_of_next hnext hpath hafter
    obtain rfl : op = .StepShutdown := hop
    have hshutdown : t.1.state = .Shutdown := hstate
    have hends : Ends ((h.withHuge os).perform .StepShutdown) t
        (fun _ t' => t'.1.rt.hugepages = {}) fun _ _ => True := by
      rw [ends_perform]
      simp only [hshutdown]
      exact ends_tearDown_cleared ht.consistent
    have houtcome := hends.outcome
    split_ifs at houtcome with hok
    · exact houtcome
    · exact absurd (hlaw.stays (by simpa [observe] using hok)) hleft

/-- **A tick** leaves a settled VM settled. -/
theorem HugeSettled.tick {env : TickEnv V} {vm : DaemonVm} {w : HugeWorld V}
    (hvm : vm.sm.HugeSettled) : (vm.advance (env.withHuge os) w).1.sm.HugeSettled := by
  obtain ⟨qemu, desired, hpoll⟩ := exists_pollQemu (fun q => (env.withHuge os).tryWait q w) vm
  have hpolled : (vm.pollQemu fun q => (env.withHuge os).tryWait q w).sm.HugeSettled := by
    rw [hpoll]
    exact ⟨hvm.consistent, hvm.cleared⟩
  rcases advance_performs (env.withHuge os) vm w with ⟨-, hsm, -⟩ | ⟨op, -, hstate, -, hrt⟩
  · rw [hsm]
    exact hpolled
  · have hnext : (Chalybs.advance ((vm.pollQemu fun q => (env.withHuge os).tryWait q w).sm, w)
        (op, (env.withHuge os).host)).1.HugeSettled := HugeSettled.perform hpolled
    have hrecord : (vm.advance (env.withHuge os) w).1.sm.rt.hugepages =
        (Chalybs.advance ((vm.pollQemu fun q => (env.withHuge os).tryWait q w).sm, w)
          (op, (env.withHuge os).host)).1.rt.hugepages := by
      rcases hrt with heq | ⟨m, heq⟩
      · rw [heq]
      · rw [heq]
        rfl
    constructor
    · rw [hrecord]
      exact hnext.consistent
    · rw [hrecord, hstate]
      exact hnext.cleared

end

end Chalybs
