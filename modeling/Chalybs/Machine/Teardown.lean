import Chalybs.Foundation.Run
import Chalybs.Hugepages.Pool
import Chalybs.Machine.Frame
import Chalybs.Vfio.RoundTrip

/-!
# Teardown under retry

The Shutdown step restores the PCI bindings, tears the hugepages down and runs the peripheral
hooks.  When a hook fails the state machine stays in Shutdown, and the next tick does all of it
again.  Each part has its own guard against doing it twice: Linux refuses to bind a bound function,
and the hugepages are torn down only while they are recorded as active.

* `Host.withTeardown` — the host on which the parts of the step have their effects.
* `restored_idem`, `cleaned_idem` — the guards.
* `ends_shutdown` — what one Shutdown step leaves, whether it fails or not.
* `teardown_retries` — any number of failed attempts makes no difference.
-/

namespace Chalybs

open Foundation

variable {P V : Type}

/-! ## The host -/

/-- The drivers of the PCI functions, the hugepages, and what else the hooks see.  `P` is what the
hugepages depend on besides one pool, such as the pools of other nodes. -/
abbrev TeardownWorld (P V : Type) := Bindings × HugeWorld P × V

/-- The host on which the parts of the Shutdown step act: the restore under the rule of Linux, the
cpuset teardown, which does nothing, and the hugepages.  The hooks and the other callees are those
of `h`, and leave the drivers and the hugepages alone. -/
def Host.withTeardown (h : Host V) (entries : List PciEntry) (os : HugepageCalls P) :
    Host (TeardownWorld P V) where
  call
    | .RestorePci, rt =>
        zoom (fun t => t.2.1) (fun s t => (t.1, s, t.2.2))
          (restorePciDevicesForVm (linuxSysfs entries) rt)
    | .CleanupCpus, _ => pure ()
    | .CleanupHugepages, _ =>
        zoom (fun t => (t.1, t.2.2.1)) (fun u t => (u.1, t.2.1, u.2, t.2.2.2)) os.cleanupForVm
    | c, rt =>
        zoom (fun t => (t.1, t.2.2.2)) (fun u t => (u.1, t.2.1, t.2.2.1, u.2)) (h.call c rt)
  detectCpuIdentity w := h.detectCpuIdentity w.2.2
  numaTopology w := h.numaTopology w.2.2

/-! ## The guards -/

section

variable {entries : List PciEntry} {os : HugepageCalls P}

/-- The drivers after a restore of the transitions. -/
def restored (entries : List PciEntry) (ts : List VfioTransition) (s : Bindings) : Bindings :=
  (restoreGroup (linuxSysfs entries).toDriverFiles .Live
    (restoreItems (linuxInventory entries s) ts) s).2

/-- **A second restore changes nothing**: every function that the first one had to bind is bound. -/
lemma restored_idem {ts : List VfioTransition} {s : Bindings} :
    restored entries ts (restored entries ts s) = restored entries ts s := by
  refine restoreGroup_eq_self ?_
  rintro ⟨t, f⟩ hitem hrestorable
  obtain ⟨ht, hf⟩ := mem_restoreItems.mp hitem
  have hbdf : f.bdf = t.bdf := (mem_of_findByBdf hf).2
  obtain ⟨entry, hentry, haddr⟩ := exists_entry_of_findByBdf hf
  have hbefore := findByBdf_rebound s hf
  by_cases hnone : s t.bdf = none
  · have hitem' : (t, { f with driver := s t.bdf }) ∈ restoreItems (linuxInventory entries s) ts :=
      mem_restoreItems.mpr ⟨ht, hbefore⟩
    have hbound := restoreGroup_binds (s := s) hitem' hrestorable hnone
      ⟨entry, hentry, haddr.trans hbdf.symm⟩
    exact hbound
  · have hkept : restored entries ts s t.bdf = s t.bdf := restoreGroup_of_bound hnone
    rw [hbdf, hkept]
    exact hnone

/-- The record and the hugepages after a teardown. -/
def cleaned (os : HugepageCalls P) (record : HugepageRecord) (w : HugeWorld P) :
    HugepageRecord × HugeWorld P :=
  let r := (outcome os.cleanupForVm ((record, []), w)).2
  (r.1.1, r.2)

/-- **A second teardown changes nothing**: the hugepages are not active any more. -/
lemma cleaned_idem {record : HugepageRecord} {w : HugeWorld P} :
    cleaned os (cleaned os record w).1 (cleaned os record w).2 = cleaned os record w := by
  cases hactive : record.active with
  | false =>
      have hsame : cleaned os record w = (record, w) := by
        simp [cleaned, outcome, HugepageCalls.cleanupForVm, hactive]
      rw [hsame, hsame]
  | true =>
      have hcleared : (cleaned os record w).1 = {} := by
        simp [cleaned, outcome, HugepageCalls.cleanupForVm, hactive]
      rw [hcleared]
      refine Prod.ext ?_ rfl
      rw [hcleared]
      rfl

end

/-! ## One attempt -/

/-- A machine and its host. -/
abbrev TeardownState (P V : Type) := VmStateMachine × TeardownWorld P V

/-- `t'` is what the teardown makes of `t`, as far as drivers and hugepages go. -/
structure TornDown (entries : List PciEntry) (os : HugepageCalls P) (t t' : TeardownState P V) :
    Prop where
  bindings : t'.2.1 = restored entries t.1.rt.vfioTransitions t.2.1
  huge : (t'.1.rt.hugepages, t'.2.2.1) = cleaned os t.1.rt.hugepages t.2.2.1
  transitions : t'.1.rt.vfioTransitions = t.1.rt.vfioTransitions

section

variable {entries : List PciEntry} {os : HugepageCalls P} {h : Host V}
  {t t₁ t₂ : TeardownState P V}

section

variable {Q : Unit → TeardownState P V → Prop} {E : ChalybsError → TeardownState P V → Prop}

/-- The restore of the bindings never fails. -/
lemma ends_restorePci :
    Ends ((h.withTeardown entries os).invoke .RestorePci) t Q E ↔
      Q () (t.1, restored entries t.1.rt.vfioTransitions t.2.1, t.2.2) := by
  have hrestored : (restoreImpl (linuxSysfs entries) t.1.rt .Live t.2.1).2 =
      restored entries t.1.rt.vfioTransitions t.2.1 := restore_linux
  rw [ends_invoke, ← hrestored]
  exact Iff.rfl

/-- The teardown of the cpusets does nothing. -/
lemma ends_cleanupCpus :
    Ends ((h.withTeardown entries os).invoke .CleanupCpus) t Q E ↔ Q () t := by
  rw [ends_invoke]
  exact Iff.rfl

/-- The teardown of the hugepages never fails. -/
lemma ends_cleanupHugepages (hQ : ∀ events, Q () (⟨t.1.state, { t.1.rt with
      hugepages := (cleaned os t.1.rt.hugepages t.2.2.1).1, events }⟩, t.2.1,
        (cleaned os t.1.rt.hugepages t.2.2.1).2, t.2.2.2)) :
    Ends ((h.withTeardown entries os).invoke .CleanupHugepages) t Q E := by
  have hrun : os.cleanupForVm ((t.1.rt.hugepages, []), t.2.2.1) =
      .ok () (outcome os.cleanupForVm ((t.1.rt.hugepages, []), t.2.2.1)).2 := by
    cases hactive : t.1.rt.hugepages.active with
    | true => simp [outcome, HugepageCalls.cleanupForVm, hactive]
    | false => simp [outcome, HugepageCalls.cleanupForVm, hactive]
  rw [ends_invoke]
  refine ends_zoom.mpr ?_
  have hends : Ends os.cleanupForVm ((t.1.rt.hugepages, []), t.2.2.1)
      (fun _ u => Q () (⟨t.1.state, { t.1.rt with
        hugepages := u.1.1, events := t.1.rt.events ++ u.1.2 }⟩, t.2.1, u.2, t.2.2.2))
      (fun e u => E e (⟨t.1.state, { t.1.rt with
        hugepages := u.1.1, events := t.1.rt.events ++ u.1.2 }⟩, t.2.1, u.2, t.2.2.2)) := by
    rw [Ends, hrun]
    exact hQ _
  exact hends

/-- The hooks leave drivers, hugepages and transitions alone. -/
lemma ends_downHooks
    (hQ : ∀ powered events v, Q () (⟨t.1.state, { t.1.rt with
      tasmotaPowered := powered, events }⟩, t.2.1, t.2.2.1, v))
    (hE : ∀ e powered events v, E e (⟨t.1.state, { t.1.rt with
      tasmotaPowered := powered, events }⟩, t.2.1, t.2.2.1, v)) :
    Ends ((h.withTeardown entries os).invoke .ApplyVmDown) t Q E := by
  rw [ends_invoke]
  refine ends_zoom.mpr ?_
  rw [Ends]
  split
  · exact hQ _ _ _
  · exact hE _ _ _ _

end

/-- Entries of the log do not matter. -/
lemma ends_log {R Q : TeardownState P V → Prop} {E : ChalybsError → TeardownState P V → Prop}
    {m : String} {y : MachineM (TeardownWorld P V) Unit}
    (hR : ∀ t', R t' → ∀ events, R (⟨t'.1.state, { t'.1.rt with events }⟩, t'.2))
    (hy : ∀ t', R t' → Ends y t' (fun _ => Q) E) (ht : R t) :
    Ends (pushInfo m >>= fun _ => y) t (fun _ => Q) E ∧
      Ends (pushSystem m >>= fun _ => y) t (fun _ => Q) E := by
  rw [ends_bind, ends_bind, ends_pushInfo, ends_pushSystem]
  exact ⟨hy _ (hR t ht _), hy _ (hR t ht _)⟩

/-- The machine is still in Shutdown, the bindings are restored, and nothing else has happened. -/
structure BindingsRestored (entries : List PciEntry) (t t' : TeardownState P V) : Prop where
  bindings : t'.2.1 = restored entries t.1.rt.vfioTransitions t.2.1
  hugepages : t'.1.rt.hugepages = t.1.rt.hugepages
  huge : t'.2.2.1 = t.2.2.1
  transitions : t'.1.rt.vfioTransitions = t.1.rt.vfioTransitions
  state : t'.1.state = .Shutdown

/-- The machine is still in Shutdown, and the teardown is done except for the hooks. -/
def HooksLeft (entries : List PciEntry) (os : HugepageCalls P) (t t' : TeardownState P V) : Prop :=
  TornDown entries os t t' ∧ t'.1.state = .Shutdown

lemma BindingsRestored.log {t' : TeardownState P V} (h : BindingsRestored entries t t')
    (events : List CoreEvent) :
    BindingsRestored entries t (⟨t'.1.state, { t'.1.rt with events }⟩, t'.2) :=
  ⟨h.bindings, h.hugepages, h.huge, h.transitions, h.state⟩

lemma HooksLeft.log {t' : TeardownState P V} (h : HooksLeft entries os t t')
    (events : List CoreEvent) :
    HooksLeft entries os t (⟨t'.1.state, { t'.1.rt with events }⟩, t'.2) :=
  ⟨⟨h.1.bindings, h.1.huge, h.1.transitions⟩, h.2⟩

lemma preserves_downHooks :
    Preserves (HooksLeft entries os t) ((h.withTeardown entries os).invoke .ApplyVmDown) := by
  rintro t' ⟨⟨hbindings, hhuge, htransitions⟩, hstate⟩
  exact ends_downHooks (fun _ _ _ => ⟨⟨hbindings, hhuge, htransitions⟩, hstate⟩)
    fun _ _ _ _ => ⟨⟨hbindings, hhuge, htransitions⟩, hstate⟩

/-- The teardown of the hugepages leaves only the hooks. -/
lemma BindingsRestored.ends_cleanupHugepages {E : ChalybsError → TeardownState P V → Prop}
    (h₁ : BindingsRestored entries t t₁) :
    Ends ((h.withTeardown entries os).invoke .CleanupHugepages) t₁
      (fun _ => HooksLeft entries os t) E := by
  refine Chalybs.ends_cleanupHugepages fun events => ⟨⟨h₁.bindings, ?_, h₁.transitions⟩, h₁.state⟩
  rw [h₁.hugepages, h₁.huge]

/-- **One attempt.**  It tears down the same whether the hooks fail or not, and if they do, the
machine stays in Shutdown. -/
lemma ends_shutdown (hstate : t.1.state = .Shutdown) :
    Ends (h.withTeardown entries os).stepShutdown t (fun _ => TornDown entries os t)
      fun _ => HooksLeft entries os t := by
  show Ends ((h.withTeardown entries os).perform .StepShutdown) t _ _
  rw [ends_perform]
  simp only [hstate]
  rw [Host.tearDown, ends_bind, ends_pushSystem, ends_bind, ends_restorePci]
  have hrestored : BindingsRestored entries t
      (⟨t.1.state, t.1.rt.pushSystem "state=RestorePci (restore PCI driver bindings)"⟩,
        restored entries t.1.rt.vfioTransitions t.2.1, t.2.2) :=
    ⟨rfl, rfl, rfl, rfl, hstate⟩
  -- up to the teardown of the hugepages
  refine (ends_log (fun _ ht => ht.log) (fun t₁ h₁ => ?_) hrestored).1
  refine (ends_log (fun _ ht => ht.log) (fun t₂ h₂ => ?_) h₁).2
  rw [ends_bind, ends_cleanupCpus]
  refine (ends_log (fun _ ht => ht.log) (fun t₃ h₃ => ?_) h₂).1
  rw [ends_bind]
  refine h₃.ends_cleanupHugepages.mono (fun _ t₄ h₄ => ?_) fun _ _ he => he
  -- the hooks, which may fail
  refine (ends_log (fun _ ht => ht.log) (fun t₅ h₅ => ?_) h₄).1
  refine preserves_downHooks.ends_bind (fun _ _ he => he) (fun _ t₆ h₆ => ?_) h₅
  refine (ends_log (fun _ ht => ht.log) (fun t₇ h₇ => ?_) h₆).1
  exact ⟨h₇.1.bindings, h₇.1.huge, h₇.1.transitions⟩

/-- A teardown after a teardown leaves what the first one left. -/
lemma TornDown.again (h₁ : TornDown entries os t t₁) (h₂ : TornDown entries os t₁ t₂) :
    TornDown entries os t t₂ where
  bindings := by
    rw [h₂.bindings, h₁.bindings, h₁.transitions, restored_idem]
  huge := by
    have hrecord : t₁.1.rt.hugepages = (cleaned os t.1.rt.hugepages t.2.2.1).1 :=
      congrArg Prod.fst h₁.huge
    have hworld : t₁.2.2.1 = (cleaned os t.1.rt.hugepages t.2.2.1).2 := congrArg Prod.snd h₁.huge
    rw [h₂.huge, hrecord, hworld, cleaned_idem]
  transitions := h₂.transitions.trans h₁.transitions

end

/-! ## Any number of attempts -/

/-- A Shutdown step on the host `h`, and the state it leaves. -/
def attempt (entries : List PciEntry) (os : HugepageCalls P) (t : TeardownState P V)
    (h : Host V) : TeardownState P V :=
  (outcome (h.withTeardown entries os).stepShutdown t).2

/-- The Shutdown step on the host `h` stops with an error. -/
def AttemptFails (entries : List PciEntry) (os : HugepageCalls P) (t : TeardownState P V)
    (h : Host V) : Prop :=
  (outcome (h.withTeardown entries os).stepShutdown t).1 = false

instance (entries : List PciEntry) (os : HugepageCalls P) (t : TeardownState P V) (h : Host V) :
    Decidable (AttemptFails entries os t h) := inferInstanceAs (Decidable (_ = _))

section

variable {entries : List PciEntry} {os : HugepageCalls P} {t : TeardownState P V}

/-- An attempt tears down, and one that fails leaves the machine in Shutdown. -/
lemma tornDown_attempt (h : Host V) (hstate : t.1.state = .Shutdown) :
    TornDown entries os t (attempt entries os t h) ∧
      (AttemptFails entries os t h → (attempt entries os t h).1.state = .Shutdown) := by
  have hends := (@ends_shutdown P V entries os h t hstate).outcome
  rw [attempt, AttemptFails]
  split_ifs at hends with hok
  · exact ⟨hends, fun hfail => by simp [hok] at hfail⟩
  · exact ⟨hends.1, fun _ => hends.2⟩

/-- **Failed attempts** leave the machine in Shutdown, and the next one leaves what it would have
left without them. -/
lemma tornDown_after_attempts (hstate : t.1.state = .Shutdown) {hs : List (Host V)}
    (hfails : Along (attempt entries os) (AttemptFails entries os) t hs) :
    (run (attempt entries os) t hs).1.state = .Shutdown ∧
      ∀ h, TornDown entries os t (attempt entries os (run (attempt entries os) t hs) h) := by
  induction hs using List.reverseRecOn with
  | nil => exact ⟨hstate, fun h => (tornDown_attempt h hstate).1⟩
  | append_singleton hs last ih =>
      obtain ⟨hbefore, hfail⟩ := along_snoc.mp hfails
      obtain ⟨hshutdown, htorn⟩ := ih hbefore
      rw [run_snoc]
      have hstate' := (tornDown_attempt last hshutdown).2 hfail
      exact ⟨hstate', fun h => (htorn last).again (tornDown_attempt h hstate').1⟩

end

/-- **Retrying a teardown makes no difference.**  From any runtime in Shutdown, let any number of
Shutdown steps fail in their hooks before the last one, which may succeed.  The drivers of all
functions, the hugepages of the host, its hugetlbfs mounts and the hugepage fields of the runtime
are then as after a single step on any host. -/
theorem teardown_retries (entries : List PciEntry) (os : HugepageCalls P) (t : TeardownState P V)
    (fails : List (Host V)) (last once : Host V) (hstate : t.1.state = .Shutdown)
    (hfails : Along (attempt entries os) (AttemptFails entries os) t fails) :
    let retried := attempt entries os (run (attempt entries os) t fails) last
    let single := attempt entries os t once
    retried.2.1 = single.2.1 ∧ retried.2.2.1 = single.2.2.1 ∧
      retried.1.rt.hugepages = single.1.rt.hugepages := by
  have hretried := (tornDown_after_attempts hstate hfails).2 last
  have hsingle : TornDown entries os t (attempt entries os t once) :=
    (tornDown_attempt once hstate).1
  have hhuge := hretried.huge.trans hsingle.huge.symm
  exact ⟨hretried.bindings.trans hsingle.bindings.symm, congrArg Prod.snd hhuge,
    congrArg Prod.fst hhuge⟩

/-! ## Two failed attempts -/

/-- A host on which nothing fails but perhaps the hooks. -/
def hookHost (works : Bool) : Host Unit where
  call
    | .ApplyVmDown, _ =>
        if works then pure ()
        else throw (.Peripheral "DDC: failed to open /dev/i2c-3: Permission denied (os error 13)")
    | _, _ => pure ()
  detectCpuIdentity _ := none
  numaTopology _ := .ok ⟨[]⟩

/-- A VM in Shutdown that has staged a function and holds hugepages. -/
def heldState : TeardownState Unit Unit :=
  (⟨.Shutdown, { storageRuntime with
    vfioTransitions := [storageTransition]
    hugepages := ⟨some 0, 4, 8388608, true⟩ }⟩, stagedBindings, hugeHost 4, ())

theorem teardown_retries_held :
    let retried := attempt storageHost obligingCalls (run (attempt storageHost obligingCalls)
      heldState [hookHost false, hookHost false]) (hookHost true)
    let single := attempt storageHost obligingCalls heldState (hookHost true)
    retried.2.1 = single.2.1 ∧ retried.2.2.1 = single.2.2.1 ∧
      retried.1.rt.hugepages = single.1.rt.hugepages :=
  teardown_retries storageHost obligingCalls heldState [hookHost false, hookHost false]
    (hookHost true) (hookHost true) rfl (by decide +kernel)

end Chalybs
