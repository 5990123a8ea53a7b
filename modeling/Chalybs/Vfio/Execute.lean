import Chalybs.Core.Model
import Chalybs.Pci.Kernels
import Chalybs.Vfio.Plan

/-!
# Executing a plan

`vfio/execute.rs` carries a plan out one action at a time and stops at the first error.  The
transition that lets teardown restore a function is recorded just before the function is bound to
vfio-pci, not when it is unbound.

* `executePlan` — the loop; its state is the list of transitions and the kernel.
* `writeAction` — the write an action makes, as the inventory determines it.
* `executePlan_failing` — where a write fails, in closed form: the writes before it have taken
  effect, and the binds up to it are recorded.
* `changes_recorded_iff` — when every function that was changed is recorded.
-/

namespace Chalybs

open Foundation

section

variable {σ : Type}

/-- A computation on the kernel, seen as one on the transitions and the kernel. -/
def onKernel {α : Type} (x : EStateM ChalybsError σ α) :
    EStateM ChalybsError (List VfioTransition × σ) α :=
  zoom Prod.snd (fun s t => (t.1, s)) x

/-- One action of `execute_plan`. -/
def executeAction (k : DriverFiles σ) (inv : PciInventory) (action : VfioAction) :
    EStateM ChalybsError (List VfioTransition × σ) Unit :=
  match inv.findByBdf action.bdf with
  | none => throw (.Vfio s!"VFIO plan references unknown PCI device {action.bdf}")
  | some func =>
      match action.kind with
      | .UnbindFromCurrentDriver => onKernel (func.unbindCurrentDriver k)
      | .BindToVfio => do
          if func.driver ≠ some "vfio-pci" then
            modify fun t => (t.1 ++ [{
              bdf := action.bdf
              fromDriver := func.driver
              iommuGroup := func.iommuGroup }], t.2)
          onKernel (func.bindToVfioPci k)

def executeActions (k : DriverFiles σ) (inv : PciInventory) :
    List VfioAction → EStateM ChalybsError (List VfioTransition × σ) Unit
  | [] => pure ()
  | action :: actions => do
      executeAction k inv action
      executeActions k inv actions

/-- `execute_plan`. -/
def executePlan (k : DriverFiles σ) (plan : VfioPlan) (inv : PciInventory) :
    EStateM ChalybsError (List VfioTransition × σ) Unit :=
  executeActions k inv plan.actions

end

/-! ## What one action does -/

/-- The file an action writes to, if it writes at all. -/
def writeOf (inv : PciInventory) (action : VfioAction) : Option DriverFile :=
  (inv.findByBdf action.bdf).bind fun func =>
    match action.kind with
    | .UnbindFromCurrentDriver =>
        func.driver.bind fun driver => if driver = "vfio-pci" then none else some (.Unbind driver)
    | .BindToVfio => if func.driver = some "vfio-pci" then none else some (.Bind "vfio-pci")

/-- The transition an action records, if it records one. -/
def recordOf (inv : PciInventory) (action : VfioAction) : Option VfioTransition :=
  (inv.findByBdf action.bdf).bind fun func =>
    match action.kind with
    | .UnbindFromCurrentDriver => none
    | .BindToVfio =>
        if func.driver = some "vfio-pci" then none
        else some {
          bdf := action.bdf
          fromDriver := func.driver
          iommuGroup := func.iommuGroup }

variable {inv : PciInventory} {action : VfioAction} {func : PciFunction}

/-- **One action.**  It writes to the file that the inventory determines, after it has recorded
what there is to record; a failed write leaves the record in place. -/
lemma outcome_executeAction {σ : Type} (k : DriverFiles σ)
    (hf : inv.findByBdf action.bdf = some func) (ts : List VfioTransition) (s : σ) :
    outcome (executeAction k inv action) (ts, s) =
      match writeOf inv action with
      | none => (true, ts, s)
      | some file =>
          ((k.effect file action.bdf s).1, ts ++ (recordOf inv action).toList,
            (k.effect file action.bdf s).2) := by
  have hbdf : func.bdf = action.bdf := (mem_of_findByBdf hf).2
  cases hk : action.kind with
  | UnbindFromCurrentDriver =>
      simp only [executeAction, writeOf, recordOf, hf, hk, Option.bind_some, onKernel,
        outcome_zoom, PciFunction.unbindCurrentDriver, Option.toList_none, List.append_nil]
      cases func.driver with
      | none => rfl
      | some driver =>
          by_cases hvfio : driver = "vfio-pci"
          · simp only [hvfio, Option.bind_some, if_true]
            rfl
          · simp only [hvfio, Option.bind_some, if_false, outcome_echoBdf, hbdf]
  | BindToVfio =>
      by_cases hvfio : func.driver = some "vfio-pci"
      · simp only [executeAction, writeOf, hf, hk, Option.bind_some, hvfio, onKernel,
          PciFunction.bindToVfioPci, ne_eq, not_true_eq_false, if_false, if_true]
        rfl
      · simp only [executeAction, writeOf, recordOf, hf, hk, Option.bind_some, hvfio, ne_eq,
          not_false_eq_true, if_true, if_false]
        rw [outcome_seq]
        simp only [onKernel, outcome_zoom, PciFunction.bindToVfioPci, hvfio, if_false, hbdf,
          outcome_echoBdf]
        rfl

/-! ## Where a write fails -/

/-- The actions that write. -/
def writing (inv : PciInventory) (actions : List VfioAction) : List VfioAction :=
  actions.filter fun action => (writeOf inv action).isSome

/-- The bindings after an action has written. -/
def applyWrite (inv : PciInventory) (bindings : Bindings) (action : VfioAction) : Bindings :=
  match writeOf inv action with
  | some file => Function.update bindings action.bdf file.result
  | none => bindings

/-- The bindings after the actions have written one after the other. -/
def applyWrites (inv : PciInventory) (bindings : Bindings) (actions : List VfioAction) : Bindings :=
  actions.foldl (applyWrite inv) bindings

/-- Every action of the list is about a function of the inventory. -/
def Known (inv : PciInventory) (actions : List VfioAction) : Prop :=
  ∀ action ∈ actions, ∃ func, inv.findByBdf action.bdf = some func

/-- The actions of a plan are about configured functions. -/
lemma configured_of_action {vmName : String} {cfg : VmConfig} {plan : VfioPlan}
    (h : buildPlanForVm vmName cfg inv = .ok plan) {action : VfioAction}
    (haction : action ∈ plan.actions) :
    ∃ dev ∈ cfg.configured, ∃ f, inv.findByBdf dev.pciAddress = some f ∧ f.bdf = action.bdf := by
  obtain ⟨-, rfl⟩ := buildPlanForVm_eq_ok.mp h
  have hstaged : ∃ s ∈ stagedFunctions cfg inv, action.bdf = s.2.bdf := by
    simp only [actionsOf, List.mem_append, List.mem_filterMap, List.mem_map] at haction
    rcases haction with ⟨s, hs, hact⟩ | ⟨s, hs, rfl⟩
    · exact ⟨s, hs, (unbindAction?_eq_some hact).1⟩
    · exact ⟨s, hs, rfl⟩
  obtain ⟨⟨label, f⟩, hs, hbdf⟩ := hstaged
  obtain ⟨dev, hdev, hf⟩ := exists_staged_iff.mp ⟨label, hs⟩
  exact ⟨dev, hdev, f, hf, hbdf.symm⟩

lemma known_of_buildPlanForVm {vmName : String} {cfg : VmConfig} {plan : VfioPlan}
    (h : buildPlanForVm vmName cfg inv = .ok plan) : Known inv plan.actions := by
  intro action haction
  obtain ⟨dev, -, f, hf, hbdf⟩ := configured_of_action h haction
  exact ⟨f, hbdf ▸ findByBdf_bdf hf⟩

/-- **Where a write fails.**  On the kernel whose write number `n` fails, the writes before it
have taken effect, and the transitions recorded are those of the writing actions up to and
including the failing one. -/
theorem executeActions_failing {actions : List VfioAction} (hknown : Known inv actions)
    (ts : List VfioTransition) (b : Bindings) (n : ℕ) :
    (outcome (executeActions failingDriverFiles inv actions) (ts, b, n)).2 =
      (ts ++ ((writing inv actions).take (n + 1)).filterMap (recordOf inv),
        applyWrites inv b ((writing inv actions).take n), n - (writing inv actions).length) := by
  induction actions generalizing ts b n with
  | nil => simp [executeActions, writing, applyWrites, outcome, pure, EStateM.pure]
  | cons action actions ih =>
      obtain ⟨func, hf⟩ := hknown action List.mem_cons_self
      have ih := ih fun a ha => hknown a (List.mem_cons_of_mem _ ha)
      rw [executeActions, outcome_seq, outcome_executeAction failingDriverFiles hf]
      cases hw : writeOf inv action with
      | none =>
          have hskip : writing inv (action :: actions) = writing inv actions := by
            simp [writing, hw]
          simp only [if_true, hskip, ih]
      | some file =>
          have hcons : writing inv (action :: actions) = action :: writing inv actions := by
            simp [writing, hw]
          have hrecord : ∀ as : List VfioAction, (action :: as).filterMap (recordOf inv) =
              (recordOf inv action).toList ++ as.filterMap (recordOf inv) := by
            intro as
            rw [List.filterMap_cons]
            cases recordOf inv action with
            | none => rfl
            | some t => rfl
          cases n with
          | zero =>
              simp [hcons, hrecord, DriverFiles.effect, failingDriverFiles, outcome, applyWrites]
          | succ n =>
              have heffect : failingDriverFiles.effect file action.bdf (b, n + 1) =
                  (true, Function.update b action.bdf file.result, n) := rfl
              simp only [heffect, if_true, ih, hcons, hrecord, List.take_succ_cons, applyWrites,
                applyWrite, List.foldl_cons, hw, List.append_assoc, List.length_cons]
              simp

/-! ## What the record covers -/

/-- The bindings that the inventory reports. -/
def PciInventory.bindings (inv : PciInventory) : Bindings := fun bdf =>
  (inv.findByBdf bdf).bind PciFunction.driver

/-- Some transition of the list restores the driver that the function has in the inventory. -/
def Recorded (ts : List VfioTransition) (f : PciFunction) : Prop :=
  ∃ t ∈ ts, t.bdf = f.bdf ∧ t.fromDriver = f.driver

lemma recordOf_eq_some {t : VfioTransition} (hf : inv.findByBdf action.bdf = some func)
    (h : recordOf inv action = some t) :
    action.kind = .BindToVfio ∧ t.bdf = func.bdf ∧ t.fromDriver = func.driver := by
  have hbdf : func.bdf = action.bdf := (mem_of_findByBdf hf).2
  rw [recordOf, hf, Option.bind_some] at h
  cases hk : action.kind with
  | UnbindFromCurrentDriver => simp [hk] at h
  | BindToVfio =>
      by_cases hvfio : func.driver = some "vfio-pci"
      · simp [hk, hvfio] at h
      · simp only [hk, hvfio, if_false] at h
        obtain rfl := Option.some.inj h
        exact ⟨rfl, hbdf.symm, rfl⟩

/-- The actions of the list record a function exactly when one of them binds it. -/
lemma recorded_filterMap {actions : List VfioAction} {f : PciFunction}
    (hf : inv.findByBdf f.bdf = some f) (hwrites : ∀ a ∈ actions, (writeOf inv a).isSome) :
    Recorded (actions.filterMap (recordOf inv)) f ↔
      ∃ a ∈ actions, a.kind = .BindToVfio ∧ a.bdf = f.bdf := by
  constructor
  · rintro ⟨t, ht, hbdf, -⟩
    obtain ⟨a, ha, hrec⟩ := List.mem_filterMap.mp ht
    cases hfind : inv.findByBdf a.bdf with
    | none => simp [recordOf, hfind] at hrec
    | some g =>
        obtain ⟨hkind, htg, -⟩ := recordOf_eq_some hfind hrec
        exact ⟨a, ha, hkind, by rw [← hbdf, htg, (mem_of_findByBdf hfind).2]⟩
  · rintro ⟨a, ha, hkind, hbdf⟩
    have hfind : inv.findByBdf a.bdf = some f := by rw [hbdf, hf]
    have hne : f.driver ≠ some "vfio-pci" := by
      intro hvfio
      have := hwrites a ha
      simp [writeOf, hfind, hkind, hvfio] at this
    have hrec : recordOf inv a = some {
        bdf := a.bdf
        fromDriver := f.driver
        iommuGroup := f.iommuGroup } := by
      simp [recordOf, hfind, hkind, hne]
    exact ⟨_, List.mem_filterMap.mpr ⟨a, ha, hrec⟩, hbdf, rfl⟩

/-- Writes leave every function alone that they do not name. -/
lemma applyWrites_of_not_named {actions : List VfioAction} {b : Bindings} {bdf : String}
    (h : ∀ a ∈ actions, a.bdf ≠ bdf) : applyWrites inv b actions bdf = b bdf := by
  induction actions generalizing b with
  | nil => rfl
  | cons a actions ih =>
      have hne : bdf ≠ a.bdf := (h a List.mem_cons_self).symm
      rw [applyWrites, List.foldl_cons, ← applyWrites,
        ih fun a' ha' => h a' (List.mem_cons_of_mem _ ha'), applyWrite]
      cases writeOf inv a with
      | none => rfl
      | some file => exact Function.update_of_ne hne _ _

/-- A function that the writes change is named by one of them. -/
lemma exists_named_of_changed {actions : List VfioAction} {f : PciFunction} {bdf : String}
    (hf : inv.findByBdf bdf = some f)
    (h : applyWrites inv inv.bindings actions bdf ≠ f.driver) : ∃ a ∈ actions, a.bdf = bdf := by
  by_contra hno
  push Not at hno
  refine h ?_
  rw [applyWrites_of_not_named hno, PciInventory.bindings, hf]
  rfl

/-- An unbind is written for a function with a driver, and leaves it without one. -/
lemma writeOf_unbind {file : DriverFile} (h : writeOf inv action = some file)
    (hkind : action.kind = .UnbindFromCurrentDriver) :
    file.result = none ∧ ∀ f, inv.findByBdf action.bdf = some f → f.driver ≠ none := by
  cases hf : inv.findByBdf action.bdf with
  | none => simp [writeOf, hf] at h
  | some func =>
      cases hd : func.driver with
      | none => simp [writeOf, hf, hkind, hd] at h
      | some driver =>
          simp only [writeOf, hf, hkind, hd, Option.bind_some] at h
          split_ifs at h
          rw [← Option.some.inj h]
          refine ⟨rfl, fun f hff => ?_⟩
          rw [← Option.some.inj hff, hd]
          exact Option.some_ne_none driver

/-- A function that is unbound by some of the writes and bound by none ends up without a
driver. -/
lemma applyWrites_of_unbound {actions : List VfioAction} {b : Bindings} {bdf : String}
    (hwrites : ∀ a ∈ actions, (writeOf inv a).isSome)
    (hnobind : ∀ a ∈ actions, a.kind = .BindToVfio → a.bdf ≠ bdf)
    (h : b bdf = none ∨ ∃ a ∈ actions, a.bdf = bdf) : applyWrites inv b actions bdf = none := by
  induction actions generalizing b with
  | nil => simpa [applyWrites] using h
  | cons a actions ih =>
      obtain ⟨file, hfile⟩ := Option.isSome_iff_exists.mp (hwrites a List.mem_cons_self)
      have hstep : applyWrite inv b a = Function.update b a.bdf file.result := by
        rw [applyWrite, hfile]
      rw [applyWrites, List.foldl_cons, ← applyWrites, hstep]
      refine ih (fun a' ha' => hwrites a' (List.mem_cons_of_mem _ ha'))
        (fun a' ha' => hnobind a' (List.mem_cons_of_mem _ ha')) ?_
      by_cases hbdf : a.bdf = bdf
      · left
        have hkind : a.kind = .UnbindFromCurrentDriver := by
          cases hk : a.kind with
          | UnbindFromCurrentDriver => rfl
          | BindToVfio => exact absurd hbdf (hnobind a List.mem_cons_self hk)
        rw [← hbdf, Function.update_self, (writeOf_unbind hfile hkind).1]
      · rcases h with h | ⟨a', ha', hbdf'⟩
        · left
          rw [Function.update_of_ne (Ne.symm hbdf), h]
        · right
          rcases List.mem_cons.mp ha' with rfl | ha'
          · exact absurd hbdf' hbdf
          · exact ⟨a', ha', hbdf'⟩

/-- **When the record covers every change.**  Let write number `n` fail while a plan is executed on
the host that the inventory was taken from.  Every function whose driver differs from the
inventory is recorded exactly when no function was unbound by one of the `n` writes before the
failing one without its bind being among those writes or the failing one; functions recorded
beforehand excepted. -/
theorem changes_recorded_iff (vmName : String) (cfg : VmConfig) (inv : PciInventory)
    (plan : VfioPlan) (h : buildPlanForVm vmName cfg inv = .ok plan) (ts : List VfioTransition)
    (n : ℕ) :
    let final := (outcome (executePlan failingDriverFiles plan inv) (ts, inv.bindings, n)).2
    (∀ bdf f, inv.findByBdf bdf = some f → final.2.1 bdf ≠ f.driver → Recorded final.1 f) ↔
      ∀ a ∈ (writing inv plan.actions).take n, a.kind = .UnbindFromCurrentDriver →
        (∃ a' ∈ (writing inv plan.actions).take (n + 1), a'.kind = .BindToVfio ∧ a'.bdf = a.bdf) ∨
          ∀ f, inv.findByBdf a.bdf = some f → Recorded ts f := by
  intro final
  have hsub : ∀ a ∈ (writing inv plan.actions).take n,
      a ∈ (writing inv plan.actions).take (n + 1) :=
    fun a ha => (List.take_prefix_take_left (Nat.le_succ n)).subset ha
  have hknown := known_of_buildPlanForVm h
  have hfinal : final = _ := executeActions_failing hknown ts inv.bindings n
  have hwrites : ∀ m, ∀ a ∈ (writing inv plan.actions).take m, (writeOf inv a).isSome := by
    intro m a ha
    exact (List.mem_filter.mp (List.mem_of_mem_take ha)).2
  have hrecorded : ∀ f, inv.findByBdf f.bdf = some f → (Recorded final.1 f ↔
      Recorded ts f ∨ ∃ a' ∈ (writing inv plan.actions).take (n + 1),
        a'.kind = .BindToVfio ∧ a'.bdf = f.bdf) := by
    intro f hf
    rw [← recorded_filterMap hf (hwrites (n + 1)), hfinal]
    simp only [Recorded, List.mem_append, or_and_right, exists_or]
  constructor
  · intro hall a ha hkind
    by_contra hno
    rw [not_or] at hno
    obtain ⟨hnobind, hunrec⟩ := hno
    push Not at hnobind hunrec
    obtain ⟨f, hf, hunrec⟩ := hunrec
    have hbdf : f.bdf = a.bdf := (mem_of_findByBdf hf).2
    have hff : inv.findByBdf f.bdf = some f := findByBdf_bdf hf
    -- no bind names the function, so it is left without a driver
    have hnone : final.2.1 a.bdf = none := by
      rw [hfinal]
      refine applyWrites_of_unbound (hwrites n) ?_ (Or.inr ⟨a, ha, rfl⟩)
      intro a' ha' hk
      exact hnobind a' (hsub a' ha') hk
    obtain ⟨file, hfile⟩ := Option.isSome_iff_exists.mp (hwrites n a ha)
    have hdriver : f.driver ≠ none := (writeOf_unbind hfile hkind).2 f hf
    have hrec := hall a.bdf f hf (by rw [hnone]; exact hdriver.symm)
    rcases (hrecorded f hff).mp hrec with hrec | ⟨a', ha', hk, hb⟩
    · exact hunrec hrec
    · exact hnobind a' ha' hk (by rw [hb, hbdf])
  · intro hcond bdf f hf hne
    have hbdf : f.bdf = bdf := (mem_of_findByBdf hf).2
    have hff : inv.findByBdf f.bdf = some f := findByBdf_bdf hf
    rw [hrecorded f hff]
    -- a changed function is named by one of the writes that took effect
    rw [hfinal] at hne
    obtain ⟨a, ha, hab⟩ := exists_named_of_changed hf hne
    cases hkind : a.kind with
    | BindToVfio =>
        exact Or.inr ⟨a, hsub a ha, hkind, by rw [hab, hbdf]⟩
    | UnbindFromCurrentDriver =>
        rcases hcond a ha hkind with ⟨a', ha', hk, hb⟩ | hrec
        · exact Or.inr ⟨a', ha', hk, by rw [hb, hab, hbdf]⟩
        · exact Or.inl (hrec f (by rw [hab, hf]))

/-- Two NVMe controllers in use by the host. -/
def nvmePairConfig : VmConfig :=
  minimalVmConfig
    { nvme := some [{ pciAddress := "0000:01:00.0" }, { pciAddress := "0000:02:00.0" }] } {}

def nvmePairInventory : PciInventory :=
  ⟨[makeGeneric "0000:01:00.0" 0x010802 (some "nvme") (some 1) none,
    makeGeneric "0000:02:00.0" 0x010802 (some "nvme") (some 2) none]⟩

def nvmePairPlan : VfioPlan where
  vmName := "testvm"
  actions := (actionsOf "testvm" (stagedFunctions nvmePairConfig nvmePairInventory)).unbinds ++
    (actionsOf "testvm" (stagedFunctions nvmePairConfig nvmePairInventory)).binds

lemma buildPlanForVm_nvmePair :
    buildPlanForVm "testvm" nvmePairConfig nvmePairInventory = .ok nvmePairPlan := by
  decide

theorem changes_recorded_iff_nvmePair :
    let final := (outcome (executePlan failingDriverFiles nvmePairPlan nvmePairInventory)
      ([], nvmePairInventory.bindings, 3)).2
    (∀ bdf f, nvmePairInventory.findByBdf bdf = some f → final.2.1 bdf ≠ f.driver →
        Recorded final.1 f) ↔
      ∀ a ∈ (writing nvmePairInventory nvmePairPlan.actions).take 3,
        a.kind = .UnbindFromCurrentDriver →
          (∃ a' ∈ (writing nvmePairInventory nvmePairPlan.actions).take (3 + 1),
            a'.kind = .BindToVfio ∧ a'.bdf = a.bdf) ∨
            ∀ f, nvmePairInventory.findByBdf a.bdf = some f → Recorded [] f :=
  changes_recorded_iff _ _ _ _ buildPlanForVm_nvmePair [] 3

/-- When the second unbind fails, the first controller has lost its driver without a record. -/
theorem unbound_unrecorded :
    ¬ ∀ vmName cfg inv plan, buildPlanForVm vmName cfg inv = .ok plan → ∀ ts n,
      let final := (outcome (executePlan failingDriverFiles plan inv) (ts, inv.bindings, n)).2
      ∀ bdf f, inv.findByBdf bdf = some f → final.2.1 bdf ≠ f.driver → Recorded final.1 f := by
  intro h
  obtain ⟨t, ht, -⟩ := h _ _ _ _ buildPlanForVm_nvmePair [] 1 "0000:01:00.0"
    (makeGeneric "0000:01:00.0" 0x010802 (some "nvme") (some 1) none) (by decide) (by decide)
  revert ht
  have hnone : (outcome (executePlan failingDriverFiles nvmePairPlan nvmePairInventory)
      ([], nvmePairInventory.bindings, 1)).2.1 = [] := by decide
  rw [hnone]
  exact List.not_mem_nil

end Chalybs
