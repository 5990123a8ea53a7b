import Chalybs.Vfio.Acceptance
import Chalybs.Vfio.RoundTrip

/-!
# A plan that is built can be executed and verified

Planner, executor and verifier each look the configured devices up on their own, and the executor
works from the inventory that the plan was built from while its own writes make that inventory
stale.  Under the rule of Linux they agree: the unbinds come first and every bind finds its
function unbound.

* `AgreesWith`, `RescannedAs` — an inventory that reports the drivers of a host, and what a later
  scan of the same functions reports.
* `executeActions_accepted` — writes to distinct functions that are accepted at the start.
* `verifyWithInventory_eq_ok` — what verification needs.
* `executePlan_verifies` — the agreement.
-/

namespace Chalybs

open Foundation

/-! ## Inventories of a host -/

/-- The functions of the inventory are functions of the host and have the drivers that the host
has bound. -/
def PciInventory.AgreesWith (inv : PciInventory) (entries : List PciEntry) (s : Bindings) : Prop :=
  ∀ f ∈ inv.functions, (∃ entry ∈ entries, entry.bdf = f.bdf) ∧ f.driver = s f.bdf

/-- `inv'` is an inventory of the functions of `inv`, in any order, with the drivers that they have
now. -/
def PciInventory.RescannedAs (inv : PciInventory) (s : Bindings) (inv' : PciInventory) : Prop :=
  inv'.functions.Perm (inv.functions.map (PciFunction.boundBy s))

variable {entries : List PciEntry} {s s' : Bindings} {inv inv' : PciInventory}

/-- A scan of the host agrees with it. -/
lemma agreesWith_linux : (linuxInventory entries s).AgreesWith entries s := by
  intro f hf
  obtain ⟨g, hg, rfl⟩ := List.mem_map.mp hf
  obtain ⟨entry, hentry, hread⟩ := List.mem_filterMap.mp hg
  refine ⟨⟨entry, hentry, ?_⟩, rfl⟩
  cases hfun : readFunction entry with
  | error e => simp [hfun, Except.toOption] at hread
  | ok g' =>
      simp only [hfun, Except.toOption, Option.some.injEq] at hread
      rw [← (readFunction_ok hfun).1, hread]
      rfl

namespace PciInventory.RescannedAs

lemma mem (h : inv.RescannedAs s inv') {g : PciFunction} :
    g ∈ inv'.functions ↔ ∃ f ∈ inv.functions, f.boundBy s = g := by
  rw [List.Perm.mem_iff h, List.mem_map]

/-- What is present is present in the second scan. -/
lemma requiredPresent (h : inv.RescannedAs s inv') {devs : List PciDeviceConfig}
    (hreq : inv.RequiredPresent devs) : inv'.RequiredPresent devs := by
  intro dev hdev hrequired
  obtain ⟨f, hf, hbdf⟩ := hreq dev hdev hrequired
  exact ⟨f.boundBy s, h.mem.mpr ⟨f, hf, rfl⟩, hbdf⟩

/-- Slots do not depend on the drivers. -/
lemma slotHasDisplay (h : inv.RescannedAs s inv') {f : PciFunction} (hf : inv.SlotHasDisplay f) :
    inv'.SlotHasDisplay (f.boundBy s) := by
  obtain ⟨slot, hslot, g, hg, hgslot, hdisp⟩ := hf
  exact ⟨slot, hslot, g.boundBy s, h.mem.mpr ⟨g, hg, rfl⟩, hgslot, hdisp⟩

end PciInventory.RescannedAs

/-! ## Verification -/

variable {vmName : String} {cfg : VmConfig}

lemma verifySingleDevice_eq_ok {kindLabel : String} {kind : Option DeviceKind}
    {func : PciFunction} :
    verifySingleDevice vmName kindLabel kind inv func = .ok () ↔
      (kind = some .Gpu → func.isDisplayController = true ∨
        inv.isBdfInGpuComplex func.bdf = true) ∧ func.driver = some "vfio-pci" := by
  simp only [verifySingleDevice]
  split_ifs with hkind
  · obtain ⟨hgpu, hdisp, hcomplex⟩ := hkind
    simp_all
  · have hallowed : kind = some .Gpu → func.isDisplayController = true ∨
        inv.isBdfInGpuComplex func.bdf = true := by
      intro hgpu
      by_contra hno
      rw [not_or, Bool.not_eq_true, Bool.not_eq_true] at hno
      exact hkind ⟨hgpu, by simp [hno.1], by simp [hno.2]⟩
    cases func.driver with
    | none => simp
    | some driver =>
        by_cases hvfio : driver = "vfio-pci"
        · simpa [hvfio] using hallowed
        · simp [hvfio]

lemma verifyDeviceList_eq_ok {kindLabel : String} {cfgs : Option (List PciDeviceConfig)}
    {kind : Option DeviceKind} :
    verifyDeviceList vmName kindLabel cfgs inv kind = .ok () ↔
      inv.RequiredPresent (deviceList cfgs) ∧
        ∀ f ∈ inv.resolved (deviceList cfgs),
          verifySingleDevice vmName kindLabel kind inv f = .ok () := by
  rw [verifyDeviceList, except_bind_eq_ok]
  simp only [resolveConfigured_eq_ok, forM_eq_ok]
  constructor
  · rintro ⟨_, ⟨hreq, rfl⟩, hall⟩
    exact ⟨hreq, hall⟩
  · rintro ⟨hreq, hall⟩
    exact ⟨_, ⟨hreq, rfl⟩, hall⟩

/-- **What verification needs**: the required devices are present, every configured device that is
present is bound to vfio-pci, and those of the GPU list belong to a graphics card. -/
lemma verifyWithInventory_eq_ok :
    verifyWithInventory vmName cfg inv = .ok () ↔
      inv.RequiredPresent cfg.configured ∧
      (∀ f ∈ inv.resolved cfg.configured, f.driver = some "vfio-pci") ∧
      ∀ f ∈ inv.resolved (deviceList cfg.devices.gpu),
        f.isDisplayController = true ∨ inv.isBdfInGpuComplex f.bdf = true := by
  have hlists : inv.resolved cfg.configured =
      cfg.devices.lists.flatMap fun devs => inv.resolved devs := by
    simp [PciInventory.resolved, VmConfig.configured, DevicesConfig.lists]
  rw [verifyWithInventory, requiredPresent_configured, hlists]
  simp only [except_seq_eq_ok, verifyDeviceList_eq_ok, verifySingleDevice_eq_ok,
    DevicesConfig.lists, List.flatMap_cons, List.flatMap_nil, List.append_nil, List.mem_append,
    List.forall_mem_cons, List.not_mem_nil, false_implies, implies_true, and_true, or_imp,
    forall_and, reduceCtorEq, Option.some.injEq, true_and, true_imp_iff]
  tauto

/-! ## Execution -/

section

variable {actions : List VfioAction} {ts : List VfioTransition}

lemma applyWrites_append {actions' : List VfioAction} {b : Bindings} :
    applyWrites inv b (actions ++ actions') =
      applyWrites inv (applyWrites inv b actions) actions' :=
  List.foldl_append

lemma outcome_executeActions_append {σ : Type} (k : DriverFiles σ) (inv : PciInventory)
    (actions actions' : List VfioAction) (t : List VfioTransition × σ) :
    outcome (executeActions k inv (actions ++ actions')) t =
      if (outcome (executeActions k inv actions) t).1 then
        outcome (executeActions k inv actions') (outcome (executeActions k inv actions) t).2
      else outcome (executeActions k inv actions) t := by
  induction actions generalizing t with
  | nil => rfl
  | cons action actions ih =>
      simp only [List.cons_append, executeActions, outcome_seq, ih]
      cases h : (outcome (executeAction k inv action) t).1 with
      | true => simp
      | false => simp [h]

/-- Linux accepts the write of the action, if it makes one. -/
def Accepted (inv : PciInventory) (s : Bindings) (action : VfioAction) : Prop :=
  ∀ file, writeOf inv action = some file → file.accepts (s action.bdf) = true

/-- An action without a write leaves no record. -/
lemma recordOf_eq_none {action : VfioAction} (h : writeOf inv action = none) :
    recordOf inv action = none := by
  cases hf : inv.findByBdf action.bdf with
  | none => simp [recordOf, hf]
  | some func =>
      cases hk : action.kind with
      | UnbindFromCurrentDriver => simp [recordOf, hf, hk]
      | BindToVfio => simpa [recordOf, writeOf, hf, hk] using h

/-- **Writes that are accepted at the start.**  If they name distinct functions, none of them
spoils a later one, so all of them take effect and each leaves its record. -/
lemma executeActions_accepted (hknown : Known inv actions)
    (hnodup : (actions.map VfioAction.bdf).Nodup)
    (hentry : ∀ a ∈ actions, ∃ entry ∈ entries, entry.bdf = a.bdf)
    (haccept : ∀ a ∈ actions, Accepted inv s a) :
    outcome (executeActions (linuxSysfs entries).toDriverFiles inv actions) (ts, s) =
      (true, ts ++ actions.filterMap (recordOf inv), applyWrites inv s actions) := by
  induction actions generalizing ts s with
  | nil => simp [executeActions, outcome, applyWrites, pure, EStateM.pure]
  | cons action actions ih =>
      obtain ⟨func, hf⟩ := hknown action List.mem_cons_self
      rw [List.map_cons, List.nodup_cons] at hnodup
      have hrest : ∀ (ts : List VfioTransition) (s : Bindings),
          (∀ a ∈ actions, Accepted inv s a) →
            outcome (executeActions (linuxSysfs entries).toDriverFiles inv actions) (ts, s) =
              (true, ts ++ actions.filterMap (recordOf inv), applyWrites inv s actions) :=
        fun ts s h => ih (fun a ha => hknown a (List.mem_cons_of_mem _ ha)) hnodup.2
          (fun a ha => hentry a (List.mem_cons_of_mem _ ha)) h
      rw [executeActions, outcome_seq, outcome_executeAction _ hf]
      cases hw : writeOf inv action with
      | none =>
          have hstep : applyWrite inv s action = s := by simp [applyWrite, hw]
          have hsame := hrest ts s fun a ha => haccept a (List.mem_cons_of_mem _ ha)
          simp only [if_true, hsame, List.filterMap_cons, recordOf_eq_none hw, applyWrites,
            List.foldl_cons, hstep]
      | some file =>
          have hany : (entries.any fun entry => entry.bdf == action.bdf) = true := by
            simpa using hentry action List.mem_cons_self
          have haccepted := haccept action List.mem_cons_self file hw
          have hstep : applyWrite inv s action =
              Function.update s action.bdf file.result := by simp [applyWrite, hw]
          -- the later actions name other functions, so they are accepted as before
          have hlater : ∀ a ∈ actions, Accepted inv (applyWrite inv s action) a := by
            intro a ha file' hw'
            have hne : a.bdf ≠ action.bdf := by
              intro heq
              exact hnodup.1 (List.mem_map.mpr ⟨a, ha, heq⟩)
            rw [hstep, Function.update_of_ne hne]
            exact haccept a (List.mem_cons_of_mem _ ha) file' hw'
          simp only [effect_linuxSysfs, hany, haccepted, Bool.and_self, if_true, ← hstep,
            hrest (ts ++ (recordOf inv action).toList) _ hlater,
            applyWrites, List.foldl_cons, Prod.mk.injEq, true_and, and_true]
          cases hr : recordOf inv action with
          | none => simp [hr]
          | some t => simp [hr]

lemma applyWrite_of_ne {action : VfioAction} {b : Bindings} {bdf : String} (h : bdf ≠ action.bdf) :
    applyWrite inv b action bdf = b bdf := by
  rw [applyWrite]
  cases writeOf inv action with
  | none => rfl
  | some file => exact Function.update_of_ne h _ _

/-- Among writes to distinct functions, the one that names a function decides its driver. -/
lemma applyWrites_of_named {action : VfioAction} {b : Bindings}
    (hnodup : (actions.map VfioAction.bdf).Nodup) (hmem : action ∈ actions) :
    applyWrites inv b actions action.bdf =
      match writeOf inv action with
      | some file => file.result
      | none => b action.bdf := by
  induction actions generalizing b with
  | nil => exact absurd hmem List.not_mem_nil
  | cons a actions ih =>
      rw [List.map_cons, List.nodup_cons] at hnodup
      rw [applyWrites, List.foldl_cons, ← applyWrites]
      rcases List.mem_cons.mp hmem with rfl | hmem
      · have hlater : ∀ a' ∈ actions, a'.bdf ≠ action.bdf := by
          intro a' ha' heq
          exact hnodup.1 (List.mem_map.mpr ⟨a', ha', heq⟩)
        rw [applyWrites_of_not_named hlater, applyWrite]
        cases writeOf inv action with
        | none => rfl
        | some file => simp
      · have hne : action.bdf ≠ a.bdf := by
          intro heq
          exact hnodup.1 (List.mem_map.mpr ⟨action, hmem, heq⟩)
        rw [ih hnodup.2 hmem, applyWrite_of_ne hne]

end

/-! ## The two phases of a plan -/

section

variable {staged : List (String × PciFunction)}

/-- The staged functions are the ones that the inventory has at their addresses. -/
def Resolved (inv : PciInventory) (staged : List (String × PciFunction)) : Prop :=
  ∀ p ∈ staged, inv.findByBdf p.2.bdf = some p.2

lemma resolved_stagedFunctions : Resolved inv (stagedFunctions cfg inv) := by
  rintro ⟨label, f⟩ hp
  obtain ⟨dev, -, hf⟩ := exists_staged_iff.mp ⟨label, hp⟩
  exact findByBdf_bdf hf

lemma mem_unbinds {action : VfioAction} (h : action ∈ (actionsOf vmName staged).unbinds) :
    ∃ p ∈ staged, action.bdf = p.2.bdf ∧ action.kind = .UnbindFromCurrentDriver ∧
      p.2.NeedsUnbind := by
  obtain ⟨p, hp, hact⟩ := List.mem_filterMap.mp h
  exact ⟨p, hp, unbindAction?_eq_some hact⟩

lemma mem_binds {action : VfioAction} (h : action ∈ (actionsOf vmName staged).binds) :
    ∃ p ∈ staged, action.bdf = p.2.bdf ∧ action.kind = .BindToVfio := by
  obtain ⟨p, hp, rfl⟩ := List.mem_map.mp h
  exact ⟨p, hp, rfl, rfl⟩

/-- The unbinds name distinct functions if the staged ones are distinct. -/
lemma nodup_unbinds (h : ((staged.map Prod.snd).map PciFunction.bdf).Nodup) :
    ((actionsOf vmName staged).unbinds.map VfioAction.bdf).Nodup := by
  have hbdf : (actionsOf vmName staged).unbinds.map VfioAction.bdf =
      ((staged.map Prod.snd).filter fun f => decide f.NeedsUnbind).map PciFunction.bdf := by
    have hsteps : (actionsOf vmName staged).unbinds.map VfioAction.step = _ := steps_unbinds
    simpa [VfioAction.step, Function.comp_def] using congrArg (List.map Prod.fst) hsteps
  rw [hbdf]
  exact h.sublist (List.filter_sublist.map PciFunction.bdf)

lemma map_bdf_binds :
    (actionsOf vmName staged).binds.map VfioAction.bdf =
      (staged.map Prod.snd).map PciFunction.bdf := by
  simp [actionsOf, bindAction, Function.comp_def]

/-- Every unbind of a plan writes to the driver that the function has. -/
lemma writeOf_of_mem_unbinds (hres : Resolved inv staged) {action : VfioAction}
    (h : action ∈ (actionsOf vmName staged).unbinds) :
    ∃ f driver, inv.findByBdf action.bdf = some f ∧ f.driver = some driver ∧
      writeOf inv action = some (.Unbind driver) := by
  obtain ⟨⟨label, f⟩, hp, hbdf, hkind, driver, hd, hvfio⟩ := mem_unbinds h
  have hf : inv.findByBdf action.bdf = some f := hbdf ▸ hres _ hp
  have hdriver : f.driver = some driver := hd
  exact ⟨f, driver, hf, hdriver, by simp [writeOf, hf, hkind, hdriver, hvfio]⟩

/-- A bind of a plan writes unless its function is bound to vfio-pci already. -/
lemma writeOf_bind {action : VfioAction} {f : PciFunction} (hf : inv.findByBdf action.bdf = some f)
    (hkind : action.kind = .BindToVfio) :
    writeOf inv action =
      if f.driver = some "vfio-pci" then none else some (.Bind "vfio-pci") := by
  simp [writeOf, hf, hkind]

/-- After the unbinds, a staged function that is to be bound has no driver. -/
lemma applyWrites_unbinds (hres : Resolved inv staged) {f : PciFunction}
    (hf : f ∈ staged.map Prod.snd) (hdriver : f.driver = s f.bdf)
    (hvfio : f.driver ≠ some "vfio-pci") :
    applyWrites inv s (actionsOf vmName staged).unbinds f.bdf = none := by
  obtain ⟨⟨label, f⟩, hp, rfl⟩ := List.mem_map.mp hf
  refine applyWrites_of_unbound ?_ ?_ ?_
  · intro a ha
    obtain ⟨g, driver, -, -, hw⟩ := writeOf_of_mem_unbinds hres ha
    simp [hw]
  · intro a ha hkind
    obtain ⟨q, -, -, hunbind, -⟩ := mem_unbinds ha
    simp [hunbind] at hkind
  · cases hd : f.driver with
    | none => exact Or.inl (hdriver.symm.trans hd)
    | some driver =>
        right
        have hneeds : f.NeedsUnbind := ⟨driver, hd, by simpa [hd] using hvfio⟩
        obtain ⟨action, hact⟩ := unbindAction?_isSome vmName label hneeds
        exact ⟨action, List.mem_filterMap.mpr ⟨_, hp, hact⟩, (unbindAction?_eq_some hact).1⟩

/-- The unbinds leave a function alone that is bound to vfio-pci. -/
lemma applyWrites_unbinds_of_vfio (hres : Resolved inv staged) {f : PciFunction}
    (hf : inv.findByBdf f.bdf = some f) (hvfio : f.driver = some "vfio-pci") :
    applyWrites inv s (actionsOf vmName staged).unbinds f.bdf = s f.bdf := by
  refine applyWrites_of_not_named fun a ha hbdf => ?_
  obtain ⟨⟨label, g⟩, hp, hgbdf, -, driver, hdriver, hne⟩ := mem_unbinds ha
  have hg : inv.findByBdf f.bdf = some g := by
    rw [← hbdf, hgbdf]
    exact hres _ hp
  obtain rfl := Option.some.inj (hf.symm.trans hg)
  rw [hvfio] at hdriver
  exact hne (Option.some.inj hdriver).symm

/-- The transition that is recorded when a function is taken from its driver. -/
def PciFunction.transition (f : PciFunction) : VfioTransition where
  bdf := f.bdf
  fromDriver := f.driver
  iommuGroup := f.iommuGroup

/-- The unbinds record nothing, and the binds record every staged function that is not bound to
vfio-pci. -/
lemma records_of_plan (hres : Resolved inv staged) :
    ((actionsOf vmName staged).unbinds.filterMap (recordOf inv) = []) ∧
    (actionsOf vmName staged).binds.filterMap (recordOf inv) =
      ((staged.map Prod.snd).filter fun f => decide (f.driver ≠ some "vfio-pci")).map
        PciFunction.transition := by
  constructor
  · rw [List.filterMap_eq_nil_iff]
    intro a ha
    obtain ⟨f, driver, hf, -, -⟩ := writeOf_of_mem_unbinds hres ha
    obtain ⟨-, -, -, hkind, -⟩ := mem_unbinds ha
    simp [recordOf, hf, hkind]
  · induction staged with
    | nil => rfl
    | cons p staged ih =>
        have hf : inv.findByBdf p.2.bdf = some p.2 := hres p List.mem_cons_self
        have ih := ih fun q hq => hres q (List.mem_cons_of_mem _ hq)
        have hrecord : recordOf inv (bindAction vmName p.1 p.2) =
            if p.2.driver = some "vfio-pci" then none else some p.2.transition := by
          simp [recordOf, bindAction, hf, PciFunction.transition]
        simp only [actionsOf, List.map_cons, List.filterMap_cons, hrecord, List.filter_cons] at ih ⊢
        by_cases hvfio : p.2.driver = some "vfio-pci"
        · simpa [hvfio] using ih
        · simpa [hvfio] using ih

end

/-! ## The agreement -/

section

variable {staged : List (String × PciFunction)}

/-- Every unbind finds its function with the driver that the inventory reports. -/
lemma accepted_unbinds (hres : Resolved inv staged) (hagree : inv.AgreesWith entries s) :
    ∀ a ∈ (actionsOf vmName staged).unbinds, Accepted inv s a := by
  intro a ha file hfile
  obtain ⟨f, driver, hf, hdriver, hw⟩ := writeOf_of_mem_unbinds hres ha
  obtain rfl := Option.some.inj (hw.symm.trans hfile)
  obtain ⟨hfmem, hbdf⟩ := mem_of_findByBdf hf
  have hbound := (hagree f hfmem).2
  rw [hbdf, hdriver] at hbound
  simp [DriverFile.accepts, ← hbound]

/-- Every bind that is written finds its function unbound, once the unbinds are done. -/
lemma accepted_binds (hres : Resolved inv staged) (hagree : inv.AgreesWith entries s) :
    ∀ a ∈ (actionsOf vmName staged).binds,
      Accepted inv (applyWrites inv s (actionsOf vmName staged).unbinds) a := by
  intro a ha file hfile
  obtain ⟨p, hp, hbdf, hkind⟩ := mem_binds ha
  have hf := hres p hp
  have hfa : inv.findByBdf a.bdf = some p.2 := hbdf ▸ hf
  rw [writeOf_bind hfa hkind] at hfile
  split_ifs at hfile with hvfio
  obtain rfl := Option.some.inj hfile
  have hbound := (hagree p.2 (mem_of_findByBdf hf).1).2
  have hnone : applyWrites inv s (actionsOf vmName staged).unbinds p.2.bdf = none :=
    applyWrites_unbinds hres (List.mem_map_of_mem hp) hbound hvfio
  rw [hbdf, hnone]
  rfl

end

/-- The functions a list resolves to are at the addresses of the list, in its order. -/
lemma resolved_bdfs_sublist {devs : List PciDeviceConfig} :
    ((inv.resolved devs).map PciFunction.bdf).Sublist (devs.map (·.pciAddress)) := by
  induction devs with
  | nil => exact List.Sublist.slnil
  | cons dev devs ih =>
      rw [PciInventory.resolved, List.filterMap_cons, ← PciInventory.resolved]
      cases hf : inv.findByBdf dev.pciAddress with
      | none => exact ih.cons _
      | some f =>
          rw [List.map_cons, List.map_cons, (mem_of_findByBdf hf).2]
          exact ih.cons_cons _

section

variable {plan : VfioPlan}

/-- **Executing a plan**: under the rule of Linux all of its writes take effect. -/
lemma executePlan_linux (hdup : (cfg.configured.map (·.pciAddress)).Nodup)
    (hagree : inv.AgreesWith entries s) (h : buildPlanForVm vmName cfg inv = .ok plan)
    (ts : List VfioTransition) :
    executePlan (linuxSysfs entries).toDriverFiles plan inv (ts, s) =
      .ok () (ts ++ ((inv.resolved cfg.configured).filter
        fun f => decide (f.driver ≠ some "vfio-pci")).map PciFunction.transition,
        applyWrites inv s plan.actions) := by
  have hres : Resolved inv (stagedFunctions cfg inv) := resolved_stagedFunctions
  have hnodup : (((stagedFunctions cfg inv).map Prod.snd).map PciFunction.bdf).Nodup := by
    rw [stagedFunctions_snd]
    exact hdup.sublist resolved_bdfs_sublist
  have hknown := known_of_buildPlanForVm h
  have hentry : ∀ a ∈ plan.actions, ∃ entry ∈ entries, entry.bdf = a.bdf := by
    intro a ha
    obtain ⟨f, hf⟩ := hknown a ha
    obtain ⟨hfmem, hbdf⟩ := mem_of_findByBdf hf
    exact hbdf ▸ (hagree f hfmem).1
  obtain ⟨-, rfl⟩ := buildPlanForVm_eq_ok.mp h
  have hrun := outcome_executeActions_append (linuxSysfs entries).toDriverFiles inv
    (actionsOf vmName (stagedFunctions cfg inv)).unbinds
    (actionsOf vmName (stagedFunctions cfg inv)).binds (ts, s)
  rw [executeActions_accepted (fun a ha => hknown a (List.mem_append_left _ ha))
      (nodup_unbinds hnodup) (fun a ha => hentry a (List.mem_append_left _ ha))
      (accepted_unbinds hres hagree), if_pos rfl, (records_of_plan hres).1, List.append_nil,
    executeActions_accepted (fun a ha => hknown a (List.mem_append_right _ ha))
      (by rwa [map_bdf_binds]) (fun a ha => hentry a (List.mem_append_right _ ha))
      (accepted_binds hres hagree), (records_of_plan hres).2, stagedFunctions_snd] at hrun
  obtain ⟨_, hexec⟩ := outcome_eq_true.mp hrun
  rw [applyWrites_append]
  exact hexec

/-- A plan leaves the resolved functions bound to vfio-pci. -/
lemma applyWrites_plan (hdup : (cfg.configured.map (·.pciAddress)).Nodup)
    (hagree : inv.AgreesWith entries s) (h : buildPlanForVm vmName cfg inv = .ok plan)
    {f : PciFunction} (hf : f ∈ inv.resolved cfg.configured) :
    applyWrites inv s plan.actions f.bdf = some "vfio-pci" := by
  obtain ⟨-, rfl⟩ := buildPlanForVm_eq_ok.mp h
  have hres : Resolved inv (stagedFunctions cfg inv) := resolved_stagedFunctions
  obtain ⟨dev, -, hfind⟩ := mem_resolved.mp hf
  have hff := findByBdf_bdf hfind
  have hdriver := (hagree f (mem_of_findByBdf hfind).1).2
  rw [← stagedFunctions_snd] at hf
  obtain ⟨⟨label, f⟩, hp, rfl⟩ := List.mem_map.mp hf
  have hmem : bindAction vmName label f ∈
      (actionsOf vmName (stagedFunctions cfg inv)).binds := List.mem_map.mpr ⟨_, hp, rfl⟩
  have hnodup : ((actionsOf vmName (stagedFunctions cfg inv)).binds.map VfioAction.bdf).Nodup := by
    rw [map_bdf_binds, stagedFunctions_snd]
    exact hdup.sublist resolved_bdfs_sublist
  rw [applyWrites_append]
  refine (applyWrites_of_named hnodup hmem).trans ?_
  rw [writeOf_bind hff rfl]
  split_ifs with hvfio
  · exact (applyWrites_unbinds_of_vfio hres hff hvfio).trans (hdriver.symm.trans hvfio)
  · rfl

/-- Where the resolved functions are bound to vfio-pci, a plan that could be built verifies. -/
lemma verifyWithInventory_rescanned (hinv : inv.DistinctBdfs)
    (h : buildPlanForVm vmName cfg inv = .ok plan) (hscan : inv.RescannedAs s inv')
    (hbound : ∀ f ∈ inv.resolved cfg.configured, s f.bdf = some "vfio-pci") :
    verifyWithInventory vmName cfg inv' = .ok () := by
  have hacceptable : PlanAcceptable cfg inv :=
    (planPasses_iff hinv).mp (plannable_iff_passes.mp (buildPlanForVm_eq_ok.mp h).1)
  -- what a list resolves to in the second scan is what it resolved to in the first
  have hresolved : ∀ devs, ∀ g ∈ inv'.resolved devs, g ∈ inv'.functions ∧
      ∃ dev ∈ devs, ∃ f ∈ inv.functions, f.bdf = dev.pciAddress ∧ f.boundBy s = g := by
    intro devs g hg
    obtain ⟨dev, hdev, hfind⟩ := mem_resolved.mp hg
    obtain ⟨hgmem, hgbdf⟩ := mem_of_findByBdf hfind
    obtain ⟨f, hf, rfl⟩ := hscan.mem.mp hgmem
    exact ⟨hgmem, dev, hdev, f, hf, hgbdf, rfl⟩
  rw [verifyWithInventory_eq_ok]
  refine ⟨hscan.requiredPresent hacceptable.requiredPresent, ?_, ?_⟩
  · intro g hg
    obtain ⟨-, dev, hdev, f, hf, hbdf, rfl⟩ := hresolved _ g hg
    exact hbound f (mem_resolved.mpr ⟨dev, hdev, (findByBdf_eq_some hinv).mpr ⟨hf, hbdf⟩⟩)
  · intro g hg
    obtain ⟨hgmem, dev, hdev, f, hf, hbdf, rfl⟩ := hresolved _ g hg
    rcases hacceptable.gpuEntries dev hdev f hf hbdf with ⟨hdisp, -⟩ | ⟨-, hslot⟩
    · exact Or.inl hdisp
    · exact Or.inr ((isBdfInGpuComplex_iff hgmem).mpr (hscan.slotHasDisplay hslot))

end

/-- **A plan that is built can be executed and verified.**  Over an inventory with distinct
addresses that agrees with the host, and a configuration that names no address twice: executing the
plan succeeds under the rule of Linux, every later scan of the functions verifies, no function
outside the configured ones changes its driver, and one transition is recorded for each configured
function present that was not bound to vfio-pci, with the driver that it had. -/
theorem executePlan_verifies (entries : List PciEntry) (vmName : String) (cfg : VmConfig)
    (inv : PciInventory) (plan : VfioPlan) (ts : List VfioTransition) (s : Bindings)
    (hdup : (cfg.configured.map (·.pciAddress)).Nodup) (hinv : inv.DistinctBdfs)
    (hagree : inv.AgreesWith entries s) (h : buildPlanForVm vmName cfg inv = .ok plan) :
    ∃ s', executePlan (linuxSysfs entries).toDriverFiles plan inv (ts, s) =
        .ok () (ts ++ ((inv.resolved cfg.configured).filter
          fun f => decide (f.driver ≠ some "vfio-pci")).map PciFunction.transition, s') ∧
      (∀ inv', inv.RescannedAs s' inv' → verifyWithInventory vmName cfg inv' = .ok ()) ∧
      ∀ bdf, ¬ cfg.Configures bdf → s' bdf = s bdf := by
  refine ⟨_, executePlan_linux hdup hagree h ts, ?_, ?_⟩
  · intro inv' hscan
    exact verifyWithInventory_rescanned hinv h hscan
      fun f hf => applyWrites_plan hdup hagree h hf
  · intro bdf hbdf
    refine applyWrites_of_not_named fun a ha heq => hbdf ?_
    obtain ⟨dev, hdev, f, hf, hfa⟩ := configured_of_action h ha
    exact ⟨dev, hdev, by rw [← (mem_of_findByBdf hf).2, hfa, heq]⟩

/-- The NVMe controller of the host is taken from its driver. -/
theorem executePlan_verifies_storage :
    ∃ s', executePlan (linuxSysfs storageHost).toDriverFiles storagePlan
        (linuxInventory storageHost storageBindings) ([], storageBindings) =
        .ok () ([] ++ (((linuxInventory storageHost storageBindings).resolved
          storageRuntime.cfg.configured).filter
            fun f => decide (f.driver ≠ some "vfio-pci")).map PciFunction.transition, s') ∧
      (∀ inv', (linuxInventory storageHost storageBindings).RescannedAs s' inv' →
        verifyWithInventory "testvm" storageRuntime.cfg inv' = .ok ()) ∧
      ∀ bdf, ¬ storageRuntime.cfg.Configures bdf → s' bdf = storageBindings bdf :=
  executePlan_verifies storageHost "testvm" storageRuntime.cfg _ storagePlan [] storageBindings
    (by decide) (by decide) agreesWith_linux (by decide)

end Chalybs
