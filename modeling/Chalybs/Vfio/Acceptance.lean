import Chalybs.Vfio.Plan
import Chalybs.Vfio.Verdict

/-!
# Which configurations the planner accepts

The planner refuses a configuration in several places: the resolution of each list, the veto of
the per-device level, and for the GPU list an assessment of whether unbinding is safe, with rules
about the members of the IOMMU group.  Over an inventory with distinct addresses most of these
rules cannot be reached, and what remains is short.

* `PlanAcceptable` — the condition, in terms of the configuration and the inventory; `PlanPasses`
  is what it becomes where addresses may be repeated.
* `checkGpuFunction_eq_ok` — what is left of the assessment.
* `buildPlanForVm_accepts` — a plan is built exactly under that condition, and the list of its
  actions.
-/

namespace Chalybs

open Foundation

/-- Some display controller of the inventory is in the slot of `f`. -/
def PciInventory.SlotHasDisplay (inv : PciInventory) (f : PciFunction) : Prop :=
  ∃ slot, f.slotKey = some slot ∧
    ∃ g ∈ inv.functions, g.slotKey = some slot ∧ g.isDisplayController = true

/-- An entry that the GPU list may have: a display controller that is bound to vfio-pci already, or
another function of such a controller's card. -/
def PciInventory.GpuEntryAllowed (inv : PciInventory) (f : PciFunction) : Prop :=
  (f.isDisplayController = true ∧ f.driver = some "vfio-pci") ∨
    (f.isDisplayController = false ∧ inv.SlotHasDisplay f)

/-- What a configuration needs for the planner to accept it. -/
structure PlanAcceptable (cfg : VmConfig) (inv : PciInventory) : Prop where
  requiredPresent : ∀ dev ∈ cfg.configured, dev.required = true →
    ∃ f ∈ inv.functions, f.bdf = dev.pciAddress
  notForbidden : ∀ devs ∈ [cfg.devices.nvme, cfg.devices.nic, cfg.devices.usb],
    ∀ dev ∈ deviceList devs, dev.level ≠ some .Forbidden
  gpuEntries : ∀ dev ∈ deviceList cfg.devices.gpu, ∀ f ∈ inv.functions,
    f.bdf = dev.pciAddress → inv.GpuEntryAllowed f

/-- An entry that passes the assessment, over every inventory: of several display controllers with
one address the last one counts. -/
def PciInventory.GpuEntryPasses (inv : PciInventory) (f : PciFunction) : Prop :=
  (f.isDisplayController = true ∧
      ∃ g, lastOn PciFunction.bdf inv.gpus f.bdf = some g ∧ g.driver = some "vfio-pci") ∨
    (f.isDisplayController = false ∧ inv.SlotHasDisplay f)

/-- What a configuration needs for the planner to accept it, over every inventory. -/
structure PlanPasses (cfg : VmConfig) (inv : PciInventory) : Prop where
  requiredPresent : inv.RequiredPresent cfg.configured
  notForbidden : ∀ devs ∈ [cfg.devices.nvme, cfg.devices.nic, cfg.devices.usb],
    ∀ dev ∈ deviceList devs, dev.level ≠ some .Forbidden
  gpuEntries : ∀ f ∈ inv.resolved (deviceList cfg.devices.gpu), inv.GpuEntryPasses f

variable {vmName : String} {cfg : VmConfig} {inv : PciInventory} {f : PciFunction}

/-! ## The GPU list -/

/-- For a function of the inventory, being in a GPU complex means sharing a slot with a display
controller. -/
lemma isBdfInGpuComplex_iff (hf : f ∈ inv.functions) :
    inv.isBdfInGpuComplex f.bdf = true ↔ inv.SlotHasDisplay f := by
  have hpresent : (inv.functions.any fun g => decide (g.bdf = f.bdf)) = true := by
    simp only [List.any_eq_true, decide_eq_true_eq]
    exact ⟨f, hf, rfl⟩
  rw [PciInventory.isBdfInGpuComplex, PciInventory.SlotHasDisplay, PciFunction.slotKey]
  cases parseBdfSlot f.bdf with
  | none => simp
  | some slot => simp [hpresent]

/-- Of several display controllers with one address, the assessment of the last one counts. -/
lemma lastOn_assessGpuUnbindSafety {bdf : String} :
    lastOn GpuUnbindAssessment.bdf inv.assessGpuUnbindSafety bdf =
      (lastOn PciFunction.bdf inv.gpus bdf).map inv.assessGpu := by
  have hcomp : (fun a => decide (GpuUnbindAssessment.bdf a = bdf)) ∘ inv.assessGpu =
      fun f => decide (f.bdf = bdf) := rfl
  rw [lastOn, PciInventory.assessGpuUnbindSafety, ← List.map_reverse, List.find?_map, hcomp]
  rfl

/-- **What is left of the assessment**: a display controller passes only if it is bound to vfio-pci
already, and another function only if it shares a slot with a display controller. -/
lemma checkGpuFunction_eq_ok (hf : f ∈ inv.functions) :
    checkGpuFunction vmName inv f = .ok () ↔ inv.GpuEntryPasses f := by
  cases hdisp : f.isDisplayController with
  | true =>
      simp only [checkGpuFunction, PciInventory.GpuEntryPasses, hdisp, if_true,
        lastOn_assessGpuUnbindSafety, true_and, reduceCtorEq, false_and, or_false]
      cases lastOn PciFunction.bdf inv.gpus f.bdf with
      | none => simp
      | some g =>
          have hsafe : (inv.assessGpu g).feasibility = .Safe ↔ g.driver = some "vfio-pci" :=
            feasibility_eq_safe
          simp only [Option.map_some, Option.some.injEq, exists_eq_left', ← hsafe]
          cases (inv.assessGpu g).feasibility with
          | Safe => simp
          | Risky msg => simp
          | Unsafe msg => simp
  | false =>
      simp only [checkGpuFunction, PciInventory.GpuEntryPasses, hdisp, Bool.false_eq_true,
        if_false, ← isBdfInGpuComplex_iff hf, false_and, false_or, true_and]
      cases inv.isBdfInGpuComplex f.bdf with
      | true => simp
      | false => simp

/-- With distinct addresses, a display controller is the one that counts for its address. -/
lemma gpuEntryPasses_iff (hinv : inv.DistinctBdfs) (hf : f ∈ inv.functions) :
    inv.GpuEntryPasses f ↔ inv.GpuEntryAllowed f := by
  rw [PciInventory.GpuEntryPasses, PciInventory.GpuEntryAllowed]
  cases hdisp : f.isDisplayController with
  | false => simp
  | true =>
      have hnodup : (inv.gpus.map PciFunction.bdf).Nodup :=
        hinv.sublist (List.filter_sublist.map PciFunction.bdf)
      have hlast : lastOn PciFunction.bdf inv.gpus f.bdf = some f :=
        (lastOn_eq_some hnodup).mpr ⟨List.mem_filter.mpr ⟨hf, hdisp⟩, rfl⟩
      simp [hlast]

/-! ## The conditions of the planner -/

/-- The conditions under which a plan is built, over every configuration and inventory. -/
lemma plannable_iff_passes :
    Plannable vmName cfg inv ↔ PlanPasses cfg inv := by
  have hgpu : (∀ f ∈ inv.resolved (deviceList cfg.devices.gpu),
        checkGpuFunction vmName inv f = .ok ()) ↔
      ∀ f ∈ inv.resolved (deviceList cfg.devices.gpu), inv.GpuEntryPasses f := by
    refine forall_congr' fun f => imp_congr_right fun hf => ?_
    obtain ⟨dev, -, hfind⟩ := mem_resolved.mp hf
    exact checkGpuFunction_eq_ok (mem_of_findByBdf hfind).1
  have hlists : cfg.devices.lists.tail =
      [cfg.devices.nvme, cfg.devices.nic, cfg.devices.usb].map deviceList := rfl
  constructor
  · rintro ⟨hpresent, hchecked, hno⟩
    refine ⟨requiredPresent_configured.mpr hpresent, ?_, hgpu.mp hchecked⟩
    simpa [hlists] using hno
  · rintro ⟨hpresent, hno, hpasses⟩
    refine ⟨requiredPresent_configured.mp hpresent, hgpu.mpr hpasses, ?_⟩
    simpa [hlists] using hno

/-- In an inventory with distinct addresses, the conditions are those of the configuration. -/
lemma planPasses_iff (hinv : inv.DistinctBdfs) : PlanPasses cfg inv ↔ PlanAcceptable cfg inv := by
  have hgpu : (∀ f ∈ inv.resolved (deviceList cfg.devices.gpu), inv.GpuEntryPasses f) ↔
      ∀ dev ∈ deviceList cfg.devices.gpu, ∀ f ∈ inv.functions, f.bdf = dev.pciAddress →
        inv.GpuEntryAllowed f := by
    simp only [mem_resolved, findByBdf_eq_some hinv]
    constructor
    · intro h dev hdev f hf hbdf
      exact (gpuEntryPasses_iff hinv hf).mp (h f ⟨dev, hdev, hf, hbdf⟩)
    · rintro h f ⟨dev, hdev, hf, hbdf⟩
      exact (gpuEntryPasses_iff hinv hf).mpr (h dev hdev f hf hbdf)
  constructor
  · rintro ⟨hpresent, hno, hpasses⟩
    exact ⟨hpresent, hno, hgpu.mp hpasses⟩
  · rintro ⟨hpresent, hno, hallowed⟩
    exact ⟨hpresent, hno, hgpu.mpr hallowed⟩

/-! ## The list of actions -/

instance (f : PciFunction) : Decidable f.NeedsUnbind :=
  decidable_of_iff (f.driver ≠ none ∧ f.driver ≠ some "vfio-pci") <| by
    cases hd : f.driver with
    | none => simp [PciFunction.NeedsUnbind, hd]
    | some driver => simp [PciFunction.NeedsUnbind, hd]

/-- What an action does, without the text of its reason. -/
def VfioAction.step (action : VfioAction) : String × VfioActionKind := (action.bdf, action.kind)

/-- The functions that a plan stages are the configured ones that are present, in the order of the
configuration. -/
lemma stagedFunctions_snd :
    (stagedFunctions cfg inv).map Prod.snd = inv.resolved cfg.configured := by
  simp [stagedFunctions, PciInventory.resolved, VmConfig.configured, DevicesConfig.lists,
    Function.comp_def]

/-- The unbinds of a plan, one for every staged function that has a driver to lose. -/
lemma steps_unbinds {staged : List (String × PciFunction)} :
    (actionsOf vmName staged).unbinds.map VfioAction.step =
      ((staged.map Prod.snd).filter fun f => decide f.NeedsUnbind).map
        fun f => (f.bdf, .UnbindFromCurrentDriver) := by
  rw [actionsOf, List.map_filterMap]
  induction staged with
  | nil => rfl
  | cons s staged ih =>
      obtain ⟨label, f⟩ := s
      rw [List.filterMap_cons, List.map_cons, List.filter_cons]
      by_cases hneeds : f.NeedsUnbind
      · obtain ⟨action, hact⟩ := unbindAction?_isSome vmName label hneeds
        obtain ⟨hbdf, hkind, -⟩ := unbindAction?_eq_some hact
        simp [hact, hneeds, ih, VfioAction.step, hbdf, hkind]
      · have hnone : unbindAction? vmName label f = none := by
          cases hact : unbindAction? vmName label f with
          | none => rfl
          | some action => exact absurd (unbindAction?_eq_some hact).2.2 hneeds
        simp [hnone, hneeds, ih]

/-- The binds of a plan, one for every staged function. -/
lemma steps_binds {staged : List (String × PciFunction)} :
    (actionsOf vmName staged).binds.map VfioAction.step =
      (staged.map Prod.snd).map fun f => (f.bdf, .BindToVfio) := by
  simp [actionsOf, bindAction, VfioAction.step, Function.comp_def]

/-- **What the planner accepts, and what it plans.**  Over an inventory with distinct addresses, a
plan is built exactly when every required device is present, no entry of the other three lists is
forbidden and the present entries of the GPU list are allowed.  Its actions are one unbind for each
resolved function that has a driver other than vfio-pci, and then one bind for each resolved
function, both in the order of the configuration. -/
theorem buildPlanForVm_accepts (vmName : String) (cfg : VmConfig) (inv : PciInventory)
    (hinv : inv.DistinctBdfs) :
    ((∃ plan, buildPlanForVm vmName cfg inv = .ok plan) ↔ PlanAcceptable cfg inv) ∧
      ∀ plan, buildPlanForVm vmName cfg inv = .ok plan →
        plan.actions.map VfioAction.step =
          ((inv.resolved cfg.configured).filter fun f => decide f.NeedsUnbind).map
              (fun f => (f.bdf, .UnbindFromCurrentDriver)) ++
            (inv.resolved cfg.configured).map fun f => (f.bdf, .BindToVfio) := by
  have hplannable : Plannable vmName cfg inv ↔ PlanAcceptable cfg inv :=
    plannable_iff_passes.trans (planPasses_iff hinv)
  constructor
  · rw [← hplannable]
    constructor
    · rintro ⟨plan, hplan⟩
      exact (buildPlanForVm_eq_ok.mp hplan).1
    · intro h
      exact ⟨_, buildPlanForVm_eq_ok.mpr ⟨h, rfl⟩⟩
  · intro plan hplan
    obtain ⟨-, rfl⟩ := buildPlanForVm_eq_ok.mp hplan
    rw [List.map_append, steps_unbinds, steps_binds, stagedFunctions_snd]

/-- A graphics card whose display function is staged already, its audio function, and a network
controller of the host. -/
def graphicsCardConfig : VmConfig :=
  minimalVmConfig
    { gpu := some [{ pciAddress := "0000:01:00.0" }, { pciAddress := "0000:01:00.1" }]
      nic := some [{ pciAddress := "0000:02:00.0" }] } {}

def graphicsCardInventory : PciInventory :=
  ⟨[makeGpu "0000:01:00.0" (some "vfio-pci") (some 1) (some 0),
    makeGeneric "0000:01:00.1" 0x040300 (some "snd_hda_intel") (some 1) (some 0),
    makeGeneric "0000:02:00.0" 0x020000 none (some 2) (some 0)]⟩

theorem buildPlanForVm_accepts_graphicsCard :
    ((∃ plan, buildPlanForVm "testvm" graphicsCardConfig graphicsCardInventory = .ok plan) ↔
        PlanAcceptable graphicsCardConfig graphicsCardInventory) ∧
      ∀ plan, buildPlanForVm "testvm" graphicsCardConfig graphicsCardInventory = .ok plan →
        plan.actions.map VfioAction.step =
          ((graphicsCardInventory.resolved graphicsCardConfig.configured).filter
              fun f => decide f.NeedsUnbind).map
              (fun f => (f.bdf, .UnbindFromCurrentDriver)) ++
            (graphicsCardInventory.resolved graphicsCardConfig.configured).map
              fun f => (f.bdf, .BindToVfio) :=
  buildPlanForVm_accepts _ _ _ (by decide)

example : (buildPlanForVm "testvm" graphicsCardConfig graphicsCardInventory).toOption.map
      (fun plan => plan.actions.map VfioAction.step) =
    some [("0000:01:00.1", .UnbindFromCurrentDriver), ("0000:01:00.0", .BindToVfio),
      ("0000:01:00.1", .BindToVfio), ("0000:02:00.0", .BindToVfio)] := by decide

end Chalybs
