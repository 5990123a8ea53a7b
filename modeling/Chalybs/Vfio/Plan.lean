import Chalybs.Foundation.Fallible
import Chalybs.Pci.Inventory

/-!
# The VFIO action plan

`vfio/plan.rs` turns the configuration of a VM and the PCI inventory into a list of actions:
first every unbind, then every bind to vfio-pci.

* `appendActionsForFunction` — the actions for one function.
* `buildGpuActions` — the GPU list, behind the assessment of whether unbinding is safe.
* `stageDeviceList` — the other three lists, behind the per-device level only.
* `buildPlanForVm` with `buildPlanForVm_ok` — a plan that is built consists of the actions of the
  resolved functions of the four lists.
* `unbinds_no_display_iff` — when a plan leaves the display controllers alone.
-/

namespace Chalybs

open Foundation

/-- `VfioActionKind`. -/
inductive VfioActionKind
  | UnbindFromCurrentDriver
  | BindToVfio
  deriving DecidableEq, Repr

/-- `VfioAction`. -/
structure VfioAction where
  bdf : String
  kind : VfioActionKind
  reason : String
  deriving DecidableEq, Repr

/-- `VfioPlan`. -/
structure VfioPlan where
  vmName : String
  actions : List VfioAction
  deriving DecidableEq, Repr

/-- The two accumulators `unbind_actions` and `bind_actions`. -/
structure PendingActions where
  unbinds : List VfioAction := []
  binds : List VfioAction := []
  deriving DecidableEq, Repr

/-! ## Building -/

/-- The unbind action for a function, if it has a driver other than vfio-pci. -/
def unbindAction? (vmName kindLabel : String) (func : PciFunction) : Option VfioAction :=
  match func.driver with
  | none => none
  | some driver =>
      if driver = "vfio-pci" then none
      else some {
        bdf := func.bdf
        kind := .UnbindFromCurrentDriver
        reason := s!"{kindLabel} {func.bdf}: unbinding from current driver `{driver}` before " ++
          s!"binding to vfio-pci for VM {vmName}" }

/-- The bind action for a function; it is planned whatever the driver is. -/
def bindAction (vmName kindLabel : String) (func : PciFunction) : VfioAction where
  bdf := func.bdf
  kind := .BindToVfio
  reason := s!"{kindLabel} device bound to vfio-pci for VM {vmName}"

/-- `append_actions_for_function`. -/
def appendActionsForFunction (vmName kindLabel : String) (acts : PendingActions)
    (func : PciFunction) : PendingActions where
  unbinds := acts.unbinds ++ (unbindAction? vmName kindLabel func).toList
  binds := acts.binds ++ [bindAction vmName kindLabel func]

/-- The check that `build_gpu_actions` makes before it stages one function of the GPU list.  Of
several assessments with one address the last one counts. -/
def checkGpuFunction (vmName : String) (inv : PciInventory) (func : PciFunction) :
    Except ChalybsError Unit :=
  let bdf := func.bdf
  if func.isDisplayController then
    match lastOn GpuUnbindAssessment.bdf inv.assessGpuUnbindSafety bdf with
    | none => .error (.Vfio s!"VM {vmName}: no GPU unbind assessment available for {bdf}")
    | some assessment =>
        match assessment.feasibility with
        | .Safe => .ok ()
        | .Risky msg => .error (.Vfio
            s!"VM {vmName}: GPU {bdf} is classified as RISKY to unbind: {msg}")
        | .Unsafe msg => .error (.Vfio
            s!"VM {vmName}: GPU {bdf} is classified as UNSAFE to unbind: {msg}")
  else if inv.isBdfInGpuComplex bdf then .ok ()
  else .error (.Vfio (s!"VM {vmName}: device {bdf} is listed under devices.gpu but PCI class " ++
    "base is not 0x03 (display controller) and it does not share a PCI slot with a display " ++
    "controller"))

/-- `build_gpu_actions`. -/
def buildGpuActions (vmName : String) (cfg : VmConfig) (inv : PciInventory)
    (acts : PendingActions) : Except ChalybsError PendingActions := do
  let gpuFuncs ← inv.resolveConfigured (deviceList cfg.devices.gpu)
  gpuFuncs.foldlM (fun acts func => do
    checkGpuFunction vmName inv func
    pure (appendActionsForFunction vmName "GPU" acts func)) acts

/-- `stage_device_list`.  A device whose own level is `Forbidden` vetoes the list, present or
not. -/
def stageDeviceList (vmName kindLabel : String) (cfgs : Option (List PciDeviceConfig))
    (inv : PciInventory) (acts : PendingActions) : Except ChalybsError PendingActions := do
  match (deviceList cfgs).find? fun dev => decide (dev.level = some .Forbidden) with
  | some dev => throw (.Vfio
      s!"VM {vmName}: device {dev.pciAddress} is forbidden for passthrough by policy")
  | none =>
      let funcs ← inv.resolveConfigured (deviceList cfgs)
      pure (funcs.foldl (appendActionsForFunction vmName kindLabel) acts)

/-- `build_non_gpu_actions`. -/
def buildNonGpuActions (vmName : String) (cfg : VmConfig) (inv : PciInventory)
    (acts : PendingActions) : Except ChalybsError PendingActions := do
  let acts ← stageDeviceList vmName "NVMe" cfg.devices.nvme inv acts
  let acts ← stageDeviceList vmName "NIC" cfg.devices.nic inv acts
  stageDeviceList vmName "USB" cfg.devices.usb inv acts

/-- `build_plan_for_vm`. -/
def buildPlanForVm (vmName : String) (cfg : VmConfig) (inv : PciInventory) :
    Except ChalybsError VfioPlan := do
  let acts ← buildGpuActions vmName cfg inv {}
  let acts ← buildNonGpuActions vmName cfg inv acts
  pure { vmName, actions := acts.unbinds ++ acts.binds }

/-! ## What a plan consists of -/

/-- The actions for functions staged one after the other, each under the label of its list. -/
def actionsOf (vmName : String) (staged : List (String × PciFunction)) : PendingActions where
  unbinds := staged.filterMap fun s => unbindAction? vmName s.1 s.2
  binds := staged.map fun s => bindAction vmName s.1 s.2

/-- The functions that a plan stages: those of the four lists that are present. -/
def stagedFunctions (cfg : VmConfig) (inv : PciInventory) : List (String × PciFunction) :=
  (inv.resolved (deviceList cfg.devices.gpu)).map (Prod.mk "GPU")
    ++ (inv.resolved (deviceList cfg.devices.nvme)).map (Prod.mk "NVMe")
    ++ (inv.resolved (deviceList cfg.devices.nic)).map (Prod.mk "NIC")
    ++ (inv.resolved (deviceList cfg.devices.usb)).map (Prod.mk "USB")

/-- The conditions under which a plan is built. -/
structure Plannable (vmName : String) (cfg : VmConfig) (inv : PciInventory) : Prop where
  requiredPresent : ∀ devs ∈ cfg.devices.lists, inv.RequiredPresent devs
  gpuChecked : ∀ f ∈ inv.resolved (deviceList cfg.devices.gpu),
    checkGpuFunction vmName inv f = .ok ()
  notForbidden : ∀ devs ∈ cfg.devices.lists.tail, ∀ dev ∈ devs, dev.level ≠ some .Forbidden

variable {vmName : String} {cfg : VmConfig} {inv : PciInventory}

lemma foldl_appendActions {kindLabel : String} {funcs : List PciFunction}
    {staged : List (String × PciFunction)} :
    funcs.foldl (appendActionsForFunction vmName kindLabel) (actionsOf vmName staged) =
      actionsOf vmName (staged ++ funcs.map (Prod.mk kindLabel)) := by
  induction funcs generalizing staged with
  | nil => simp
  | cons func funcs ih =>
      have hone : appendActionsForFunction vmName kindLabel (actionsOf vmName staged) func =
          actionsOf vmName (staged ++ [(kindLabel, func)]) := by
        simp only [appendActionsForFunction, actionsOf, List.filterMap_append, List.map_append,
          List.map_cons, List.map_nil, List.filterMap_cons, List.filterMap_nil]
        cases unbindAction? vmName kindLabel func with
        | none => rfl
        | some action => rfl
      rw [List.foldl_cons, hone, ih]
      simp

/-- A fold that checks every element succeeds exactly when all checks do. -/
lemma foldlM_checked {check : PciFunction → Except ChalybsError Unit}
    {step : PendingActions → PciFunction → PendingActions} {funcs : List PciFunction}
    {acts acts' : PendingActions} :
    (funcs.foldlM (fun acts func => do check func; pure (step acts func)) acts) = .ok acts' ↔
      (∀ f ∈ funcs, check f = .ok ()) ∧ acts' = funcs.foldl step acts := by
  induction funcs generalizing acts with
  | nil => simp [pure, Except.pure, eq_comm]
  | cons func funcs ih =>
      rw [List.foldlM_cons, except_bind_eq_ok]
      simp only [except_bind_eq_ok, ih, List.forall_mem_cons, List.foldl_cons]
      constructor
      · rintro ⟨_, ⟨_, hcheck, hstep⟩, hrest, rfl⟩
        obtain rfl := Except.ok.inj hstep
        exact ⟨⟨hcheck, hrest⟩, rfl⟩
      · rintro ⟨⟨hcheck, hrest⟩, rfl⟩
        exact ⟨_, ⟨(), hcheck, rfl⟩, hrest, rfl⟩

lemma stageDeviceList_eq_ok {kindLabel : String} {cfgs : Option (List PciDeviceConfig)}
    {staged : List (String × PciFunction)} {acts : PendingActions} :
    stageDeviceList vmName kindLabel cfgs inv (actionsOf vmName staged) = .ok acts ↔
      (inv.RequiredPresent (deviceList cfgs) ∧
        ∀ dev ∈ deviceList cfgs, dev.level ≠ some .Forbidden) ∧
      acts = actionsOf vmName
        (staged ++ (inv.resolved (deviceList cfgs)).map (Prod.mk kindLabel)) := by
  rw [stageDeviceList]
  cases hveto : (deviceList cfgs).find? fun dev => decide (dev.level = some .Forbidden) with
  | some dev =>
      have hmem : dev ∈ deviceList cfgs := List.mem_of_find?_eq_some hveto
      have hlevel : dev.level = some .Forbidden := by simpa using List.find?_some hveto
      refine iff_of_false nofun ?_
      rintro ⟨⟨-, hno⟩, -⟩
      exact hno dev hmem hlevel
  | none =>
      have hno : ∀ dev ∈ deviceList cfgs, dev.level ≠ some .Forbidden := by simpa using hveto
      simp only [except_bind_eq_ok, resolveConfigured_eq_ok]
      constructor
      · rintro ⟨_, ⟨hreq, rfl⟩, hacts⟩
        obtain rfl := Except.ok.inj hacts
        exact ⟨⟨hreq, hno⟩, foldl_appendActions⟩
      · rintro ⟨⟨hreq, -⟩, rfl⟩
        exact ⟨_, ⟨hreq, rfl⟩, congrArg Except.ok foldl_appendActions⟩

lemma buildGpuActions_eq_ok {acts : PendingActions} :
    buildGpuActions vmName cfg inv {} = .ok acts ↔
      (inv.RequiredPresent (deviceList cfg.devices.gpu) ∧
        ∀ f ∈ inv.resolved (deviceList cfg.devices.gpu), checkGpuFunction vmName inv f = .ok ()) ∧
      acts = actionsOf vmName
        ((inv.resolved (deviceList cfg.devices.gpu)).map (Prod.mk "GPU")) := by
  have hstart : ({} : PendingActions) = actionsOf vmName [] := rfl
  rw [buildGpuActions, except_bind_eq_ok, hstart]
  simp only [resolveConfigured_eq_ok, foldlM_checked, foldl_appendActions, List.nil_append]
  constructor
  · rintro ⟨_, ⟨hreq, rfl⟩, hcheck, rfl⟩
    exact ⟨⟨hreq, hcheck⟩, rfl⟩
  · rintro ⟨⟨hreq, hcheck⟩, rfl⟩
    exact ⟨_, ⟨hreq, rfl⟩, hcheck, rfl⟩

/-- **A plan is built exactly when it is plannable, and then it stages the present functions of
the four lists**: all unbinds first, then all binds. -/
theorem buildPlanForVm_eq_ok {plan : VfioPlan} :
    buildPlanForVm vmName cfg inv = .ok plan ↔
      Plannable vmName cfg inv ∧
        plan = { vmName, actions := (actionsOf vmName (stagedFunctions cfg inv)).unbinds ++
          (actionsOf vmName (stagedFunctions cfg inv)).binds } := by
  rw [buildPlanForVm]
  simp only [buildNonGpuActions, except_bind_eq_ok, buildGpuActions_eq_ok]
  constructor
  · rintro ⟨_, ⟨⟨hgpu, hcheck⟩, rfl⟩, acts, ⟨_, hnvme, _, hnic, husb⟩, hplan⟩
    obtain ⟨⟨hreq, hno⟩, rfl⟩ := stageDeviceList_eq_ok.mp hnvme
    obtain ⟨⟨hreq', hno'⟩, rfl⟩ := stageDeviceList_eq_ok.mp hnic
    obtain ⟨⟨hreq'', hno''⟩, rfl⟩ := stageDeviceList_eq_ok.mp husb
    refine ⟨⟨?_, hcheck, ?_⟩, (Except.ok.inj hplan).symm⟩
    · simpa [DevicesConfig.lists] using ⟨hgpu, hreq, hreq', hreq''⟩
    · simpa [DevicesConfig.lists] using ⟨hno, hno', hno''⟩
  · rintro ⟨⟨hreq, hcheck, hno⟩, rfl⟩
    simp only [DevicesConfig.lists, List.tail_cons, List.forall_mem_cons] at hreq hno
    obtain ⟨hgpu, hnvme, hnic, husb, -⟩ := hreq
    obtain ⟨hno, hno', hno'', -⟩ := hno
    exact ⟨_, ⟨⟨hgpu, hcheck⟩, rfl⟩, _,
      ⟨_, stageDeviceList_eq_ok.mpr ⟨⟨hnvme, hno⟩, rfl⟩,
        _, stageDeviceList_eq_ok.mpr ⟨⟨hnic, hno'⟩, rfl⟩,
        stageDeviceList_eq_ok.mpr ⟨⟨husb, hno''⟩, rfl⟩⟩, rfl⟩

/-! ## Display controllers -/

/-- A function with a driver that staging would take from it. -/
def PciFunction.NeedsUnbind (f : PciFunction) : Prop :=
  ∃ driver, f.driver = some driver ∧ driver ≠ "vfio-pci"

lemma unbindAction?_eq_some {kindLabel : String} {func : PciFunction} {action : VfioAction}
    (h : unbindAction? vmName kindLabel func = some action) :
    action.bdf = func.bdf ∧ action.kind = .UnbindFromCurrentDriver ∧ func.NeedsUnbind := by
  rw [unbindAction?] at h
  split at h
  · simp at h
  · rename_i driver hdriver
    split_ifs at h with hvfio
    obtain rfl := Option.some.inj h
    exact ⟨rfl, rfl, driver, hdriver, hvfio⟩

lemma unbindAction?_isSome (vmName kindLabel : String) {func : PciFunction}
    (h : func.NeedsUnbind) :
    ∃ action, unbindAction? vmName kindLabel func = some action := by
  obtain ⟨driver, hdriver, hvfio⟩ := h
  rw [unbindAction?, hdriver]
  exact ⟨_, if_neg hvfio⟩

/-- The staged functions are those that some configured device resolves to. -/
lemma exists_staged_iff {f : PciFunction} :
    (∃ label, (label, f) ∈ stagedFunctions cfg inv) ↔
      ∃ dev ∈ cfg.configured, inv.findByBdf dev.pciAddress = some f := by
  simp only [stagedFunctions, List.mem_append, List.mem_map, Prod.mk.injEq, mem_resolved,
    VmConfig.configured, DevicesConfig.lists, List.flatten_cons, List.flatten_nil, List.append_nil]
  constructor
  · rintro ⟨label, ((⟨g, ⟨dev, hdev, hg⟩, -, rfl⟩ | ⟨g, ⟨dev, hdev, hg⟩, -, rfl⟩) |
      ⟨g, ⟨dev, hdev, hg⟩, -, rfl⟩) | ⟨g, ⟨dev, hdev, hg⟩, -, rfl⟩⟩
    · exact ⟨dev, Or.inl hdev, hg⟩
    · exact ⟨dev, Or.inr (Or.inl hdev), hg⟩
    · exact ⟨dev, Or.inr (Or.inr (Or.inl hdev)), hg⟩
    · exact ⟨dev, Or.inr (Or.inr (Or.inr hdev)), hg⟩
  · rintro ⟨dev, hdev | hdev | hdev | hdev, hg⟩
    · exact ⟨"GPU", Or.inl (Or.inl (Or.inl ⟨f, ⟨dev, hdev, hg⟩, rfl, rfl⟩))⟩
    · exact ⟨"NVMe", Or.inl (Or.inl (Or.inr ⟨f, ⟨dev, hdev, hg⟩, rfl, rfl⟩))⟩
    · exact ⟨"NIC", Or.inl (Or.inr ⟨f, ⟨dev, hdev, hg⟩, rfl, rfl⟩)⟩
    · exact ⟨"USB", Or.inr ⟨f, ⟨dev, hdev, hg⟩, rfl, rfl⟩⟩

/-- The unbind actions of a plan name the configured functions that have a driver to lose. -/
lemma exists_unbind_iff {plan : VfioPlan} (h : buildPlanForVm vmName cfg inv = .ok plan)
    {P : String → Prop} :
    (∃ action ∈ plan.actions, action.kind = .UnbindFromCurrentDriver ∧ P action.bdf) ↔
      ∃ dev ∈ cfg.configured, ∃ f, inv.findByBdf dev.pciAddress = some f ∧ f.NeedsUnbind ∧
        P f.bdf := by
  obtain ⟨-, rfl⟩ := buildPlanForVm_eq_ok.mp h
  simp only [actionsOf, List.mem_append, List.mem_filterMap, List.mem_map]
  constructor
  · rintro ⟨action, ⟨⟨label, f⟩, hs, hact⟩ | ⟨s, -, rfl⟩, hkind, hP⟩
    · obtain ⟨hbdf, -, hneeds⟩ := unbindAction?_eq_some hact
      obtain ⟨dev, hdev, hf⟩ := exists_staged_iff.mp ⟨label, hs⟩
      exact ⟨dev, hdev, f, hf, hneeds, hbdf ▸ hP⟩
    · cases hkind
  · rintro ⟨dev, hdev, f, hf, hneeds, hP⟩
    obtain ⟨label, hs⟩ := exists_staged_iff.mpr ⟨dev, hdev, hf⟩
    obtain ⟨action, hact⟩ := unbindAction?_isSome vmName label hneeds
    obtain ⟨hbdf, hkind, -⟩ := unbindAction?_eq_some hact
    exact ⟨action, Or.inl ⟨(label, f), hs, hact⟩, hkind, hbdf ▸ hP⟩

/-- The gate holds on its own list: in an inventory with distinct addresses, a display controller
of the GPU list is planned for only if it is bound to vfio-pci already. -/
theorem gpuList_display_vfio (hinv : inv.DistinctBdfs) (h : Plannable vmName cfg inv)
    {f : PciFunction} (hf : f ∈ inv.resolved (deviceList cfg.devices.gpu))
    (hdisp : f.isDisplayController = true) : f.driver = some "vfio-pci" := by
  have hcheck := h.gpuChecked f hf
  obtain ⟨dev, -, hfind⟩ := mem_resolved.mp hf
  have hfmem : f ∈ inv.functions := (mem_of_findByBdf hfind).1
  simp only [checkGpuFunction, hdisp, if_true] at hcheck
  split at hcheck
  · cases hcheck
  · rename_i assessment hlast
    obtain ⟨hmem, hbdf⟩ := mem_of_lastOn hlast
    obtain ⟨gpu, hgpu, rfl⟩ := List.mem_map.mp hmem
    have hgmem : gpu ∈ inv.functions := List.mem_of_mem_filter hgpu
    obtain rfl : gpu = f := List.inj_on_of_nodup_map hinv hgmem hfmem hbdf
    split at hcheck
    · exact feasibility_eq_safe.mp ‹_›
    · cases hcheck
    · cases hcheck

/-- **When a plan leaves the display controllers alone.**  A plan that is built unbinds no display
controller exactly when no configured device, of whichever list, resolves to a display controller
that has a driver other than vfio-pci. -/
theorem unbinds_no_display_iff (vmName : String) (cfg : VmConfig) (inv : PciInventory)
    (plan : VfioPlan) (h : buildPlanForVm vmName cfg inv = .ok plan) :
    (∀ action ∈ plan.actions, action.kind = .UnbindFromCurrentDriver →
        ∀ f, inv.findByBdf action.bdf = some f → f.isDisplayController = false) ↔
      ∀ dev ∈ cfg.configured, ∀ f, inv.findByBdf dev.pciAddress = some f →
        f.isDisplayController = true → ¬ f.NeedsUnbind := by
  have hex := exists_unbind_iff h (P := fun bdf =>
    ∃ f, inv.findByBdf bdf = some f ∧ f.isDisplayController = true)
  constructor
  · intro hno dev hdev f hf hdisp hneeds
    obtain ⟨action, hmem, hkind, g, hg, hgdisp⟩ :=
      hex.mpr ⟨dev, hdev, f, hf, hneeds, f, findByBdf_bdf hf, hdisp⟩
    exact absurd (hno action hmem hkind g hg) (by simp [hgdisp])
  · intro hno action hmem hkind f hf
    by_contra hdisp
    rw [Bool.not_eq_false] at hdisp
    obtain ⟨dev, hdev, g, hg, hneeds, g', hg', hgdisp⟩ := hex.mp ⟨action, hmem, hkind, f, hf, hdisp⟩
    obtain rfl : g = g' := Option.some.inj ((findByBdf_bdf hg).symm.trans hg')
    exact hno dev hdev g hg hgdisp hneeds

/-- A GPU that drives the host's display, listed as a network controller. -/
def misfiledGpuConfig : VmConfig :=
  minimalVmConfig { nic := some [{ pciAddress := "0000:01:00.0" }] } {}

def hostGpuInventory : PciInventory :=
  ⟨[makeGpu "0000:01:00.0" (some "amdgpu") (some 10) (some 0)]⟩

def misfiledGpuPlan : VfioPlan where
  vmName := "testvm"
  actions := (actionsOf "testvm" (stagedFunctions misfiledGpuConfig hostGpuInventory)).unbinds ++
    (actionsOf "testvm" (stagedFunctions misfiledGpuConfig hostGpuInventory)).binds

lemma buildPlanForVm_misfiledGpu :
    buildPlanForVm "testvm" misfiledGpuConfig hostGpuInventory = .ok misfiledGpuPlan := by
  decide

theorem unbinds_no_display_iff_misfiledGpu :
    (∀ action ∈ misfiledGpuPlan.actions, action.kind = .UnbindFromCurrentDriver →
        ∀ f, hostGpuInventory.findByBdf action.bdf = some f → f.isDisplayController = false) ↔
      ∀ dev ∈ misfiledGpuConfig.configured, ∀ f,
        hostGpuInventory.findByBdf dev.pciAddress = some f →
          f.isDisplayController = true → ¬ f.NeedsUnbind :=
  unbinds_no_display_iff _ _ _ _ buildPlanForVm_misfiledGpu

/-- The planner unbinds the host's GPU when it is listed as a network controller. -/
theorem plan_unbinds_hostGpu :
    ¬ ∀ vmName cfg inv plan, buildPlanForVm vmName cfg inv = .ok plan →
      ∀ action ∈ plan.actions, action.kind = .UnbindFromCurrentDriver →
        ∀ f, inv.findByBdf action.bdf = some f → f.isDisplayController = false := by
  intro h
  have hplan := h _ _ _ _ buildPlanForVm_misfiledGpu
  revert hplan
  decide

end Chalybs
