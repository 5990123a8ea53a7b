import Chalybs.Vfio.Acceptance
import Chalybs.Vfio.Simulation

/-!
# The level `Forbidden`

A device that is marked `Forbidden` is not to be passed through at all.  Two places look at the
level: the gate, which blocks in `Enforce` mode only and looks levels up in a map that is filled
from the list, and the planner, which looks at three of the four lists.

* `forbidden_unstaged_iff` — when no device that is explicitly forbidden is staged.
* `forbidden_refused_iff` — when the gate refuses every forbidden device in `Enforce` mode.
-/

namespace Chalybs

open Foundation

variable {vmName : String} {cfg : VmConfig} {inv : PciInventory}

/-! ## Staging -/

/-- The two checks that staging makes before it writes anything. -/
def stagePlan (vmName : String) (cfg : VmConfig) (inv : PciInventory) :
    Except ChalybsError VfioPlan := do
  evaluateIsolationForVm vmName cfg inv
  buildPlanForVm vmName cfg inv

/-- Both checks pass when the planner's conditions are met and the gate, if it blocks, has no
reason to refuse. -/
lemma stagePlan_eq_ok {plan : VfioPlan} :
    stagePlan vmName cfg inv = .ok plan ↔
      ¬ (cfg.isolation.mode = .Enforce ∧ GateRefusal cfg inv) ∧
        buildPlanForVm vmName cfg inv = .ok plan := by
  rw [stagePlan, except_seq_eq_ok, evaluateIsolationForVm_iff]
  refine and_congr_left fun hplan => ?_
  have hreq : inv.RequiredPresent cfg.configured :=
    (plannable_iff_passes.mp (buildPlanForVm_eq_ok.mp hplan).1).requiredPresent
  cases cfg.isolation.mode with
  | Disabled => simp
  | Audit => simp [hreq]
  | Enforce => simp [hreq]

/-- A plan has no action for a device that is not in the inventory. -/
lemma action_ne_of_absent {plan : VfioPlan} (h : buildPlanForVm vmName cfg inv = .ok plan)
    {bdf : String} (habsent : inv.findByBdf bdf = none) : ∀ a ∈ plan.actions, a.bdf ≠ bdf := by
  rintro a ha rfl
  obtain ⟨f, hf⟩ := known_of_buildPlanForVm h a ha
  simp [habsent] at hf

/-- A plan binds every configured device that is in the inventory. -/
lemma exists_action_of_present {plan : VfioPlan} (h : buildPlanForVm vmName cfg inv = .ok plan)
    {dev : PciDeviceConfig} (hdev : dev ∈ cfg.configured) {f : PciFunction}
    (hf : inv.findByBdf dev.pciAddress = some f) : ∃ a ∈ plan.actions, a.bdf = dev.pciAddress := by
  obtain ⟨-, rfl⟩ := buildPlanForVm_eq_ok.mp h
  obtain ⟨label, hs⟩ := exists_staged_iff.mpr ⟨dev, hdev, hf⟩
  refine ⟨bindAction vmName label f, List.mem_append_right _ ?_, (mem_of_findByBdf hf).2⟩
  exact List.mem_map.mpr ⟨(label, f), hs, rfl⟩

/-- **When no explicitly forbidden device is staged.**  Staging produces no action on a device with
the level `Forbidden` of its own exactly when every such entry of the GPU list is absent from the
inventory, or staging is refused anyway: the planner's conditions are not met, or in `Enforce` mode
the gate has a reason to refuse. -/
theorem forbidden_unstaged_iff (vmName : String) (cfg : VmConfig) (inv : PciInventory) :
    (∀ plan, stagePlan vmName cfg inv = .ok plan →
      ∀ dev ∈ cfg.configured, dev.level = some .Forbidden →
        ∀ a ∈ plan.actions, a.bdf ≠ dev.pciAddress) ↔
      (∀ dev ∈ deviceList cfg.devices.gpu, dev.level = some .Forbidden →
          inv.findByBdf dev.pciAddress = none) ∨
        ¬ PlanPasses cfg inv ∨ (cfg.isolation.mode = .Enforce ∧ GateRefusal cfg inv) := by
  constructor
  · intro h
    by_contra hno
    push Not at hno
    obtain ⟨⟨dev, hdev, hlevel, hpresent⟩, hpasses, hgate⟩ := hno
    obtain ⟨f, hf⟩ := Option.ne_none_iff_exists'.mp hpresent
    have hplannable : Plannable vmName cfg inv := plannable_iff_passes.mpr hpasses
    have hplan := buildPlanForVm_eq_ok.mpr ⟨hplannable, rfl⟩
    have hconf : dev ∈ cfg.configured := by
      simp [VmConfig.configured, DevicesConfig.lists, hdev]
    obtain ⟨a, ha, hbdf⟩ := exists_action_of_present hplan hconf hf
    have hstaged := stagePlan_eq_ok.mpr ⟨fun hboth => hgate hboth.1 hboth.2, hplan⟩
    exact h _ hstaged dev hconf hlevel a ha hbdf
  · intro hcond plan hstaged dev hdev hlevel
    obtain ⟨hgate, hplan⟩ := stagePlan_eq_ok.mp hstaged
    have hpasses := plannable_iff_passes.mp (buildPlanForVm_eq_ok.mp hplan).1
    rcases hcond with habsent | hfails | hrefused
    · -- the planner itself vetoes the entry in the other three lists
      have hgpu : dev ∈ deviceList cfg.devices.gpu := by
        have hno := hpasses.notForbidden
        simp only [VmConfig.configured, DevicesConfig.lists, List.flatten_cons, List.flatten_nil,
          List.append_nil, List.mem_append] at hdev
        rcases hdev with hdev | hdev | hdev | hdev
        · exact hdev
        · exact absurd hlevel (hno _ (by simp) dev hdev)
        · exact absurd hlevel (hno _ (by simp) dev hdev)
        · exact absurd hlevel (hno _ (by simp) dev hdev)
      exact action_ne_of_absent hplan (habsent dev hgpu hlevel)
    · exact absurd hpasses hfails
    · exact absurd hrefused hgate

/-- A GPU that is bound to vfio-pci already and is forbidden to the VM. -/
def forbiddenGpuConfig (mode : IsolationMode) : VmConfig :=
  minimalVmConfig
    { gpu := some [{ pciAddress := "0000:01:00.0", level := some .Forbidden }] } { mode }

def vfioGpuInventory : PciInventory :=
  ⟨[makeGpu "0000:01:00.0" (some "vfio-pci") (some 1) (some 0)]⟩

/-- Outside the `Enforce` mode a forbidden GPU is staged. -/
theorem forbidden_gpu_staged :
    ¬ ∀ vmName cfg inv plan, stagePlan vmName cfg inv = .ok plan →
      ∀ dev ∈ cfg.configured, dev.level = some .Forbidden →
        ∀ a ∈ plan.actions, a.bdf ≠ dev.pciAddress := by
  intro h
  have hplan : stagePlan "testvm" (forbiddenGpuConfig .Audit) vfioGpuInventory = .ok
      { vmName := "testvm"
        actions := [bindAction "testvm" "GPU"
          (makeGpu "0000:01:00.0" (some "vfio-pci") (some 1) (some 0))] } := by
    decide
  exact h _ _ _ _ hplan { pciAddress := "0000:01:00.0", level := some .Forbidden } (by decide)
    rfl _ (List.mem_singleton.mpr rfl) rfl

/-! ## The gate -/

/-- Some configured device that is in the inventory has the effective level `Forbidden`. -/
def ForbiddenPresent (cfg : VmConfig) (inv : PciInventory) : Prop :=
  ∃ dev ∈ cfg.configured, inv.findByBdf dev.pciAddress ≠ none ∧
    dev.effectiveLevel cfg.isolation = .Forbidden

/-- In `Enforce` mode the gate stops with an error exactly when a required device is missing or
there is a reason to refuse. -/
lemma evaluateIsolationForVm_eq_error (hmode : cfg.isolation.mode = .Enforce) :
    (∃ e, evaluateIsolationForVm vmName cfg inv = .error e) ↔
      ¬ inv.RequiredPresent cfg.configured ∨ GateRefusal cfg inv := by
  have hok : evaluateIsolationForVm vmName cfg inv = .ok () ↔ _ := evaluateIsolationForVm_iff
  rw [hmode] at hok
  cases hres : evaluateIsolationForVm vmName cfg inv with
  | ok a =>
      obtain ⟨hreq, hno⟩ := hok.mp hres
      simp [hreq, hno]
  | error e =>
      rw [hres] at hok
      simp only [reduceCtorEq, false_iff, not_and_or, not_not] at hok
      simpa using hok

/-- **When the gate refuses every forbidden device.**  In `Enforce` mode, a forbidden device that is
present leads to an error exactly when no later entry of its list has overridden the level of such
a device, or the configuration is refused anyway: a required device is missing, or there is another
reason to refuse. -/
theorem forbidden_refused_iff (vmName : String) (cfg : VmConfig) (inv : PciInventory)
    (hmode : cfg.isolation.mode = .Enforce) :
    (ForbiddenPresent cfg inv → ∃ e, evaluateIsolationForVm vmName cfg inv = .error e) ↔
      (∀ dev ∈ cfg.configured, inv.findByBdf dev.pciAddress ≠ none →
          dev.effectiveLevel cfg.isolation = .Forbidden →
            cfg.LastLevel .Forbidden dev.pciAddress) ∨
        ¬ inv.RequiredPresent cfg.configured ∨ GateRefusal cfg inv := by
  rw [evaluateIsolationForVm_eq_error hmode]
  constructor
  · intro h
    by_cases hforbidden : ForbiddenPresent cfg inv
    · exact Or.inr (h hforbidden)
    · left
      intro dev hdev hpresent hlevel
      exact absurd ⟨dev, hdev, hpresent, hlevel⟩ hforbidden
  · rintro (hlast | hrefused) ⟨dev, hdev, hpresent, hlevel⟩
    · -- the gate sees the level of the last entry
      obtain ⟨f, hf⟩ := Option.ne_none_iff_exists'.mp hpresent
      have hbdf : f.bdf = dev.pciAddress := (mem_of_findByBdf hf).2
      have hcounted := hlast dev hdev hpresent hlevel
      rw [← hbdf] at hcounted
      exact Or.inr (.forbiddenDevice ⟨f, findByBdf_bdf hf, hcounted⟩)
    · exact hrefused

theorem forbidden_refused_iff_gpu :
    (ForbiddenPresent (forbiddenGpuConfig .Enforce) vfioGpuInventory →
        ∃ e, evaluateIsolationForVm "testvm" (forbiddenGpuConfig .Enforce) vfioGpuInventory =
          .error e) ↔
      (∀ dev ∈ (forbiddenGpuConfig .Enforce).configured,
          vfioGpuInventory.findByBdf dev.pciAddress ≠ none →
            dev.effectiveLevel (forbiddenGpuConfig .Enforce).isolation = .Forbidden →
              (forbiddenGpuConfig .Enforce).LastLevel .Forbidden dev.pciAddress) ∨
        ¬ vfioGpuInventory.RequiredPresent (forbiddenGpuConfig .Enforce).configured ∨
          GateRefusal (forbiddenGpuConfig .Enforce) vfioGpuInventory :=
  forbidden_refused_iff _ _ _ rfl

/-- The same GPU with a second entry that allows it. -/
def repeatedGpuConfig : VmConfig :=
  minimalVmConfig
    { gpu := some [{ pciAddress := "0000:01:00.0", level := some .Forbidden },
        { pciAddress := "0000:01:00.0", level := some .Dedicated }] } { mode := .Enforce }

/-- A second entry for the same device lifts the veto. -/
theorem repeated_entry_lifts_veto :
    ¬ ∀ vmName cfg inv, cfg.isolation.mode = .Enforce → ForbiddenPresent cfg inv →
      ∃ e, evaluateIsolationForVm vmName cfg inv = .error e := by
  intro h
  have hpresent : ForbiddenPresent repeatedGpuConfig vfioGpuInventory :=
    ⟨{ pciAddress := "0000:01:00.0", level := some .Forbidden }, by decide, by decide, rfl⟩
  obtain ⟨e, he⟩ := h "testvm" repeatedGpuConfig vfioGpuInventory rfl hpresent
  have haccepted : evaluateIsolationForVm "testvm" repeatedGpuConfig vfioGpuInventory = .ok () := by
    decide
  rw [haccepted] at he
  cases he

end Chalybs
