import Chalybs.Core.Config
import Chalybs.Foundation.Grouping
import Chalybs.Pci.Function

/-!
# The PCI inventory

`PciInventory` (`pci.rs`) is the list of functions that a scan found.  This module has the
lookups that policy and planning make on it, and the simulation of unbinding a GPU:

* `resolveConfigured` with `resolveConfigured_eq_ok` — a device list resolves exactly when every
  required entry is present, and then to the entries that are;
* `isBdfInGpuComplex` — whether an address shares a slot with a display controller;
* `assessGpuUnbindSafety` with `feasibility_eq_safe` — unbinding a GPU is found safe exactly when
  nothing has to be unbound.
-/

namespace Chalybs

open Foundation

/-- `PciInventory`. -/
structure PciInventory where
  functions : List PciFunction
  deriving DecidableEq, Repr

/-- No two functions of the inventory have the same address. -/
def PciInventory.DistinctBdfs (inv : PciInventory) : Prop :=
  (inv.functions.map PciFunction.bdf).Nodup

instance (inv : PciInventory) : Decidable inv.DistinctBdfs :=
  inferInstanceAs (Decidable (List.Nodup _))

namespace PciInventory

variable (inv : PciInventory)

def gpus : List PciFunction := inv.functions.filter PciFunction.isDisplayController

/-- `by_iommu_group`: the functions that have a group, by group. -/
def byIommuGroup : List (UInt32 × List PciFunction) :=
  groupOn PciFunction.iommuGroup inv.functions

def findByBdf (bdf : String) : Option PciFunction :=
  inv.functions.find? fun f => decide (f.bdf = bdf)

/-! ## Configured devices -/

/-- `resolve_configured`: the functions of the configured devices that are present; a missing
device is an error only if it is required. -/
def resolveConfigured : List PciDeviceConfig → Except ChalybsError (List PciFunction)
  | [] => .ok []
  | dev :: devs =>
      match inv.findByBdf dev.pciAddress with
      | some func => (resolveConfigured devs).map fun funcs => func :: funcs
      | none =>
          if dev.required then
            .error (.Vfio s!"required PCI device {dev.pciAddress} not present in host inventory")
          else resolveConfigured devs

/-- The configured devices that are present. -/
def resolved (devs : List PciDeviceConfig) : List PciFunction :=
  devs.filterMap fun dev => inv.findByBdf dev.pciAddress

/-- Every required device of the list is present. -/
def RequiredPresent (devs : List PciDeviceConfig) : Prop :=
  ∀ dev ∈ devs, dev.required = true → ∃ f ∈ inv.functions, f.bdf = dev.pciAddress

end PciInventory

variable {inv : PciInventory} {devs : List PciDeviceConfig} {f : PciFunction} {bdf : String}

lemma mem_of_findByBdf (h : inv.findByBdf bdf = some f) : f ∈ inv.functions ∧ f.bdf = bdf :=
  ⟨List.mem_of_find?_eq_some h, by simpa using List.find?_some h⟩

lemma findByBdf_isSome : (inv.findByBdf bdf).isSome ↔ ∃ f ∈ inv.functions, f.bdf = bdf := by
  rw [PciInventory.findByBdf, List.find?_isSome]
  simp

lemma findByBdf_eq_none : inv.findByBdf bdf = none ↔ ∀ f ∈ inv.functions, f.bdf ≠ bdf := by
  simp [PciInventory.findByBdf]

/-- In an inventory with distinct addresses the lookup finds the function with the address. -/
lemma findByBdf_eq_some (h : inv.DistinctBdfs) :
    inv.findByBdf bdf = some f ↔ f ∈ inv.functions ∧ f.bdf = bdf :=
  find?_key_eq_some h

/-- Looking the found function up again finds it again. -/
lemma findByBdf_bdf (h : inv.findByBdf bdf = some f) : inv.findByBdf f.bdf = some f := by
  rw [(mem_of_findByBdf h).2, h]

lemma mem_resolved :
    f ∈ inv.resolved devs ↔ ∃ dev ∈ devs, inv.findByBdf dev.pciAddress = some f := by
  rw [PciInventory.resolved, List.mem_filterMap]

/-- **Resolution.**  A list resolves exactly when its required devices are present, and then to
the devices that are present. -/
theorem resolveConfigured_eq_ok {funcs : List PciFunction} :
    inv.resolveConfigured devs = .ok funcs ↔
      inv.RequiredPresent devs ∧ funcs = inv.resolved devs := by
  induction devs generalizing funcs with
  | nil =>
      constructor
      · intro h
        exact ⟨by simp [PciInventory.RequiredPresent], (Except.ok.inj h).symm⟩
      · rintro ⟨-, rfl⟩
        rfl
  | cons dev devs ih =>
      rw [PciInventory.resolveConfigured, PciInventory.RequiredPresent, List.forall_mem_cons,
        ← PciInventory.RequiredPresent, PciInventory.resolved, List.filterMap_cons,
        ← PciInventory.resolved]
      cases hfind : inv.findByBdf dev.pciAddress with
      | some func =>
          have hpresent := mem_of_findByBdf hfind
          constructor
          · intro h
            cases hrest : inv.resolveConfigured devs with
            | error e => simp [hrest, Except.map] at h
            | ok rest =>
                simp only [hrest, Except.map, Except.ok.injEq] at h
                obtain ⟨hreq, rfl⟩ := ih.mp hrest
                exact ⟨⟨fun _ => ⟨func, hpresent⟩, hreq⟩, h.symm⟩
          · rintro ⟨⟨-, hreq⟩, rfl⟩
            rw [ih.mpr ⟨hreq, rfl⟩]
            rfl
      | none =>
          have habsent : ¬ ∃ f ∈ inv.functions, f.bdf = dev.pciAddress := by
            rintro ⟨f, hf, hbdf⟩
            exact findByBdf_eq_none.mp hfind f hf hbdf
          cases hreq : dev.required with
          | true => simp [habsent]
          | false => simp [ih]

/-- The resolution of a list that resolves. -/
lemma resolveConfigured_ok {funcs : List PciFunction} (h : inv.resolveConfigured devs = .ok funcs) :
    funcs = inv.resolved devs :=
  (resolveConfigured_eq_ok.mp h).2

/-! ## GPU complexes -/

/-- `is_bdf_in_gpu_complex`: the address is in the inventory and some function of its slot is a
display controller. -/
def PciInventory.isBdfInGpuComplex (inv : PciInventory) (bdf : String) : Bool :=
  match parseBdfSlot bdf with
  | none => false
  | some key =>
      inv.functions.any (fun f => decide (f.bdf = bdf))
        && inv.functions.any fun f => decide (f.slotKey = some key) && f.isDisplayController

/-! ## Unbinding a GPU, simulated -/

/-- `GpuUnbindFeasibility`. -/
inductive GpuUnbindFeasibility
  | Safe
  | Risky (reason : String)
  | Unsafe (reason : String)
  deriving DecidableEq, Repr

/-- `GpuUnbindAssessment`. -/
structure GpuUnbindAssessment where
  bdf : String
  currentDriver : Option String
  safetyClass : GpuSafetyClass
  iommuGroup : Option UInt32
  groupMembers : List String
  feasibility : GpuUnbindFeasibility
  deriving DecidableEq, Repr

/-- Whether a member of the group speaks against calling the unbind of a vfio-ready `gpu` safe. -/
def problematicMember (gpu member : PciFunction) : Bool :=
  if member.bdf = gpu.bdf then false
  else if !member.isDisplayController then true
  else
    match member.gpuDriverKind with
    | some .Vfio | some .Unbound | none => false
    | some _ => true

/-- `evaluate_gpu_unbind_feasibility`. -/
def evaluateGpuUnbindFeasibility (gpu : PciFunction) (safety : GpuSafetyClass)
    (groupMembers : List PciFunction) : GpuUnbindFeasibility :=
  match safety with
  | .VfioReady =>
      let problematic := (groupMembers.filter (problematicMember gpu)).map PciFunction.bdf
      if problematic.isEmpty then .Safe
      else .Risky ("GPU shares IOMMU group with other non-vfio or non-GPU devices: "
        ++ joinWith ", " problematic)
  | .HostOwned =>
      .Risky "GPU appears host-owned (bound to graphics driver); unbinding may disrupt host display"
  | .Unknown =>
      .Risky
        "GPU driver state is unknown or unbound; operator review required before unbinding"

/-- One iteration of `assess_gpu_unbind_safety`. -/
def PciInventory.assessGpu (inv : PciInventory) (gpu : PciFunction) : GpuUnbindAssessment :=
  let safety := gpu.gpuSafetyClass.getD .Unknown
  let members? := gpu.iommuGroup.bind (findGroup inv.byIommuGroup)
  let feasibility :=
    if gpu.driver = some "vfio-pci" then .Safe
    else
      match gpu.iommuGroup, members? with
      | none, _ => .Unsafe "GPU has no IOMMU group; cannot safely isolate for passthrough"
      | some _, none => .Risky "IOMMU group not found in inventory; treating as risky"
      | some _, some members => evaluateGpuUnbindFeasibility gpu safety members
  { bdf := gpu.bdf
    currentDriver := gpu.driver
    safetyClass := safety
    iommuGroup := gpu.iommuGroup
    groupMembers := ((members?.getD []).filter fun m => decide (m.bdf ≠ gpu.bdf)).map
      PciFunction.bdf
    feasibility }

/-- `assess_gpu_unbind_safety`. -/
def PciInventory.assessGpuUnbindSafety (inv : PciInventory) : List GpuUnbindAssessment :=
  inv.gpus.map inv.assessGpu

/-- **Unbinding a GPU is assessed as safe exactly when it is bound to vfio-pci already**, so that
nothing has to be unbound. -/
theorem feasibility_eq_safe {gpu : PciFunction} :
    (inv.assessGpu gpu).feasibility = .Safe ↔ gpu.driver = some "vfio-pci" := by
  by_cases hvfio : gpu.driver = some "vfio-pci"
  · simp [PciInventory.assessGpu, hvfio]
  · have hsafety : gpu.gpuSafetyClass.getD .Unknown ≠ .VfioReady := by
      intro h
      cases hclass : gpu.gpuSafetyClass with
      | none => simp [hclass] at h
      | some c =>
          rw [hclass, Option.getD_some] at h
          exact hvfio (gpuSafetyClass_eq_vfioReady.mp (h ▸ hclass)).2
    simp only [PciInventory.assessGpu, hvfio, if_false, iff_false]
    split
    · simp
    · simp
    · cases hclass : gpu.gpuSafetyClass.getD .Unknown with
      | VfioReady => exact absurd hclass hsafety
      | HostOwned => simp [evaluateGpuUnbindFeasibility]
      | Unknown => simp [evaluateGpuUnbindFeasibility]

end Chalybs
