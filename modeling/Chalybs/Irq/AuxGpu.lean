import Chalybs.Irq.Worker

/-!
# Auxiliary functions of GPUs

`is_aux_gpu_function` (`irq/pin.rs`) counts the GPUs that are configured for the slot of a device.
It does not look whether the device is one of them, while the worker asks it about the devices of
all four lists.

* `GpuListed` — the device is configured as a GPU, however its address is spelled there.
* `AuxIsGpu` — only functions of GPUs are auxiliary, and no other device is skipped.
* `SharesGpuSlot` — another device in the slot of several GPUs.
* `auxIsGpu_iff` — for which devices the classification is right.
-/

namespace Chalybs

/-- The device is configured as a GPU.  Addresses are compared as they are parsed, so that their
spelling does not matter. -/
def GpuListed (cfg : VmConfig) (dev : PciDeviceConfig) : Prop :=
  ∃ bdf, parseBdfSlotAndFunc dev.pciAddress = some bdf ∧
    ∃ gpu ∈ deviceList cfg.devices.gpu, parseBdfSlotAndFunc gpu.pciAddress = some bdf

/-- The address has a non-zero function, and function 0 of its slot is configured as a GPU. -/
def BesidePrimaryGpu (cfg : VmConfig) (dev : PciDeviceConfig) : Prop :=
  ∃ slot func, parseBdfSlotAndFunc dev.pciAddress = some (slot, func) ∧ func ≠ 0 ∧
    ∃ gpu ∈ deviceList cfg.devices.gpu, parseBdfSlotAndFunc gpu.pciAddress = some (slot, 0)

/-- An auxiliary device is a GPU itself, beside one with function 0; and a device that is no GPU
is not skipped, but gets the work that its target CPUs make. -/
structure AuxIsGpu (cfg : VmConfig) (dev : PciDeviceConfig) : Prop where
  listed : isAuxGpuFunction dev cfg = true → GpuListed cfg dev ∧ BesidePrimaryGpu cfg dev
  kept : ¬ GpuListed cfg dev → isAuxGpuFunction dev cfg = false ∧
    ∀ sys vmCpus targetCpus, targetCpusForDevice sys vmCpus dev = .ok targetCpus →
      workItem sys cfg vmCpus dev = some { dev, targetCpus }

/-- The device is no GPU, and has a non-zero function in a slot with two GPUs or more, one of them
with function 0. -/
def SharesGpuSlot (cfg : VmConfig) (dev : PciDeviceConfig) : Prop :=
  ∃ slot func, parseBdfSlotAndFunc dev.pciAddress = some (slot, func) ∧ func ≠ 0 ∧
    let functions := gpuFunctionsInSlot cfg slot
    0 ∈ functions ∧ func ∉ functions ∧ 2 ≤ functions.length

section

variable {cfg : VmConfig} {dev : PciDeviceConfig} {slot : String} {func : ℕ}

/-- The functions of a slot are those of the GPUs that are configured. -/
lemma mem_gpuFunctionsInSlot :
    func ∈ gpuFunctionsInSlot cfg slot ↔ ∃ gpu ∈ deviceList cfg.devices.gpu,
      parseBdfSlotAndFunc gpu.pciAddress = some (slot, func) := by
  rw [gpuFunctionsInSlot, List.mem_filterMap]
  refine exists_congr fun gpu => and_congr_right fun _ => ?_
  cases parseBdfSlotAndFunc gpu.pciAddress with
  | none => simp
  | some bdf =>
      obtain ⟨gSlot, gFunc⟩ := bdf
      simp

lemma gpuListed_iff (hparse : parseBdfSlotAndFunc dev.pciAddress = some (slot, func)) :
    GpuListed cfg dev ↔ func ∈ gpuFunctionsInSlot cfg slot := by
  simp [GpuListed, hparse, mem_gpuFunctionsInSlot]

/-- **What is auxiliary**: a device with a non-zero function, in a slot with two GPUs or more, one
of them with function 0. -/
lemma isAuxGpuFunction_eq_true :
    isAuxGpuFunction dev cfg = true ↔
      ∃ slot func, parseBdfSlotAndFunc dev.pciAddress = some (slot, func) ∧ func ≠ 0 ∧
        0 ∈ gpuFunctionsInSlot cfg slot ∧ 2 ≤ (gpuFunctionsInSlot cfg slot).length := by
  rw [isAuxGpuFunction]
  cases parseBdfSlotAndFunc dev.pciAddress with
  | none => simp
  | some bdf =>
      obtain ⟨slot, func⟩ := bdf
      simp only [Bool.and_eq_true, decide_eq_true_eq, List.contains_iff_mem, Option.some.injEq,
        Prod.mk.injEq]
      constructor
      · rintro ⟨⟨hlength, hzero⟩, hfunc⟩
        exact ⟨slot, func, ⟨rfl, rfl⟩, hfunc, hzero, hlength⟩
      · rintro ⟨_, _, ⟨rfl, rfl⟩, hfunc, hzero, hlength⟩
        exact ⟨⟨hlength, hzero⟩, hfunc⟩

/-- A slot that is shared makes the device auxiliary, although it is no GPU. -/
lemma sharesGpuSlot_iff :
    SharesGpuSlot cfg dev ↔ isAuxGpuFunction dev cfg = true ∧ ¬ GpuListed cfg dev := by
  rw [isAuxGpuFunction_eq_true]
  constructor
  · rintro ⟨slot, func, hparse, hfunc, hzero, hnot, hlength⟩
    exact ⟨⟨slot, func, hparse, hfunc, hzero, hlength⟩, fun h => hnot ((gpuListed_iff hparse).mp h)⟩
  · rintro ⟨⟨slot, func, hparse, hfunc, hzero, hlength⟩, hnot⟩
    exact ⟨slot, func, hparse, hfunc, hzero, fun h => hnot ((gpuListed_iff hparse).mpr h), hlength⟩

/-- A device that is not auxiliary is skipped only for want of target CPUs. -/
lemma workItem_of_not_aux {sys : DeviceSysfs} {vmCpus targetCpus : List ℕ}
    (haux : isAuxGpuFunction dev cfg = false)
    (htarget : targetCpusForDevice sys vmCpus dev = .ok targetCpus) :
    workItem sys cfg vmCpus dev = some { dev, targetCpus } := by
  rw [workItem, haux, htarget]
  rfl

end

/-- **When only GPUs are auxiliary**: unless another device shares a slot with several of them. -/
theorem auxIsGpu_iff (cfg : VmConfig) (dev : PciDeviceConfig) :
    AuxIsGpu cfg dev ↔ ¬ SharesGpuSlot cfg dev := by
  rw [sharesGpuSlot_iff]
  constructor
  · rintro hright ⟨haux, hnot⟩
    exact hnot (hright.listed haux).1
  · intro hshares
    constructor
    case listed =>
      intro haux
      have hlisted : GpuListed cfg dev := by
        by_contra hnot
        exact hshares ⟨haux, hnot⟩
      obtain ⟨slot, func, hparse, hfunc, hzero, -⟩ := isAuxGpuFunction_eq_true.mp haux
      exact ⟨hlisted, slot, func, hparse, hfunc, mem_gpuFunctionsInSlot.mp hzero⟩
    case kept =>
      intro hnot
      have haux : isAuxGpuFunction dev cfg = false := by
        rw [← Bool.not_eq_true]
        exact fun haux => hshares ⟨haux, hnot⟩
      exact ⟨haux, fun _ _ _ => workItem_of_not_aux haux⟩

/-- A GPU with its audio function, and the USB controller on the same card. -/
def gpuAndUsbVm : VmConfig := minimalVmConfig
  { gpu := some [{ pciAddress := "0000:01:00.0" }, { pciAddress := "0000:01:00.1" }]
    usb := some [{ pciAddress := "0000:01:00.2" }] } {}

/-- The USB controller is taken for an auxiliary function of the GPU. -/
theorem usb_controller_skipped :
    (⟨"0000:01:00.2", true, none⟩ : PciDeviceConfig) ∈ collectDevices gpuAndUsbVm ∧
      ¬ AuxIsGpu gpuAndUsbVm ⟨"0000:01:00.2", true, none⟩ := by
  refine ⟨by decide, fun hright => ?_⟩
  have haux : isAuxGpuFunction ⟨"0000:01:00.2", true, none⟩ gpuAndUsbVm = true := by decide +kernel
  have hparse : parseBdfSlotAndFunc "0000:01:00.2" = some ("0000:01:00", 2) := by decide +kernel
  have hlisted := (gpuListed_iff hparse).mp (hright.listed haux).1
  exact absurd hlisted (by decide +kernel)

end Chalybs
