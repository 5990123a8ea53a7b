import Chalybs.Core.Model
import Chalybs.Vfio.Plan

/-!
# The passthrough devices on QEMU's command line

`add_vfio_pci_devices` (`qemu.rs`) attaches every device of the four lists of the configuration, at
the slots that `build_pci_rootport_map` assigns.  It does not look at the inventory, from which the
planner takes the devices that are present.

* `buildPciRootportMap` — the slots.
* `vfioDevices`, `addVfioPciDevices` — the devices that are attached, and their arguments.
* `attached_iff`, `bound_iff` — which addresses are attached, and which are bound to vfio-pci.
* `attached_eq_bound_iff` — when these are the same.
-/

namespace Chalybs

open Foundation

/-! ## Slots -/

/-- The number of slots, `0x1f` being the last. -/
def slotCount : ℕ := 0x20

/-- `parse_rootport_slot`. -/
def parseRootportSlot (vmName bdf addr : String) : Except ChalybsError ℕ :=
  let invalid : ChalybsError := .Config (s!"vm {vmName}: invalid pci_rootport address '{addr}' " ++
    s!"for device {bdf}; expected '0xNN' with NN in 00-1f")
  let radixPrefix := addr.toList.take 2
  if byteLen addr.toList ≠ 4 ∨ ¬ (radixPrefix = ['0', 'x'] ∨ radixPrefix = ['0', 'X']) then
    .error invalid
  else
    match fromStrRadix 16 (2 ^ 8) (addr.toList.drop 2) with
    | .error _ => .error invalid
    | .ok slot =>
        if slotCount ≤ slot then .error (.Config (s!"vm {vmName}: pci_rootport address '{addr}' " ++
          s!"for device {bdf} is out of range; valid slot range is 0x00-0x1f"))
        else .ok slot

/-- The map under construction, with the slots in use. -/
structure RootportMap where
  map : AList fun _ : String => String := ∅
  usedSlots : List ℕ := []

/-- A slot as it is written. -/
def slotText (slot : ℕ) : String := s!"0x{hexPadded 2 slot}"

/-- The loop over the overrides. -/
def seedOverrides (vmName : String) (configured : List String) :
    RootportMap → List (Sigma fun _ : String => String) → Except ChalybsError RootportMap
  | m, [] => .ok m
  | m, ⟨bdf, addr⟩ :: overrides =>
      if bdf ∉ configured then
        .error (.Config (s!"vm {vmName}: pci_rootport override for device {bdf} which is not " ++
          s!"configured under vm.{vmName}.devices"))
      else
        match parseRootportSlot vmName bdf addr with
        | .error e => .error e
        | .ok slot =>
            if slot ∈ m.usedSlots then
              .error (.Config (s!"vm {vmName}: pci_rootport slot '{addr}' is assigned to more " ++
                "than one device"))
            else seedOverrides vmName configured
              { map := m.map.insert bdf (slotText slot), usedSlots := slot :: m.usedSlots }
              overrides

/-- The first slot from `next` on that is not in use; the counter stops at 255. -/
def nextFreeSlot (used : List ℕ) (next : ℕ) : ℕ :=
  ((List.range' next (255 - next)).find? fun slot => !used.contains slot).getD 255

/-- The loop that assigns slots to the devices without an override. -/
def assignSlots (vmName : String) :
    RootportMap → ℕ → List String → Except ChalybsError RootportMap
  | m, _, [] => .ok m
  | m, next, bdf :: bdfs =>
      if (m.map.lookup bdf).isSome then assignSlots vmName m next bdfs
      else
        let slot := nextFreeSlot m.usedSlots next
        if slotCount ≤ slot then
          .error (.Config (s!"vm {vmName}: more passthrough devices than available PCIe " ++
            "root-port slots (0x01-0x1f)"))
        else assignSlots vmName
          { map := m.map.insert bdf (slotText slot), usedSlots := slot :: m.usedSlots }
          (slot + 1) bdfs

/-- The configured addresses, sorted within each of the four lists. -/
def DevicesConfig.sortedBdfs (devices : DevicesConfig) : List String :=
  devices.lists.flatMap fun devs =>
    (devs.map PciDeviceConfig.pciAddress).insertionSort fun a b => a ≤ b

/-- `build_pci_rootport_map`. -/
def buildPciRootportMap (rt : VmRuntime) :
    Except ChalybsError (AList fun _ : String => String) :=
  let entries := rt.cfg.devices.sortedBdfs
  if entries.isEmpty then .ok ∅
  else do
    let overrides := (rt.cfg.qemu.pciRootport.map AList.entries).getD []
    let seeded ← seedOverrides rt.name entries {} overrides
    let assigned ← assignSlots rt.name seeded 0x01 entries
    pure assigned.map

/-! ## Arguments -/

/-- A device that is attached. -/
structure VfioDevice where
  bdf : String
  legacyPrimary : Bool := false
  rombarOff : Bool := false
  addr : Option String := none
  deriving DecidableEq, Repr

/-- The value of its `-device` argument.  The last part is `apply_rootport_mapping`. -/
def VfioDevice.params (dev : VfioDevice) : String :=
  s!"vfio-pci,host={dev.bdf}" ++
    (if dev.legacyPrimary then ",multifunction=on,x-vga=on" else "") ++
    (if dev.rombarOff then ",rombar=0" else "") ++
    match dev.addr with
    | some addr => s!",bus=pcie.0,addr={addr}"
    | none => ""

/-- The device that is attached for an entry of a list. -/
def attachDevice (rt : VmRuntime) (map : AList fun _ : String => String) (legacyPrimary : Bool)
    (dev : PciDeviceConfig) : VfioDevice where
  bdf := dev.pciAddress
  legacyPrimary
  rombarOff := (rt.cfg.qemu.rombarOff.getD []).contains dev.pciAddress
  addr := map.lookup dev.pciAddress

/-- The loop over the GPU list.  The first of several GPUs may be a legacy primary one. -/
def attachGpus (rt : VmRuntime) (map : AList fun _ : String => String) : List VfioDevice :=
  let gpus := deviceList rt.cfg.devices.gpu
  let legacyPrimaryGpu := rt.cfg.qemu.legacyPrimaryGpu && decide (1 < gpus.length)
  gpus.mapIdx fun idx dev => attachDevice rt map (decide (idx = 0) && legacyPrimaryGpu) dev

/-- `add_generic_list`. -/
def addGenericList (rt : VmRuntime) (map : AList fun _ : String => String)
    (list : Option (List PciDeviceConfig)) : List VfioDevice :=
  (deviceList list).map (attachDevice rt map false)

/-- The devices that are attached, in order. -/
def vfioDevices (rt : VmRuntime) (map : AList fun _ : String => String) : List VfioDevice :=
  attachGpus rt map ++ addGenericList rt map rt.cfg.devices.nvme ++
    addGenericList rt map rt.cfg.devices.nic ++ addGenericList rt map rt.cfg.devices.usb

/-- `add_vfio_pci_devices`. -/
def addVfioPciDevices (args : List String) (rt : VmRuntime) :
    Except ChalybsError (List String) := do
  let map ← buildPciRootportMap rt
  pure (args ++ (vfioDevices rt map).flatMap fun dev => ["-device", dev.params])

/-! ## Which devices are attached, and which are bound -/

section

variable {vmName : String} {cfg : VmConfig} {inv : PciInventory} {plan : VfioPlan} {bdf : String}

/-- The plan binds the function with the address to vfio-pci. -/
def VfioPlan.Binds (plan : VfioPlan) (bdf : String) : Prop :=
  ∃ action ∈ plan.actions, action.kind = .BindToVfio ∧ action.bdf = bdf

instance (plan : VfioPlan) (bdf : String) : Decidable (plan.Binds bdf) :=
  inferInstanceAs (Decidable (∃ action ∈ plan.actions, _))

lemma map_bdf_vfioDevices (rt : VmRuntime) (map : AList fun _ : String => String) :
    (vfioDevices rt map).map VfioDevice.bdf =
      rt.cfg.configured.map PciDeviceConfig.pciAddress := by
  have hgpus : (attachGpus rt map).map VfioDevice.bdf =
      (deviceList rt.cfg.devices.gpu).map PciDeviceConfig.pciAddress := by
    refine List.ext_getElem (by simp [attachGpus]) fun i _ _ => ?_
    simp [attachGpus, attachDevice]
  have hlist : ∀ list, (addGenericList rt map list).map VfioDevice.bdf =
      (deviceList list).map PciDeviceConfig.pciAddress := fun list => by
    rw [addGenericList, List.map_map]
    rfl
  simp [vfioDevices, hgpus, hlist, VmConfig.configured, DevicesConfig.lists]

/-- **The addresses that are attached** are the configured ones. -/
lemma attached_iff {rt : VmRuntime} {map : AList fun _ : String => String} :
    (∃ dev ∈ vfioDevices rt map, dev.bdf = bdf) ↔ rt.cfg.Configures bdf := by
  rw [← List.mem_map, map_bdf_vfioDevices, List.mem_map]
  exact Iff.rfl

/-- **The addresses that are bound** are the configured ones that are present. -/
lemma bound_iff (h : buildPlanForVm vmName cfg inv = .ok plan) :
    plan.Binds bdf ↔ cfg.Configures bdf ∧ (inv.findByBdf bdf).isSome := by
  obtain ⟨-, rfl⟩ := buildPlanForVm_eq_ok.mp h
  simp only [VfioPlan.Binds, actionsOf, List.mem_append, List.mem_filterMap, List.mem_map]
  constructor
  · rintro ⟨action, ⟨⟨label, f⟩, -, hact⟩ | ⟨⟨label, f⟩, hs, rfl⟩, hkind, rfl⟩
    · rw [(unbindAction?_eq_some hact).2.1] at hkind
      cases hkind
    · obtain ⟨dev, hdev, hf⟩ := exists_staged_iff.mp ⟨label, hs⟩
      have hbdf : f.bdf = dev.pciAddress := (mem_of_findByBdf hf).2
      exact ⟨⟨dev, hdev, hbdf.symm⟩, by rw [bindAction, hbdf, hf]; rfl⟩
  · rintro ⟨⟨dev, hdev, rfl⟩, hpresent⟩
    obtain ⟨f, hf⟩ := Option.isSome_iff_exists.mp hpresent
    obtain ⟨label, hs⟩ := exists_staged_iff.mpr ⟨dev, hdev, hf⟩
    exact ⟨bindAction vmName label f, .inr ⟨(label, f), hs, rfl⟩, rfl, (mem_of_findByBdf hf).2⟩

end

/-- **When QEMU gets the devices that are bound for it.**  For a configuration and an inventory for
which a plan and a root-port map are built: the addresses that are attached are those that the plan
binds to vfio-pci exactly when every configured device, required or not, is present. -/
theorem attached_eq_bound_iff (rt : VmRuntime) (inv : PciInventory) (plan : VfioPlan)
    (map : AList fun _ : String => String) (args : List String)
    (hplan : buildPlanForVm rt.name rt.cfg inv = .ok plan)
    (hmap : buildPciRootportMap rt = .ok map) :
    addVfioPciDevices args rt =
        .ok (args ++ (vfioDevices rt map).flatMap fun dev => ["-device", dev.params]) ∧
      ((∀ bdf, (∃ dev ∈ vfioDevices rt map, dev.bdf = bdf) ↔ plan.Binds bdf) ↔
        ∀ dev ∈ rt.cfg.configured, (inv.findByBdf dev.pciAddress).isSome) := by
  refine ⟨by rw [addVfioPciDevices, hmap]; rfl, ?_⟩
  simp only [attached_iff, bound_iff hplan]
  constructor
  · intro hsame dev hdev
    exact ((hsame dev.pciAddress).mp ⟨dev, hdev, rfl⟩).2
  · intro hpresent bdf
    refine ⟨fun hconf => ⟨hconf, ?_⟩, And.left⟩
    obtain ⟨dev, hdev, rfl⟩ := hconf
    exact hpresent dev hdev

/-! ## A device that is not there -/

/-- An NVMe controller that is there and a network controller that need not be. -/
def optionalNic : DevicesConfig where
  nvme := some [{ pciAddress := "0000:01:00.0" }]
  nic := some [{ pciAddress := "0000:05:00.0", required := false }]

def runtimeWith (devices : DevicesConfig) : VmRuntime :=
  VmRuntime.new "a" (minimalVmConfig devices {}) ⟨⟨[0, 1, 2, 3]⟩, ⟨[0, 1]⟩⟩

def optionalNicInventory : PciInventory :=
  ⟨[makeGeneric "0000:01:00.0" 0x010802 (some "nvme") (some 1) none]⟩

def optionalNicMap : AList fun _ : String => String :=
  ((∅ : AList fun _ : String => String).insert "0000:01:00.0" "0x01").insert "0000:05:00.0" "0x02"

def optionalNicPlan : VfioPlan where
  vmName := "a"
  actions :=
    let staged := stagedFunctions (minimalVmConfig optionalNic {}) optionalNicInventory
    (actionsOf "a" staged).unbinds ++ (actionsOf "a" staged).binds

/-- The absent controller is attached, and nothing is bound for it. -/
theorem absent_nic_attached :
    buildPlanForVm "a" (runtimeWith optionalNic).cfg optionalNicInventory = .ok optionalNicPlan ∧
      buildPciRootportMap (runtimeWith optionalNic) = .ok optionalNicMap ∧
      addVfioPciDevices [] (runtimeWith optionalNic) = .ok
        ["-device", "vfio-pci,host=0000:01:00.0,bus=pcie.0,addr=0x01",
          "-device", "vfio-pci,host=0000:05:00.0,bus=pcie.0,addr=0x02"] ∧
      optionalNicPlan.Binds "0000:01:00.0" ∧ ¬ optionalNicPlan.Binds "0000:05:00.0" := by
  refine ⟨by decide, ?_, ?_, by decide, by decide⟩
  · rfl
  · rfl

theorem attached_eq_bound_optionalNic :
    ¬ ∀ bdf, (∃ dev ∈ vfioDevices (runtimeWith optionalNic) optionalNicMap, dev.bdf = bdf) ↔
      optionalNicPlan.Binds bdf := by
  have hiff := (attached_eq_bound_iff (runtimeWith optionalNic) optionalNicInventory
    optionalNicPlan optionalNicMap [] (by decide) rfl).2
  rw [hiff]
  decide

end Chalybs
