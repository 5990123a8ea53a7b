import Chalybs.Foundation.Lists
import Chalybs.Qemu.Command
import Chalybs.Qemu.RootPort

/-!
# The slots of `pcie.0`

Two phases of `QemuCommandBuilder` place devices on `pcie.0`: the passthrough devices get slots from
the root-port map, and the virtio-serial controller of SPICE has a fixed one.

* `generatedArgs` — the arguments of the phases that attach devices.
* `namedAddr` — the address that an argument names.
* `VmRuntime.LeavesSpiceSlot` — no passthrough device gets the slot of the controller.
* `slots_distinct_iff` — when no two arguments name the same address.
-/

namespace Chalybs

open Foundation

/-! ## The arguments -/

/-- What the phases that attach devices append. -/
def generatedArgs (rt : VmRuntime) : Except ChalybsError (List String) := do
  let b ← (QemuCommandBuilder.new rt).applyVfioPciDevices
  let b := b.applyLookingGlass
  let b ← b.applySpice
  pure b.args

/-- The address on `pcie.0` that an argument names in its last two parts. -/
def namedAddr (arg : String) : Option String :=
  match (arg.toList.splitOn ',').reverse with
  | last :: bus :: _ =>
      if bus = "bus=pcie.0".toList ∧ last.take 5 = "addr=".toList then
        some (String.ofList (last.drop 5))
      else none
  | _ => none

/-- The addresses that the `-device` arguments of a section name. -/
def namedAddrs (args : List String) : List String :=
  (optionValues "-device" args).filterMap namedAddr

example : namedAddr "ivshmem-plain,memdev=ivshmem,bus=pcie.0" = none := by decide

/-- **The address of a passthrough device** is the one it was assigned. -/
lemma namedAddr_params {dev : VfioDevice} {addr : String} (haddr : dev.addr = some addr)
    (hcomma : ',' ∉ addr.toList) : namedAddr dev.params = some addr := by
  have hparams : ∃ front : List Char, dev.params.toList =
      (front ++ ',' :: "bus=pcie.0".toList) ++ ',' :: ("addr=".toList ++ addr.toList) := by
    refine ⟨(s!"vfio-pci,host={dev.bdf}" ++
      (if dev.legacyPrimary then ",multifunction=on,x-vga=on" else "") ++
      (if dev.rombarOff then ",rombar=0" else "")).toList, ?_⟩
    have htail : (s!",bus=pcie.0,addr={addr}").toList =
        ',' :: "bus=pcie.0".toList ++ ',' :: ("addr=".toList ++ addr.toList) := by
      show (",bus=pcie.0,addr=" ++ addr).toList = _
      rw [String.toList_append]
      rfl
    unfold VfioDevice.params
    rw [haddr, String.toList_append, htail, ← List.append_assoc]
  obtain ⟨front, hfront⟩ := hparams
  have hbus : ',' ∉ "bus=pcie.0".toList := by decide
  have hlast : ',' ∉ "addr=".toList ++ addr.toList := by simpa using hcomma
  have hparts : (dev.params.toList.splitOn ',').reverse =
      ("addr=".toList ++ addr.toList) :: "bus=pcie.0".toList :: (front.splitOn ',').reverse := by
    rw [hfront, splitOn_append_last hlast, splitOn_append_last hbus]
    simp
  have htake : ("addr=".toList ++ addr.toList).take 5 = "addr=".toList := rfl
  have hdrop : ("addr=".toList ++ addr.toList).drop 5 = addr.toList := rfl
  rw [namedAddr, hparts]
  simp only [htake, hdrop, and_self, if_true, String.ofList_toList]

/-! ## The slots -/

lemma comma_not_mem_slotText : ∀ slot < slotCount, ',' ∉ (slotText slot).toList := by decide

lemma slotText_injective {slot slot' : ℕ} (h : slot < slotCount) (h' : slot' < slotCount)
    (heq : slotText slot = slotText slot') : slot = slot' := by
  have hread := parseRootportSlot_slotText slot h
  rw [heq, parseRootportSlot_slotText slot' h'] at hread
  exact (Except.ok.inj hread).symm

/-- The slot of the virtio-serial controller. -/
def spiceSlot : ℕ := 0x10

/-- The passthrough devices leave the slot of the controller alone: no override asks for it, and
there are enough slots below it for the other devices. -/
structure VmRuntime.LeavesSpiceSlot (rt : VmRuntime) : Prop where
  unclaimed : ∀ o ∈ rt.overrides.entries, rt.cfg.Configures o.1 → ¬ ReadsAs o.2 spiceSlot
  room : {bdf | rt.cfg.Configures bdf ∧ bdf ∉ rt.overrides}.ncard ≤
    {slot | 0x01 ≤ slot ∧ slot < spiceSlot ∧
      ∀ o ∈ rt.overrides.entries, ¬ ReadsAs o.2 slot}.ncard

section

variable {rt : VmRuntime} {map : AList fun _ : String => String} {bdf : String}

lemma freeSlots_eq : rt.freeSlots = freeBetween rt.claimedSlots 0x01 spiceSlot ++
    freeBetween rt.claimedSlots spiceSlot slotCount :=
  freeBetween_append (by decide) (by decide)

/-- **The slot of the controller** is given to a passthrough device unless it is left alone. -/
lemma exists_slotAt_spiceSlot (hfits : rt.RootportsFit) :
    (∃ bdf, rt.SlotAt bdf spiceSlot) ↔ ¬ rt.LeavesSpiceSlot := by
  have hroom : rt.LeavesSpiceSlot ↔
      (∀ o ∈ rt.overrides.entries, rt.cfg.Configures o.1 → ¬ ReadsAs o.2 spiceSlot) ∧
        rt.autoBdfs.length ≤ (freeBetween rt.claimedSlots 0x01 spiceSlot).length := by
    rw [← ncard_auto, ← ncard_unclaimed]
    exact ⟨fun h => ⟨h.unclaimed, h.room⟩, fun h => ⟨h.1, h.2⟩⟩
  rw [hroom]
  constructor
  · rintro ⟨bdf, hslot⟩ ⟨hunclaimed, hlength⟩
    rcases hslot with ⟨addr, haddr, hreads⟩ | ⟨i, hi, hslot⟩
    · have hconf := (VmRuntime.SlotAt.configures hfits (.inl ⟨addr, haddr, hreads⟩))
      exact hunclaimed _ (AList.mem_lookup_iff.mp haddr) hconf hreads
    · have hlow : i < (freeBetween rt.claimedSlots 0x01 spiceSlot).length :=
        (List.getElem?_eq_some_iff.mp hi).1.trans_le hlength
      rw [freeSlots_eq, List.getElem?_append_left hlow] at hslot
      exact absurd (mem_freeBetween.mp (List.mem_of_getElem? hslot)).2.1 (lt_irrefl _)
  · intro hnot
    by_cases hunclaimed : ∃ o ∈ rt.overrides.entries, ReadsAs o.2 spiceSlot
    · obtain ⟨o, ho, hreads⟩ := hunclaimed
      exact ⟨o.1, .inl ⟨o.2, AList.mem_lookup_iff.mpr ho, hreads⟩⟩
    · -- the first device that no slot below is left for
      have hlength : (freeBetween rt.claimedSlots 0x01 spiceSlot).length < rt.autoBdfs.length := by
        by_contra hle
        exact hnot ⟨fun o ho _ hreads => hunclaimed ⟨o, ho, hreads⟩, Nat.le_of_not_lt hle⟩
      have hfirst : freeBetween rt.claimedSlots spiceSlot slotCount =
          spiceSlot :: freeBetween (spiceSlot :: rt.claimedSlots) (spiceSlot + 1) slotCount := by
        refine freeBetween_eq_cons le_rfl (by decide) ?_ fun k hk hlt => absurd hk (by omega)
        exact fun hmem => hunclaimed (VmRuntime.mem_claimedSlots.mp hmem)
      refine ⟨rt.autoBdfs[(freeBetween rt.claimedSlots 0x01 spiceSlot).length], .inr ⟨_,
        List.getElem?_eq_getElem hlength, ?_⟩⟩
      rw [freeSlots_eq, hfirst, List.getElem?_append_right le_rfl, Nat.sub_self]
      rfl

/-- The devices have the slots that the map has for them. -/
lemma addr_of_mem {dev : VfioDevice} (h : dev ∈ vfioDevices rt map) :
    dev.addr = map.lookup dev.bdf := by
  simp only [vfioDevices, attachGpus, addGenericList, List.mem_append, List.mem_mapIdx,
    List.mem_map] at h
  rcases h with ((⟨i, hi, rfl⟩ | ⟨d, -, rfl⟩) | ⟨d, -, rfl⟩) | ⟨d, -, rfl⟩ <;> rfl

lemma leavesSpiceSlot_of_no_devices (h : ∀ bdf, ¬ rt.cfg.Configures bdf) :
    rt.LeavesSpiceSlot :=
  ⟨fun o _ hconf => absurd hconf (h o.1), by simp [h]⟩

/-- **What the passthrough devices name** are the slots of their addresses. -/
lemma exists_named_slots (hmap : buildPciRootportMap rt = .ok map) :
    ∃ slotOf : String → ℕ,
      (vfioDevices rt map).filterMap (fun dev => namedAddr dev.params) =
          (rt.cfg.configured.map PciDeviceConfig.pciAddress).map (fun b => slotText (slotOf b)) ∧
        (∀ b, rt.cfg.Configures b → slotOf b < slotCount) ∧
        (∀ b c, rt.cfg.Configures b → rt.cfg.Configures c → slotOf b = slotOf c → b = c) ∧
        ((∃ b, rt.cfg.Configures b ∧ slotOf b = spiceSlot) ↔ ¬ rt.LeavesSpiceSlot) := by
  by_cases hne : rt.cfg.configured = []
  · have hnone : ∀ bdf, ¬ rt.cfg.Configures bdf := by
      rintro bdf ⟨dev, hdev, -⟩
      rw [hne] at hdev
      exact absurd hdev List.not_mem_nil
    have hdevices : vfioDevices rt map = [] := by
      rw [← List.map_eq_nil_iff, map_bdf_vfioDevices, hne, List.map_nil]
    refine ⟨fun _ => 0, by rw [hdevices, hne]; rfl, fun b h => absurd h (hnone b),
      fun b _ h => absurd h (hnone b), ?_⟩
    simp [hnone, leavesSpiceSlot_of_no_devices hnone]
  · obtain ⟨slotOf, hassigned⟩ := exists_rootportsAssigned hne hmap
    have hfits := (VmRuntime.exists_rootportMap hne).mp ⟨map, hmap⟩
    have hcount : slotCount = 0x20 := rfl
    have hlt : ∀ b, rt.cfg.Configures b → slotOf b < slotCount := fun b hb => by
      have hle := (hassigned.text b hb).1
      omega
    have hslot : ∀ b, rt.cfg.Configures b → rt.SlotAt b (slotOf b) := by
      intro b hb
      obtain ⟨slot, htext, hslot⟩ :=
        (VmRuntime.lookup_eq_some_iff hne hmap).mp (hassigned.text b hb).2
      have hle := hslot.le
      rwa [slotText_injective (hlt b hb) (by omega) htext]
    refine ⟨slotOf, ?_, hlt, hassigned.distinct, ?_⟩
    · rw [← map_bdf_vfioDevices rt map, List.map_map, ← List.filterMap_eq_map]
      refine List.filterMap_congr fun dev hdev => ?_
      have hconf : rt.cfg.Configures dev.bdf := attached_iff.mp ⟨dev, hdev, rfl⟩
      have haddr : dev.addr = some (slotText (slotOf dev.bdf)) :=
        (addr_of_mem hdev).trans (hassigned.text _ hconf).2
      exact namedAddr_params haddr (comma_not_mem_slotText _ (hlt _ hconf))
    · rw [← exists_slotAt_spiceSlot hfits]
      constructor
      · rintro ⟨b, hb, hspice⟩
        exact ⟨b, hspice ▸ hslot b hb⟩
      · rintro ⟨b, hb⟩
        exact ⟨b, hb.configures hfits, (hslot b (hb.configures hfits)).unique hb⟩

/-! ## What the phases append -/

lemma generatedArgs_eq (hmap : buildPciRootportMap rt = .ok map) (husable : rt.SpiceUsable) :
    generatedArgs rt = .ok (deviceArgs (vfioDevices rt map) ++ documentedLookingGlass rt ++
      documentedSpice rt) := by
  refine except_bind_eq_ok.mpr ⟨_, QemuCommandBuilder.applyVfioPciDevices_eq_ok.mpr
    ⟨map, hmap, rfl⟩, ?_⟩
  rw [QemuCommandBuilder.applyLookingGlass_eq]
  exact except_bind_eq_ok.mpr ⟨_, QemuCommandBuilder.applySpice_eq_ok.mpr ⟨husable, rfl⟩, rfl⟩

lemma namedAddrs_deviceArgs (devices : List VfioDevice) (args : List String) :
    namedAddrs (deviceArgs devices ++ args) =
      devices.filterMap (fun dev => namedAddr dev.params) ++ namedAddrs args := by
  have hvalues : optionValues "-device" (deviceArgs devices ++ args) =
      devices.map VfioDevice.params ++ optionValues "-device" args := by
    induction devices with
    | nil => rfl
    | cons dev devices ih =>
        rw [deviceArgs_cons, List.cons_append, List.cons_append, optionValues, if_pos rfl, ih]
        rfl
  rw [namedAddrs, hvalues, List.filterMap_append, List.filterMap_map]
  rfl

/-- Of the other devices only the controller names an address. -/
lemma named_others :
    namedAddrs (documentedLookingGlass rt ++ documentedSpice rt) =
      if rt.cfg.spiceServer.isSome then [slotText spiceSlot] else [] := by
  have hcontroller : namedAddr
      "virtio-serial-pci,id=virtio-serial0,max_ports=16,bus=pcie.0,addr=0x10" =
        some (slotText spiceSlot) := by decide
  have hport : namedAddr
      "virtserialport,nr=1,bus=virtio-serial0.0,chardev=vdagent,name=com.redhat.spice.0" =
        none := by decide
  have hivshmem : namedAddr "ivshmem-plain,memdev=ivshmem,bus=pcie.0" = none := by decide
  have hspice : namedAddrs (documentedSpice rt) =
      if rt.cfg.spiceServer.isSome then [slotText spiceSlot] else [] := by
    rw [documentedSpice]
    cases rt.cfg.spiceServer with
    | none => rfl
    | some spice => simp [namedAddrs, optionValues, hcontroller, hport]
  rw [documentedLookingGlass]
  cases rt.cfg.peripherals.bind PeripheralConfig.lookingGlass with
  | none => exact hspice
  | some lg =>
      by_cases hzero : lg.memMb = 0
      · simp only [hzero, if_true]
        exact hspice
      · simpa [hzero, namedAddrs, optionValues, hivshmem] using hspice

end

/-- **When no two devices have the same address on `pcie.0`**, for a VM for which a command is
built: if no passthrough device is configured twice, and if they leave the slot of the virtio-serial
controller alone where SPICE is enabled. -/
theorem slots_distinct_iff {ident : Option CpuIdentity} {rt : VmRuntime} {cmd : QemuCommand}
    (h : buildQemuCommand ident rt = .ok cmd) :
    ∃ args, generatedArgs rt = .ok args ∧ args <:+: cmd.args ∧
      ((namedAddrs args).Nodup ↔
        (rt.cfg.configured.map PciDeviceConfig.pciAddress).Nodup ∧
          (rt.cfg.spiceServer.isSome → rt.LeavesSpiceSlot)) := by
  obtain ⟨map, hmap, husable, rfl⟩ := buildQemuCommand_eq_ok.mp h
  refine ⟨_, generatedArgs_eq hmap husable, ?_, ?_⟩
  · refine ⟨words (rt.cfg.qemu.preArgs.getD "") ++ documentedCore ident rt ++
      documentedMachine rt ++ emittedRtc rt ++ documentedSmbios rt,
      words rt.cfg.qemu.args ++ words (rt.cfg.qemu.postArgs.getD ""), ?_⟩
    simp [emittedArgs]
  · obtain ⟨slotOf, hnamed, hlt, hinj, hspice⟩ := exists_named_slots hmap
    have haddrs : namedAddrs (deviceArgs (vfioDevices rt map) ++ documentedLookingGlass rt ++
        documentedSpice rt) =
        (rt.cfg.configured.map PciDeviceConfig.pciAddress).map (fun b => slotText (slotOf b)) ++
          if rt.cfg.spiceServer.isSome then [slotText spiceSlot] else [] := by
      rw [List.append_assoc, namedAddrs_deviceArgs, named_others, hnamed]
    have hconf : ∀ b, b ∈ rt.cfg.configured.map PciDeviceConfig.pciAddress ↔
        rt.cfg.Configures b := fun b => List.mem_map
    have hdevices : ((rt.cfg.configured.map PciDeviceConfig.pciAddress).map
        (fun b => slotText (slotOf b))).Nodup ↔
        (rt.cfg.configured.map PciDeviceConfig.pciAddress).Nodup := by
      refine ⟨List.Nodup.of_map _, List.Nodup.map_on fun b hb c hc heq => ?_⟩
      rw [hconf] at hb hc
      exact hinj b c hb hc (slotText_injective (hlt b hb) (hlt c hc) heq)
    rw [haddrs]
    cases rt.cfg.spiceServer with
    | none => simpa using hdevices
    | some spice =>
        have hcontroller : slotText spiceSlot ∉ (rt.cfg.configured.map
            PciDeviceConfig.pciAddress).map (fun b => slotText (slotOf b)) ↔
            rt.LeavesSpiceSlot := by
          rw [← not_iff_not, not_not, ← hspice, List.mem_map]
          constructor
          · rintro ⟨b, hb, heq⟩
            rw [hconf] at hb
            exact ⟨b, hb, slotText_injective (hlt b hb) (by decide) heq⟩
          · rintro ⟨b, hb, heq⟩
            exact ⟨b, (hconf b).mpr hb, by rw [heq]⟩
        simp only [Option.isSome_some, if_true, List.nodup_append', List.nodup_singleton,
          List.disjoint_singleton, hdevices, hcontroller, true_and, forall_const]

/-- A VM with an enabled SPICE server. -/
def VmRuntime.withSpice (rt : VmRuntime) : VmRuntime :=
  { rt with cfg := { rt.cfg with
      peripherals := some { spice := some { enabled := true, port := 5900, addr := "::1" } } } }

def nvmeAndNic (nvme : String) : DevicesConfig where
  nvme := some [{ pciAddress := nvme }]
  nic := some [{ pciAddress := "0000:05:00.0" }]

/-- A controller, and a card that asks for a slot. -/
def nicAt (addr : String) : VmRuntime :=
  (withOverride (nvmeAndNic "0000:01:00.0") "0000:05:00.0" addr).withSpice

/-- The devices of `nicAt`. -/
def nicAtArgs (addr : String) : List String :=
  ["-device", "vfio-pci,host=0000:01:00.0,bus=pcie.0,addr=0x01",
    "-device", "vfio-pci,host=0000:05:00.0,bus=pcie.0,addr=" ++ addr,
    "-device", "virtio-serial-pci,id=virtio-serial0,max_ports=16,bus=pcie.0,addr=0x10",
    "-chardev", "spicevmc,name=vdagent,id=vdagent",
    "-device",
      "virtserialport,nr=1,bus=virtio-serial0.0,chardev=vdagent,name=com.redhat.spice.0",
    "-spice", "port=5900,addr=::1,disable-ticketing=on"]

theorem slots_distinct_nicAt : ∃ args, generatedArgs (nicAt "0x11") = .ok args ∧
    args <:+: (commandWith (["-rtc", defaultRtc] ++ nicAtArgs "0x11")).args ∧
      ((namedAddrs args).Nodup ↔
        ((nicAt "0x11").cfg.configured.map PciDeviceConfig.pciAddress).Nodup ∧
          ((nicAt "0x11").cfg.spiceServer.isSome → (nicAt "0x11").LeavesSpiceSlot)) :=
  slots_distinct_iff (show buildQemuCommand none (nicAt "0x11") = _ by decide +kernel)

/-- Sixteen controllers, of which one gets the slot of the controller of SPICE. -/
def sixteenNvmes : VmRuntime :=
  (runtimeWith { nvme := some ((List.range 16).map fun bus =>
    { pciAddress := s!"0000:{hexPadded 2 bus}:00.0" }) }).withSpice

/-- The command line is accepted, and two devices of it get the same slot. -/
def SlotsClash (rt : VmRuntime) : Prop :=
  (buildQemuCommand none rt).isOk = true ∧
    ∃ args, generatedArgs rt = .ok args ∧ ¬ (namedAddrs args).Nodup

/-- Two addresses that clash can be found without building the command. -/
lemma slotsClash_of_addrs {rt : VmRuntime} (husable : rt.SpiceUsable)
    (h : (buildPciRootportMap rt).map (fun map => decide
      (((vfioDevices rt map).filterMap fun dev => namedAddr dev.params) ++
        if rt.cfg.spiceServer.isSome then [slotText spiceSlot] else []).Nodup) = .ok false) :
    SlotsClash rt := by
  cases hmap : buildPciRootportMap rt with
  | error e =>
      rw [hmap] at h
      cases h
  | ok map =>
      rw [hmap] at h
      have hclash := of_decide_eq_false (Except.ok.inj h)
      constructor
      · rw [buildQemuCommand_eq_ok.mpr ⟨map, hmap, husable, rfl⟩]
        rfl
      · refine ⟨_, generatedArgs_eq hmap husable, ?_⟩
        rw [List.append_assoc, namedAddrs_deviceArgs, named_others]
        exact hclash

lemma spiceUsable_withSpice (rt : VmRuntime) : rt.withSpice.SpiceUsable := by
  rintro spice ⟨⟩
  decide

/-- An override, the sixteenth device and a device that is configured twice. -/
theorem slots_clash :
    SlotsClash (nicAt "0x10") ∧ SlotsClash sixteenNvmes ∧
      SlotsClash (runtimeWith (nvmeAndNic "0000:05:00.0")) := by
  refine ⟨?_, ?_, ?_⟩
  · exact slotsClash_of_addrs (spiceUsable_withSpice _) (by decide +kernel)
  · exact slotsClash_of_addrs (spiceUsable_withSpice _) (by decide +kernel)
  · exact slotsClash_of_addrs (fun spice h => by cases h) (by decide +kernel)

end Chalybs
