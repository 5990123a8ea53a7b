import Chalybs.Vfio.Execute
import Chalybs.Vfio.Verdict

/-!
# Staging and verification

`stage_pci_devices_for_vm` (`vfio/mod.rs`) is the work of the PreparePci phase: scan, isolation
gate, plan, execution, and a second scan that verifies the result (`vfio/verify.rs`).  Each of
these resolves the configured devices on its own.

* `verifyWithInventory_ok` — what verification establishes.
* `stage_eq_ok` — staging succeeds exactly when each of its parts does.
* `staged_groups_vfio` — under exclusive groups, what the parts establish together: no function
  that shares a group with a device of the VM is left to a driver of the host.
-/

namespace Chalybs

open Foundation

/-! ## Verification -/

/-- `DeviceKind`. -/
inductive DeviceKind
  | Gpu
  | Generic
  deriving DecidableEq, Repr

/-- `verify_single_device`. -/
def verifySingleDevice (vmName kindLabel : String) (kind : Option DeviceKind) (inv : PciInventory)
    (func : PciFunction) : Except ChalybsError Unit :=
  let bdf := func.bdf
  if kind = some .Gpu ∧ !func.isDisplayController ∧ !inv.isBdfInGpuComplex bdf then
    .error (.Vfio (s!"VM {vmName}: device {bdf} configured as GPU, but PCI class base is not " ++
      "0x03 (display controller)"))
  else
    match func.driver with
    | none => .error (.Vfio (s!"VM {vmName}: {kindLabel} device {bdf} has no bound driver, " ++
        "expected `vfio-pci` after VFIO staging"))
    | some driver =>
        if driver = "vfio-pci" then .ok ()
        else .error (.Vfio (s!"VM {vmName}: {kindLabel} device {bdf} is bound to `{driver}`, " ++
          "expected `vfio-pci` after VFIO staging"))

/-- `verify_device_list`. -/
def verifyDeviceList (vmName kindLabel : String) (cfgs : Option (List PciDeviceConfig))
    (inv : PciInventory) (kind : Option DeviceKind) : Except ChalybsError Unit := do
  let funcs ← inv.resolveConfigured (deviceList cfgs)
  funcs.forM (verifySingleDevice vmName kindLabel kind inv)

/-- `verify_with_inventory`. -/
def verifyWithInventory (vmName : String) (cfg : VmConfig) (inv : PciInventory) :
    Except ChalybsError Unit := do
  verifyDeviceList vmName "GPU" cfg.devices.gpu inv (some .Gpu)
  verifyDeviceList vmName "NVMe" cfg.devices.nvme inv (some .Generic)
  verifyDeviceList vmName "NIC" cfg.devices.nic inv (some .Generic)
  verifyDeviceList vmName "USB" cfg.devices.usb inv (some .Generic)

section

variable {vmName : String} {cfg : VmConfig} {inv : PciInventory}

lemma verifySingleDevice_ok {kindLabel : String} {kind : Option DeviceKind} {func : PciFunction}
    (h : verifySingleDevice vmName kindLabel kind inv func = .ok ()) :
    func.driver = some "vfio-pci" := by
  simp only [verifySingleDevice] at h
  split_ifs at h
  split at h
  · cases h
  · split_ifs at h with hvfio
    rw [‹func.driver = _›, hvfio]

lemma verifyDeviceList_ok {kindLabel : String} {cfgs : Option (List PciDeviceConfig)}
    {kind : Option DeviceKind} (h : verifyDeviceList vmName kindLabel cfgs inv kind = .ok ()) :
    ∀ dev ∈ deviceList cfgs, ∀ f, inv.findByBdf dev.pciAddress = some f →
      f.driver = some "vfio-pci" := by
  obtain ⟨funcs, hres, hall⟩ := except_bind_eq_ok.mp h
  intro dev hdev f hf
  rw [resolveConfigured_ok hres] at hall
  exact verifySingleDevice_ok (forM_eq_ok.mp hall f (mem_resolved.mpr ⟨dev, hdev, hf⟩))

/-- **What verification establishes**: every configured device that is present is bound to
vfio-pci. -/
theorem verifyWithInventory_ok (h : verifyWithInventory vmName cfg inv = .ok ()) :
    ∀ dev ∈ cfg.configured, ∀ f, inv.findByBdf dev.pciAddress = some f →
      f.driver = some "vfio-pci" := by
  rw [verifyWithInventory] at h
  simp only [except_bind_eq_ok] at h
  obtain ⟨_, hgpu, _, hnvme, _, hnic, husb⟩ := h
  intro dev hdev
  obtain ⟨devs, hdevs, hdev⟩ := mem_configured.mp hdev
  simp only [DevicesConfig.lists, List.mem_cons, List.not_mem_nil, or_false] at hdevs
  rcases hdevs with rfl | rfl | rfl | rfl
  · exact verifyDeviceList_ok hgpu dev hdev
  · exact verifyDeviceList_ok hnvme dev hdev
  · exact verifyDeviceList_ok hnic dev hdev
  · exact verifyDeviceList_ok husb dev hdev

end

/-! ## Staging -/

section

variable {σ : Type}

/-- `PciInventory::scan` at the current state of the kernel. -/
def scanNow (k : Sysfs σ) : EStateM ChalybsError (List VfioTransition × σ) PciInventory := do
  let t ← get
  fromExcept (scan (k.devices t.2))

/-- `verify_vm_vfio_bindings`. -/
def verifyVmVfioBindings (k : Sysfs σ) (vmName : String) (cfg : VmConfig) :
    EStateM ChalybsError (List VfioTransition × σ) Unit := do
  let inv ← scanNow k
  fromExcept (verifyWithInventory vmName cfg inv)

/-- `stage_pci_devices_for_vm`.  The state is `rt.vfio_transitions` and the kernel. -/
def stagePciDevicesForVm (k : Sysfs σ) (rt : VmRuntime) :
    EStateM ChalybsError (List VfioTransition × σ) Unit := do
  let inv ← scanNow k
  fromExcept (evaluateIsolationForVm rt.name rt.cfg inv)
  let plan ← fromExcept (buildPlanForVm rt.name rt.cfg inv)
  executePlan k.toDriverFiles plan inv
  verifyVmVfioBindings k rt.name rt.cfg

variable {k : Sysfs σ} {rt : VmRuntime} {ts ts' : List VfioTransition} {s s' : σ}

lemma scanNow_eq_ok {inv : PciInventory} {t t' : List VfioTransition × σ} :
    scanNow k t = .ok inv t' ↔ scan (k.devices t.2) = .ok inv ∧ t' = t := by
  rw [scanNow, bind_eq_ok]
  constructor
  · rintro ⟨_, _, hget, h⟩
    cases hget
    exact fromExcept_eq_ok.mp h
  · rintro ⟨h, rfl⟩
    exact ⟨_, _, rfl, fromExcept_eq_ok.mpr ⟨h, rfl⟩⟩

/-- **Staging** succeeds exactly when each of its parts does. -/
theorem stage_eq_ok :
    stagePciDevicesForVm k rt (ts, s) = .ok () (ts', s') ↔
      ∃ inv plan inv', scan (k.devices s) = .ok inv ∧
        evaluateIsolationForVm rt.name rt.cfg inv = .ok () ∧
        buildPlanForVm rt.name rt.cfg inv = .ok plan ∧
        executePlan k.toDriverFiles plan inv (ts, s) = .ok () (ts', s') ∧
        scan (k.devices s') = .ok inv' ∧ verifyWithInventory rt.name rt.cfg inv' = .ok () := by
  simp only [stagePciDevicesForVm, verifyVmVfioBindings, bind_eq_ok, scanNow_eq_ok,
    fromExcept_eq_ok]
  constructor
  · rintro ⟨inv, _, ⟨hscan, rfl⟩, _, _, ⟨hgate, rfl⟩, plan, _, ⟨hplan, rfl⟩, _, t, hexec, inv', _,
      ⟨hscan', rfl⟩, hverify, rfl⟩
    exact ⟨inv, plan, inv', hscan, hgate, hplan, hexec, hscan', hverify⟩
  · rintro ⟨inv, plan, inv', hscan, hgate, hplan, hexec, hscan', hverify⟩
    exact ⟨inv, _, ⟨hscan, rfl⟩, _, _, ⟨hgate, rfl⟩, plan, _, ⟨hplan, rfl⟩, _, _, hexec, inv', _,
      ⟨hscan', rfl⟩, hverify, rfl⟩

end

/-! ## Groups after staging -/

/-- The second inventory has the functions of the first, in any order and with any drivers. -/
def PciInventory.Redriven (inv inv' : PciInventory) : Prop :=
  ∃ driver : PciFunction → Option String,
    inv'.functions.Perm (inv.functions.map fun f => { f with driver := driver f })

lemma PciInventory.Redriven.distinctBdfs {inv inv' : PciInventory} (h : inv.Redriven inv')
    (hinv : inv.DistinctBdfs) : inv'.DistinctBdfs := by
  obtain ⟨driver, hperm⟩ := h
  rw [DistinctBdfs, (hperm.map PciFunction.bdf).nodup_iff, List.map_map]
  exact hinv

/-- **No function of a staged group is left to the host.**  If staging succeeds in `Enforce` mode
with exclusive groups required, and the scan that verifies it finds the same functions as the first
one, then every function that shares a group with a configured device is bound to vfio-pci. -/
theorem staged_groups_vfio {σ : Type} (k : Sysfs σ) (rt : VmRuntime)
    (ts ts' : List VfioTransition) (s s' : σ) (inv inv' : PciInventory)
    (hmode : rt.cfg.isolation.mode = .Enforce)
    (hflag : rt.cfg.isolation.requireIommuExclusive = true)
    (hscan : scan (k.devices s) = .ok inv) (hinv : inv.DistinctBdfs)
    (hstage : stagePciDevicesForVm k rt (ts, s) = .ok () (ts', s'))
    (hscan' : scan (k.devices s') = .ok inv') (hsame : inv.Redriven inv') :
    ∀ f ∈ inv'.functions, ∀ g ∈ inv'.functions, ∀ gid, f.iommuGroup = some gid →
      g.iommuGroup = some gid → rt.cfg.Configures f.bdf → g.driver = some "vfio-pci" := by
  intro f hf g hg gid hfg hgg hconf
  obtain ⟨inv₀, plan, inv₁, hscan₀, hgate, -, -, hscan₁, hverify⟩ := stage_eq_ok.mp hstage
  obtain rfl : inv = inv₀ := Except.ok.inj (hscan.symm.trans hscan₀)
  obtain rfl : inv' = inv₁ := Except.ok.inj (hscan'.symm.trans hscan₁)
  -- the gate has seen the two functions, with the drivers they had before
  have hbefore : ∀ h ∈ inv'.functions, ∃ h₀ ∈ inv.functions,
      h₀.bdf = h.bdf ∧ h₀.iommuGroup = h.iommuGroup := by
    obtain ⟨driver, hperm⟩ := hsame
    intro h hh
    obtain ⟨h₀, hh₀, rfl⟩ := List.mem_map.mp (hperm.mem_iff.mp hh)
    exact ⟨h₀, hh₀, rfl, rfl⟩
  obtain ⟨f₀, hf₀, hfbdf, hfgroup⟩ := hbefore f hf
  obtain ⟨g₀, hg₀, hgbdf, hggroup⟩ := hbefore g hg
  have hgconf : rt.cfg.Configures g₀.bdf :=
    configures_of_sharesGroup hmode hflag hgate hf₀ hg₀ (hfgroup.trans hfg) (hggroup.trans hgg)
      (hfbdf ▸ hconf)
  obtain ⟨dev, hdev, haddr⟩ := hgconf
  refine verifyWithInventory_ok hverify dev hdev g ?_
  exact (findByBdf_eq_some (hsame.distinctBdfs hinv)).mpr ⟨hg, by rw [haddr, hgbdf]⟩

/-! ## A host to stage on -/

/-- An NVMe controller and a network controller, each alone in its group and in use. -/
def storageHost : List PciEntry :=
  [{ bdf := "0000:01:00.0"
     vendor := .ok "0x144d\n"
     device := .ok "0xa80a\n"
     classCode := .ok "0x010802\n"
     driver := some "nvme"
     iommuGroup := some "1"
     numaNode := .ok "0\n" },
   { bdf := "0000:02:00.0"
     vendor := .ok "0x8086\n"
     device := .ok "0x1533\n"
     classCode := .ok "0x020000\n"
     driver := some "igb"
     iommuGroup := some "2"
     numaNode := .ok "-1\n" }]

def storageBindings : Bindings := fun bdf =>
  (storageHost.find? fun entry => entry.bdf == bdf).bind PciEntry.driver

def nvmeFunction (driver : Option String) : PciFunction :=
  { bdf := "0000:01:00.0", vendorId := 0x144d, deviceId := 0xa80a, classCode := 0x010802, driver,
    iommuGroup := some 1, numaNode := some 0 }

def storageInventory (nvmeDriver : Option String) : PciInventory :=
  ⟨[nvmeFunction nvmeDriver,
    { bdf := "0000:02:00.0", vendorId := 0x8086, deviceId := 0x1533, classCode := 0x020000,
      driver := some "igb", iommuGroup := some 2, numaNode := some (-1) }]⟩

/-- A VM that is given the NVMe controller, under the strictest policy. -/
def storageRuntime : VmRuntime :=
  .new "testvm"
    (minimalVmConfig { nvme := some [{ pciAddress := "0000:01:00.0" }] } { mode := .Enforce })
    { host := ⟨[0, 1, 2, 3]⟩, vm := ⟨[0, 1]⟩ }

def storagePlan : VfioPlan where
  vmName := "testvm"
  actions := (actionsOf "testvm" [("NVMe", nvmeFunction (some "nvme"))]).unbinds ++
    (actionsOf "testvm" [("NVMe", nvmeFunction (some "nvme"))]).binds

def stagedBindings : Bindings :=
  Function.update (Function.update storageBindings "0000:01:00.0" none) "0000:01:00.0"
    (some "vfio-pci")

def storageTransition : VfioTransition := ⟨"0000:01:00.0", some "nvme", some 1⟩

lemma stage_storage :
    stagePciDevicesForVm (linuxSysfs storageHost) storageRuntime ([], storageBindings) =
      .ok () ([storageTransition], stagedBindings) :=
  stage_eq_ok.mpr ⟨storageInventory (some "nvme"), storagePlan,
    storageInventory (some "vfio-pci"), by decide, by decide, by decide, rfl, by decide,
    by decide⟩

theorem staged_groups_vfio_storage :
    let inv' := storageInventory (some "vfio-pci")
    ∀ f ∈ inv'.functions, ∀ g ∈ inv'.functions, ∀ gid, f.iommuGroup = some gid →
      g.iommuGroup = some gid → storageRuntime.cfg.Configures f.bdf →
        g.driver = some "vfio-pci" :=
  staged_groups_vfio (linuxSysfs storageHost) storageRuntime [] [storageTransition]
    storageBindings stagedBindings (storageInventory (some "nvme")) _ (by decide) (by decide)
    (by decide) (by decide) stage_storage (by decide)
    ⟨fun f => stagedBindings f.bdf, List.Perm.refl _⟩

end Chalybs
