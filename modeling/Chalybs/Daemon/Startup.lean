import Chalybs.Daemon.Snapshot
import Chalybs.Pci.Address
import Chalybs.Vfio.Verdict

/-!
# The start of the daemon

`DaemonState::new` (`daemon/src/state.rs`) reads the configuration, scans the PCI functions, and
looks at each configured VM once.  What it sees becomes the startup events of the VM; the checks
behind them are written apart from those that a bring-up makes.

* `loadRootConfig` with `loadRootConfig_spec` — which file the configuration comes from.
* `preflightGpuPolicy` — the GPU policy (`config.rs`).
* `introspectVmConfigOnly`, `introspectVmFull` — the startup events of one VM.
* `startDaemon` — `DaemonState::new`.
* `introspection_decides` — when a VM has no error among its startup events.
-/

namespace Chalybs

open Foundation

/-! ## The configuration -/

/-- What `load_root_config` reads: the variable `CHALYBS_CONFIG`, the files, and `toml::from_str`
on their text. -/
structure ConfigFiles where
  chalybsConfig : Option String
  isPresent : String → Bool
  readToString : String → Except String String
  fromStr : String → Except String RootConfig

/-- `RootConfig::from_path`. -/
def RootConfig.fromPath (files : ConfigFiles) (path : String) : Except ChalybsError RootConfig := do
  let data ← (files.readToString path).mapError .Io
  let cfg ← (files.fromStr data).mapError .Toml
  cfg.validate
  pure cfg

def defaultConfigPath : String := "/etc/chalybs/chalybs.toml"

/-- The part of `load_root_config` after the variable. -/
def loadDefaultConfig (files : ConfigFiles) : Option RootConfig × List IpcEvent :=
  if files.isPresent defaultConfigPath then
    match RootConfig.fromPath files defaultConfigPath with
    | .ok cfg => (some cfg,
        [⟨.System, s!"daemon: loaded config from default path {defaultConfigPath}"⟩])
    | .error e => (none,
        [⟨.Error, s!"daemon: failed to load config from {defaultConfigPath}: {e.display}"⟩])
  else (none,
    [⟨.Error,
      s!"daemon: no config found (CHALYBS_CONFIG unset, {defaultConfigPath} missing)"⟩])

/-- `load_root_config`. -/
def loadRootConfig (files : ConfigFiles) : Option RootConfig × List IpcEvent :=
  match files.chalybsConfig with
  | none => loadDefaultConfig files
  | some path =>
      match RootConfig.fromPath files path with
      | .ok cfg =>
          (some cfg, [⟨.System, s!"daemon: loaded config from CHALYBS_CONFIG={path}"⟩])
      | .error e =>
          let (cfg, events) := loadDefaultConfig files
          (cfg, ⟨.Error,
            s!"daemon: failed to load config from CHALYBS_CONFIG={path}: {e.display}"⟩ :: events)

/-- The files that are tried, in this order. -/
def ConfigFiles.candidates (files : ConfigFiles) : List String :=
  files.chalybsConfig.toList ++
    if files.isPresent defaultConfigPath then [defaultConfigPath] else []

/-! ## The GPU policy -/

def PciInventory.countDisplayControllers (inv : PciInventory) : ℕ :=
  inv.functions.countP PciFunction.isDisplayController

/-- `preflight_gpu_policy`, with what a scan gives.  There is no scan for a VM without GPUs. -/
def preflightGpuPolicy (scanned : Except ChalybsError PciInventory) (vmName : String)
    (cfg : VmConfig) : Except ChalybsError Unit := do
  if (deviceList cfg.devices.gpu).isEmpty then
    return ()
  let inv ← scanned
  let hostGpuCount := inv.countDisplayControllers
  if hostGpuCount = 0 then
    throw (.Vfio (s!"VM {vmName}: GPU passthrough requested, " ++
      "but host has NO GPUs detected via PCI inventory."))
  if hostGpuCount = 1 ∧ !cfg.gpu.allowSingleGpu then
    throw (.Vfio (s!"VM {vmName}: GPU passthrough on a SINGLE-GPU host is blocked.\n" ++
      s!"To permit this, explicitly set:\n[vm.{vmName}.gpu]\nallow_single_gpu = true\n\n" ++
      "WARNING: this may steal the host display.\n"))

/-- The hosts on which the policy lets a VM have GPUs. -/
def PciInventory.AllowsGpus (inv : PciInventory) (cfg : VmConfig) : Prop :=
  0 < inv.countDisplayControllers ∧
    (inv.countDisplayControllers = 1 → cfg.gpu.allowSingleGpu = true)

lemma preflightGpuPolicy_eq_ok {inv : PciInventory} {vmName : String} {cfg : VmConfig} :
    preflightGpuPolicy (.ok inv) vmName cfg = .ok () ↔
      deviceList cfg.devices.gpu = [] ∨ inv.AllowsGpus cfg := by
  rw [preflightGpuPolicy, PciInventory.AllowsGpus]
  cases hgpu : deviceList cfg.devices.gpu with
  | nil => simp [pure, Except.pure]
  | cons dev devs =>
      rcases Nat.eq_zero_or_pos inv.countDisplayControllers with hzero | hpos
      · simp [hzero, bind, Except.bind, throw, throwThe, MonadExceptOf.throw]
      · by_cases hone : inv.countDisplayControllers = 1
        · cases hallow : cfg.gpu.allowSingleGpu with
          | false => simp [hone, bind, Except.bind, throw, throwThe, MonadExceptOf.throw]
          | true => simp [hone, bind, Except.bind, pure, Except.pure]
        · simp [hone, hpos, Nat.pos_iff_ne_zero.mp hpos, bind, Except.bind, pure, Except.pure]

/-! ## The startup events -/

/-- The `Debug` text of a level. -/
def IsolationLevel.debug : IsolationLevel → String
  | .Dedicated => "Dedicated"
  | .SharedWithHost => "SharedWithHost"
  | .Forbidden => "Forbidden"

/-- What `introspect_vm_config_only` says about one of the two CPU lists. -/
def introspectCpuList (vmName field unit cpus : String) : IpcEvent :=
  match parseCpuList cpus with
  | .ok parsed =>
      ⟨.Info, s!"vm {vmName}: parsed {field}=\"{cpus}\" ({parsed.length} {unit})"⟩
  | .error e => ⟨.Error, s!"vm {vmName}: failed to parse {field}=\"{cpus}\": {e.display}"⟩

/-- `introspect_vm_config_only`. -/
def introspectVmConfigOnly (vmName : String) (vm : VmConfig) : List IpcEvent :=
  [introspectCpuList vmName "vm_cpus" "vCPUs" vm.cpu.vmCpus,
    introspectCpuList vmName "host_cpus" "host CPUs" vm.cpu.hostCpus,
    ⟨.Info, s!"vm {vmName}: isolation mode={vm.isolation.mode.label}, " ++
      s!"default_level={vm.isolation.defaultLevel.debug}"⟩]

/-- `DeviceKind` of the daemon: the class that the devices of a list should have. -/
inductive ListedKind
  | Gpu
  | Nvme
  | Nic
  | Usb
  deriving DecidableEq, Repr

def ListedKind.debug : ListedKind → String
  | .Gpu => "Gpu"
  | .Nvme => "Nvme"
  | .Nic => "Nic"
  | .Usb => "Usb"

/-- `device_kind_matches`. -/
def deviceKindMatches (func : PciFunction) : ListedKind → Bool
  | .Gpu => func.isDisplayController
  | .Nvme => func.isNvme
  | .Nic => func.isNetworkController
  | .Usb => func.isUsbController

/-- What `inspect_device_list` says about one device. -/
def inspectDevice (vmName kindLabel : String) (inv : PciInventory) (kind : Option ListedKind)
    (dev : PciDeviceConfig) : IpcEvent :=
  match inv.findByBdf dev.pciAddress with
  | some func =>
      match kind with
      | some kind =>
          if !deviceKindMatches func kind then
            ⟨.Warning, s!"vm {vmName}: {kindLabel} device {dev.pciAddress} present, wrong PCI " ++
              s!"class (expected {kind.debug})"⟩
          else ⟨.Info,
            s!"vm {vmName}: {kindLabel} device {dev.pciAddress} present in inventory"⟩
      | none => ⟨.Info, s!"vm {vmName}: device {dev.pciAddress} present in inventory"⟩
  | none =>
      if dev.required then
        ⟨.Error, s!"vm {vmName}: required {kindLabel} device {dev.pciAddress} is missing from " ++
          "PCI inventory"⟩
      else ⟨.Warning, s!"vm {vmName}: optional {kindLabel} device {dev.pciAddress} not found in " ++
        "PCI inventory"⟩

/-- `inspect_device_list`. -/
def inspectDeviceList (vmName kindLabel : String) (cfgs : Option (List PciDeviceConfig))
    (inv : PciInventory) (kind : Option ListedKind) : List IpcEvent :=
  (deviceList cfgs).map (inspectDevice vmName kindLabel inv kind)

/-- `introspect_vm_devices`. -/
def introspectVmDevices (vmName : String) (vm : VmConfig) (inv : PciInventory) : List IpcEvent :=
  inspectDeviceList vmName "GPU" vm.devices.gpu inv (some .Gpu) ++
    inspectDeviceList vmName "NVMe" vm.devices.nvme inv (some .Nvme) ++
      inspectDeviceList vmName "NIC" vm.devices.nic inv (some .Nic) ++
        inspectDeviceList vmName "USB" vm.devices.usb inv (some .Usb)

/-- `introspect_vm_full`.  The GPU policy takes a scan of its own. -/
def introspectVmFull (inv : PciInventory) (rescan : Except ChalybsError PciInventory)
    (vmName : String) (vm : VmConfig) : List IpcEvent :=
  introspectVmConfigOnly vmName vm ++ introspectVmDevices vmName vm inv ++
    [match preflightGpuPolicy rescan vmName vm with
      | .ok () => ⟨.Info, "GPU policy preflight passed"⟩
      | .error e => ⟨.Error, s!"GPU policy preflight failed: {e.display}"⟩]

/-! ## The daemon -/

/-- A character of the `Debug` text of a string.  Those above ASCII are taken to be printable. -/
def escapeDebug (c : Char) : List Char :=
  if c.toNat = 0 then [Char.ofNat 92, '0']
  else if c = '\t' then [Char.ofNat 92, 't']
  else if c = '\n' then [Char.ofNat 92, 'n']
  else if c = '\r' then [Char.ofNat 92, 'r']
  else if c.toNat = 34 ∨ c.toNat = 92 then [Char.ofNat 92, c]
  else if c.toNat < 32 ∨ c.toNat = 127 then
    [Char.ofNat 92, 'u', Char.ofNat 123] ++ Nat.toDigits 16 c.toNat ++ [Char.ofNat 125]
  else [c]

def GpuDriverKind.debug : GpuDriverKind → String
  | .Vfio => "Vfio"
  | .AmdGpu => "AmdGpu"
  | .Nvidia => "Nvidia"
  | .Nouveau => "Nouveau"
  | .OtherKernel driver =>
      s!"OtherKernel(\"{String.ofList (driver.toList.flatMap escapeDebug)}\")"
  | .Unbound => "Unbound"

def GpuSafetyClass.debug : GpuSafetyClass → String
  | .VfioReady => "VfioReady"
  | .HostOwned => "HostOwned"
  | .Unknown => "Unknown"

/-- The event for one of the `gpu_summaries`. -/
def gpuSummaryEvent (f : PciFunction) : IpcEvent :=
  let driver := f.driver.getD "<none>"
  let driverKind := (f.gpuDriverKind.map GpuDriverKind.debug).getD "<none>"
  let safety := (f.gpuSafetyClass.map GpuSafetyClass.debug).getD "<none>"
  ⟨.Info, s!"GPU {f.bdf}: vendor=0x{hexPadded 4 f.vendorId.toNat}, " ++
    s!"device=0x{hexPadded 4 f.deviceId.toNat}, driver={driver}, driver_kind={driverKind}, " ++
    s!"safety={safety}"⟩

/-- The events about the inventory. -/
def inventoryEvents : Except ChalybsError PciInventory → List IpcEvent
  | .ok inv =>
      ⟨.System, s!"daemon: PCI inventory built ({inv.functions.length} functions, " ++
        s!"{inv.countDisplayControllers} display controllers)"⟩ :: inv.gpus.map gpuSummaryEvent
  | .error e => [⟨.Error, s!"daemon: failed to scan PCI inventory: {e.display}"⟩]

/-- `DaemonState::new`.  `rescan` is what the scan finds that is taken for the VM of a name. -/
def startDaemon (files : ConfigFiles) (scanned : Except ChalybsError PciInventory)
    (rescan : String → Except ChalybsError PciInventory) : DaemonState :=
  let (rootCfg, events) := loadRootConfig files
  let introspect := match scanned with
    | .ok inv => fun vmName vm => introspectVmFull inv (rescan vmName) vmName vm
    | .error _ => introspectVmConfigOnly
  DaemonState.new rootCfg (events ++ inventoryEvents scanned) (startupEventsVm introspect rootCfg)

/-! ## Which file is taken -/

section

variable {files : ConfigFiles} {path : String} {cfg : RootConfig}

/-- A file that loads holds a configuration that passes its check. -/
lemma validate_of_fromPath (h : RootConfig.fromPath files path = .ok cfg) :
    cfg.validate = .ok () := by
  obtain ⟨data, -, h⟩ := except_bind_eq_ok.mp h
  obtain ⟨parsed, -, h⟩ := except_bind_eq_ok.mp h
  obtain ⟨_, hvalid, h⟩ := except_bind_eq_ok.mp h
  obtain rfl := Except.ok.inj h
  exact hvalid

/-- The configuration of a file, if it loads. -/
def ConfigFiles.load (files : ConfigFiles) (path : String) : Option RootConfig :=
  (RootConfig.fromPath files path).toOption

lemma load_eq_some : files.load path = some cfg ↔ RootConfig.fromPath files path = .ok cfg :=
  toOption_eq_some

lemma load_eq_none : files.load path = none ↔ ∃ e, RootConfig.fromPath files path = .error e := by
  rw [ConfigFiles.load]
  cases RootConfig.fromPath files path with
  | ok cfg => simp [Except.toOption]
  | error e => simp [Except.toOption]

/-- The event is of the kind and names the path in its text. -/
def IpcEvent.Names (ev : IpcEvent) (report : IpcEventKind × String) : Prop :=
  ev.kind = report.1 ∧ ∃ front back, ev.message = front ++ report.2 ++ back

/-- What is to be reported of a search through some files: an error for each one that is tried in
vain, and one more event for the one that loads, or where none does and there is no default file. -/
def ConfigFiles.reports (files : ConfigFiles) (paths : List String) :
    List (IpcEventKind × String) :=
  (paths.takeWhile fun path => (files.load path).isNone).map (fun path => (.Error, path)) ++
    match paths.find? fun path => (files.load path).isSome with
    | some path => [(.System, path)]
    | none => if files.isPresent defaultConfigPath then [] else [(.Error, defaultConfigPath)]

/-- The search through some files gives a configuration and its events. -/
def ConfigFiles.Finds (files : ConfigFiles) (paths : List String)
    (found : Option RootConfig × List IpcEvent) : Prop :=
  found.1 = paths.findSome? files.load ∧
    List.Forall₂ IpcEvent.Names found.2 (files.reports paths)

/-- A file that loads ends the search. -/
lemma finds_of_ok {paths : List String} {ev : IpcEvent}
    (h : RootConfig.fromPath files path = .ok cfg) (hev : ev.Names (.System, path)) :
    files.Finds (path :: paths) (some cfg, [ev]) := by
  have hload := load_eq_some.mpr h
  refine ⟨by simp [hload], ?_⟩
  simpa [ConfigFiles.reports, hload] using hev

/-- A file that does not load is reported, and the search goes on. -/
lemma finds_of_error {paths : List String} {ev : IpcEvent} {e : ChalybsError}
    {found : Option RootConfig × List IpcEvent}
    (h : RootConfig.fromPath files path = .error e) (hev : ev.Names (.Error, path))
    (hfound : files.Finds paths found) :
    files.Finds (path :: paths) (found.1, ev :: found.2) := by
  have hload := load_eq_none.mpr ⟨e, h⟩
  refine ⟨by simpa [hload] using hfound.1, ?_⟩
  have hreports : files.reports (path :: paths) = (.Error, path) :: files.reports paths := by
    simp [ConfigFiles.reports, hload]
  rw [hreports]
  exact .cons hev hfound.2

lemma finds_loadDefaultConfig (files : ConfigFiles) :
    files.Finds (if files.isPresent defaultConfigPath then [defaultConfigPath] else [])
      (loadDefaultConfig files) := by
  cases hpresent : files.isPresent defaultConfigPath with
  | false =>
      have hev : (⟨.Error,
          s!"daemon: no config found (CHALYBS_CONFIG unset, {defaultConfigPath} missing)"⟩ :
            IpcEvent).Names (.Error, defaultConfigPath) := ⟨rfl, _, _, rfl⟩
      simpa [loadDefaultConfig, ConfigFiles.Finds, ConfigFiles.reports, hpresent] using hev
  | true =>
      cases hload : RootConfig.fromPath files defaultConfigPath with
      | ok cfg =>
          simp only [loadDefaultConfig, hpresent, hload, if_true]
          exact finds_of_ok hload ⟨rfl, _, "", (String.append_empty ..).symm⟩
      | error e =>
          simp only [loadDefaultConfig, hpresent, hload, if_true]
          have hnone : files.Finds [] (none, []) := by
            simp [ConfigFiles.Finds, ConfigFiles.reports, hpresent]
          exact finds_of_error hload ⟨rfl, _, ": " ++ e.display, String.append_assoc ..⟩ hnone

/-- **The configuration is that of the first file that loads**, first the one that CHALYBS_CONFIG
names and then the default one.  It passes its check.  Every file tried before it is reported in an
error that names it. -/
theorem config_from_first_that_loads (files : ConfigFiles) :
    let (root, events) := loadRootConfig files
    root = files.candidates.findSome? files.load ∧
      (∀ cfg, root = some cfg → cfg.validate = .ok ()) ∧
      List.Forall₂ IpcEvent.Names events (files.reports files.candidates) := by
  have hfinds : files.Finds files.candidates (loadRootConfig files) := by
    rw [ConfigFiles.candidates, loadRootConfig]
    cases files.chalybsConfig with
    | none => exact finds_loadDefaultConfig files
    | some path =>
        dsimp only [Option.toList_some, List.singleton_append]
        cases hload : RootConfig.fromPath files path with
        | ok cfg => exact finds_of_ok hload ⟨rfl, _, "", (String.append_empty ..).symm⟩
        | error e =>
            exact finds_of_error hload ⟨rfl, _, ": " ++ e.display, String.append_assoc ..⟩
              (finds_loadDefaultConfig files)
  refine ⟨hfinds.1, fun cfg hcfg => ?_, hfinds.2⟩
  obtain ⟨path, -, hload⟩ := List.exists_of_findSome?_eq_some (hfinds.1.symm.trans hcfg)
  exact validate_of_fromPath (load_eq_some.mp hload)

end

/-! ## What the startup events say -/

/-- There is no error among the events. -/
def NoErrors (events : List IpcEvent) : Prop := ∀ ev ∈ events, ev.kind ≠ .Error

instance (events : List IpcEvent) : Decidable (NoErrors events) :=
  inferInstanceAs (Decidable (∀ ev ∈ events, _))

@[simp] lemma noErrors_append {events events' : List IpcEvent} :
    NoErrors (events ++ events') ↔ NoErrors events ∧ NoErrors events' := by
  simp only [NoErrors, List.mem_append, or_imp, forall_and]

@[simp] lemma noErrors_singleton {ev : IpcEvent} : NoErrors [ev] ↔ ev.kind ≠ .Error := by
  simp [NoErrors]

section

variable {vmName kindLabel : String} {cfg : VmConfig} {inv : PciInventory}
  {rescan : Except ChalybsError PciInventory}

/-- The two lists of CPUs can be read. -/
def VmConfig.CpuListsRead (cfg : VmConfig) : Prop :=
  (∃ cpus, parseCpuList cfg.cpu.vmCpus = .ok cpus) ∧
    ∃ cpus, parseCpuList cfg.cpu.hostCpus = .ok cpus

/-- A state machine is made exactly of a configuration whose CPU lists can be read. -/
lemma exists_new_iff : (∃ vm, DaemonVm.new vmName cfg = .ok vm) ↔ cfg.CpuListsRead := by
  rw [VmConfig.CpuListsRead, DaemonVm.new]
  cases parseCpuList cfg.cpu.hostCpus with
  | error e => simp
  | ok hostCpus =>
      cases parseCpuList cfg.cpu.vmCpus with
      | error e => simp
      | ok vmCpus => simp

lemma kind_introspectCpuList {field unit cpus : String} :
    (introspectCpuList vmName field unit cpus).kind ≠ .Error ↔
      ∃ parsed, parseCpuList cpus = .ok parsed := by
  rw [introspectCpuList]
  cases parseCpuList cpus with
  | ok parsed => simp
  | error e => simp

lemma noErrors_configOnly : NoErrors (introspectVmConfigOnly vmName cfg) ↔ cfg.CpuListsRead := by
  simp [NoErrors, introspectVmConfigOnly, kind_introspectCpuList, VmConfig.CpuListsRead]

/-- A device is an error exactly if it is required and missing. -/
lemma kind_inspectDevice {kind : Option ListedKind} {dev : PciDeviceConfig} :
    (inspectDevice vmName kindLabel inv kind dev).kind ≠ .Error ↔
      (dev.required = true → ∃ f ∈ inv.functions, f.bdf = dev.pciAddress) := by
  rw [← findByBdf_isSome, inspectDevice]
  cases inv.findByBdf dev.pciAddress with
  | some func =>
      cases kind with
      | none => simp
      | some kind =>
          cases hmatches : deviceKindMatches func kind with
          | true => simp [hmatches]
          | false => simp [hmatches]
  | none =>
      cases dev.required with
      | true => simp
      | false => simp

lemma noErrors_inspectDeviceList {cfgs : Option (List PciDeviceConfig)}
    {kind : Option ListedKind} :
    NoErrors (inspectDeviceList vmName kindLabel cfgs inv kind) ↔
      inv.RequiredPresent (deviceList cfgs) := by
  rw [NoErrors, inspectDeviceList, List.forall_mem_map, PciInventory.RequiredPresent]
  exact forall₂_congr fun dev _ => kind_inspectDevice

lemma noErrors_devices :
    NoErrors (introspectVmDevices vmName cfg inv) ↔ inv.RequiredPresent cfg.configured := by
  simp only [introspectVmDevices, noErrors_append, noErrors_inspectDeviceList,
    requiredPresent_configured, DevicesConfig.lists, List.forall_mem_cons, List.not_mem_nil,
    false_imp_iff, implies_true, and_true]
  tauto

lemma noErrors_full :
    NoErrors (introspectVmFull inv rescan vmName cfg) ↔
      cfg.CpuListsRead ∧ inv.RequiredPresent cfg.configured ∧
        preflightGpuPolicy rescan vmName cfg = .ok () := by
  simp only [introspectVmFull, noErrors_append, noErrors_configOnly, noErrors_devices,
    noErrors_singleton, and_assoc]
  cases preflightGpuPolicy rescan vmName cfg with
  | ok _ => simp
  | error e => simp

end

/-- **What the startup events of a VM decide.**  Whatever the configuration and the inventory are,
there is no error among them exactly if the daemon can make a state machine of the configuration,
each of the four device lists resolves, as it has to when PreparePci plans and verifies, and the GPU
policy passes. -/
theorem introspection_decides (vmName : String) (cfg : VmConfig) (inv : PciInventory)
    (rescan : Except ChalybsError PciInventory) :
    NoErrors (introspectVmFull inv rescan vmName cfg) ↔
      (∃ vm, DaemonVm.new vmName cfg = .ok vm) ∧
        (∀ devs ∈ cfg.devices.lists, inv.resolveConfigured devs = .ok (inv.resolved devs)) ∧
        preflightGpuPolicy rescan vmName cfg = .ok () := by
  simp only [noErrors_full, exists_new_iff, resolveConfigured_eq_ok, and_true,
    requiredPresent_configured]

end Chalybs
