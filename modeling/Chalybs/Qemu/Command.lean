import Chalybs.Cpu.Topology
import Chalybs.Qemu.Devices
import Chalybs.Qemu.Process

/-!
# QEMU's command line

`QemuCommandBuilder` (`qemu.rs`) assembles the arguments of QEMU in ten phases.  What CPUID reports
is a parameter.

* `buildCpuArg` — the value of `-cpu`.
* `QemuCommandBuilder` — the phases, each under its own name, and `buildQemuCommand`, which calls
  them in order.
* `documentedArgs` — the vector as the documentation describes it, section by section.
* `buildQemuCommand_eq_ok` — when a command is built, and its arguments.
* `args_documented_iff` — for which configurations these are the documented ones.
-/

namespace Chalybs

open Foundation

/-! ## The CPU model -/

/-- `map_arch_to_qemu_model`. -/
def mapArchToQemuModel : CpuArch → Option String
  | .AmdZen1OrZenPlus => some "EPYC-v2"
  | .AmdZen2 => some "EPYC-v3"
  | .AmdZen3OrZen4 => some "EPYC-v4"
  | .IntelCoreFamily => some "Skylake-Server"
  | .Arm64Generic => some "cortex-a57"
  | .Unknown => none

/-- `autodetect_qemu_cpu_model`, where CPUID has reported `ident`. -/
def autodetectQemuCpuModel (ident : Option CpuIdentity) : Option String :=
  ident.bind fun ident => mapArchToQemuModel (classifyCpu ident)

/-- The trimmed text, unless nothing is left of it. -/
def nonBlank (s : Option String) : Option String := (s.map trimmed).filter fun s => s ≠ ""

/-- `build_cpu_arg`. -/
def buildCpuArg (ident : Option CpuIdentity) (rt : VmRuntime) : String :=
  let q := rt.cfg.qemu
  let base :=
    match nonBlank q.cpuModel with
    | some rawModel =>
        if rawModel.toLower = "auto" then (autodetectQemuCpuModel ident).getD "host" else rawModel
    | none =>
        match q.cpuExtras with
        | some extra =>
            let abiRaw := trimmed (extra.abi.getD "")
            if abiRaw ≠ "" then abiRaw else "host"
        | none => "host"
  match q.cpuExtras with
  | none => base
  | some extra =>
      commaList ([base] ++ (nonBlank extra.topo).toList ++ (nonBlank extra.hvContexts).toList ++
        (nonBlank extra.vendorId).toList)

/-! ## RTC and SMBIOS -/

def defaultRtc : String := "base=localtime,driftfix=slew"

/-- `apply_rtc_args`.  A value of white space only is treated as an absent one. -/
def applyRtcArgs (args : List String) (rt : VmRuntime) : List String :=
  match nonBlank rt.cfg.qemu.rtc with
  | some val => args ++ ["-rtc", val]
  | none => args ++ ["-rtc", defaultRtc]

/-- The part of a record for one field, if it is configured and not empty. -/
def smbiosPart (key : String) (value : Option String) : List String :=
  match value with
  | some v => if v.isEmpty then [] else [s!"{key}={v}"]
  | none => []

/-- The argument for one record, if it has a part. -/
def pushSmbiosRecord (type : ℕ) (parts args : List String) : List String :=
  if parts.isEmpty then args else args ++ ["-smbios", s!"type={type},{commaList parts}"]

/-- `apply_smbios_args`. -/
def applySmbiosArgs (args : List String) (rt : VmRuntime) : List String :=
  match rt.cfg.qemu.smbios with
  | none => args
  | some smb =>
      let t0Parts := smbiosPart "vendor" smb.biosVendor ++ smbiosPart "version" smb.biosVersion ++
        smbiosPart "date" smb.biosDate
      let args := pushSmbiosRecord 0 t0Parts args
      let t1Parts := smbiosPart "manufacturer" smb.systemManufacturer ++
        smbiosPart "product" smb.systemProductName ++ smbiosPart "uuid" smb.systemUuid
      let args := pushSmbiosRecord 1 t1Parts args
      let t2Parts := smbiosPart "manufacturer" smb.baseboardManufacturer ++
        smbiosPart "product" smb.baseboardProduct
      pushSmbiosRecord 2 t2Parts args

/-! ## The builder -/

/-- `qmp_path_for_vm`. -/
def qmpPathForVm (vmName : String) : String := s!"/run/chalybs/{vmName}.qmp"

/-- `split_whitespace`, on strings. -/
def words (s : String) : List String := (splitWhitespace s.toList).map String.ofList

/-- `QemuCommandBuilder`. -/
structure QemuCommandBuilder where
  rt : VmRuntime
  binary : String
  args : List String
  qmpPath : String

namespace QemuCommandBuilder

def new (rt : VmRuntime) : QemuCommandBuilder where
  rt
  binary := rt.cfg.qemu.binary
  args := []
  qmpPath := qmpPathForVm rt.name

/-- `self.args.push`, for each of the arguments. -/
def push (b : QemuCommandBuilder) (args : List String) : QemuCommandBuilder :=
  { b with args := b.args ++ args }

def applyPreArgs (b : QemuCommandBuilder) : QemuCommandBuilder :=
  match b.rt.cfg.qemu.preArgs with
  | some pre => b.push (words pre)
  | none => b

def applyCoreArgs (ident : Option CpuIdentity) (b : QemuCommandBuilder) : QemuCommandBuilder :=
  let q := b.rt.cfg.qemu
  let b := b.push ["-enable-kvm", "-cpu", buildCpuArg ident b.rt, "-smp", s!"{q.numVcpus}",
    "-m", s!"{q.memMb}"]
  if b.rt.hugepages.active then b.push ["-mem-prealloc", "-mem-path", "/dev/hugepages"] else b

def applyMachineAndFirmware (b : QemuCommandBuilder) : QemuCommandBuilder :=
  let q := b.rt.cfg.qemu
  b.push ["-machine", "q35,accel=kvm",
    "-drive", s!"if=pflash,format=raw,readonly=on,file={q.ovmfCode}",
    "-drive", s!"if=pflash,format=raw,file={q.ovmfVars}",
    "-qmp", s!"unix:{b.qmpPath},server,nowait"]

def applyRtc (b : QemuCommandBuilder) : QemuCommandBuilder :=
  { b with args := applyRtcArgs b.args b.rt }

def applySmbios (b : QemuCommandBuilder) : QemuCommandBuilder :=
  { b with args := applySmbiosArgs b.args b.rt }

def applyVfioPciDevices (b : QemuCommandBuilder) : Except ChalybsError QemuCommandBuilder := do
  let args ← addVfioPciDevices b.args b.rt
  pure { b with args }

def applyLookingGlass (b : QemuCommandBuilder) : QemuCommandBuilder :=
  match b.rt.cfg.peripherals.bind PeripheralConfig.lookingGlass with
  | none => b
  | some lg =>
      if lg.memMb = 0 then b
      else b.push ["-object", s!"memory-backend-file,id=ivshmem,share=on,mem-path={lg.shmName}," ++
          s!"size={lg.memMb}M",
        "-device", "ivshmem-plain,memdev=ivshmem,bus=pcie.0"]

/-- The virtio-serial controller has a fixed slot. -/
def applySpice (b : QemuCommandBuilder) : Except ChalybsError QemuCommandBuilder :=
  match b.rt.cfg.peripherals.bind PeripheralConfig.spice with
  | none => .ok b
  | some spice =>
      if spice.enabled = false then .ok b
      else if spice.port = 0 then
        .error (.Qemu (s!"vm {b.rt.name}: peripherals.spice.enabled = true but port=0; " ++
          "please set a valid SPICE TCP port"))
      else
        let addr := trimmed spice.addr
        if addr = "" then
          .error (.Qemu (s!"vm {b.rt.name}: peripherals.spice.enabled = true but addr is " ++
            "empty; please set peripherals.spice.addr"))
        else .ok (b.push ["-device",
          "virtio-serial-pci,id=virtio-serial0,max_ports=16,bus=pcie.0,addr=0x10",
          "-chardev", "spicevmc,name=vdagent,id=vdagent",
          "-device", "virtserialport,nr=1,bus=virtio-serial0.0,chardev=vdagent," ++
            "name=com.redhat.spice.0",
          "-spice", s!"port={spice.port},addr={addr},disable-ticketing=on"])

def applyMidArgs (b : QemuCommandBuilder) : QemuCommandBuilder :=
  if trimmed b.rt.cfg.qemu.args ≠ "" then b.push (words b.rt.cfg.qemu.args) else b

def applyPostArgs (b : QemuCommandBuilder) : QemuCommandBuilder :=
  match b.rt.cfg.qemu.postArgs with
  | some post => b.push (words post)
  | none => b

def build (b : QemuCommandBuilder) : QemuCommand where
  binary := b.binary
  args := b.args
  qmpPath := b.qmpPath

end QemuCommandBuilder

/-- The phases as `launch` calls them. -/
def buildQemuCommand (ident : Option CpuIdentity) (rt : VmRuntime) :
    Except ChalybsError QemuCommand := do
  let b := QemuCommandBuilder.new rt
  let b := b.applyPreArgs
  let b := b.applyCoreArgs ident
  let b := b.applyMachineAndFirmware
  let b := b.applyRtc
  let b := b.applySmbios
  let b ← b.applyVfioPciDevices
  let b := b.applyLookingGlass
  let b ← b.applySpice
  let b := b.applyMidArgs
  let b := b.applyPostArgs
  pure b.build

/-! ## The documented vector -/

/-- `cpu_model`, where `auto` stands for the detected model, or else the ABI, or else `host`. -/
def documentedModel (ident : Option CpuIdentity) (q : QemuConfig) : String :=
  let configured := (nonBlank q.cpuModel).map fun model =>
    if model.toLower = "auto" then (autodetectQemuCpuModel ident).getD "host" else model
  let abi := nonBlank (q.cpuExtras.bind CpuExtrasConfig.abi)
  (configured.or abi).getD "host"

/-- The model and the extras that are not blank. -/
def documentedCpu (ident : Option CpuIdentity) (q : QemuConfig) : String :=
  let extras := q.cpuExtras.toList.flatMap fun extra =>
    [extra.topo, extra.hvContexts, extra.vendorId].filterMap nonBlank
  commaList (documentedModel ident q :: extras)

def documentedCore (ident : Option CpuIdentity) (rt : VmRuntime) : List String :=
  let q := rt.cfg.qemu
  ["-enable-kvm"] ++ ["-cpu", documentedCpu ident q] ++ ["-smp", s!"{q.numVcpus}"] ++
    ["-m", s!"{q.memMb}"] ++
    if rt.hugepages.active then ["-mem-prealloc", "-mem-path", "/dev/hugepages"] else []

def documentedMachine (rt : VmRuntime) : List String :=
  ["-machine", "q35,accel=kvm"] ++
    ["-drive", s!"if=pflash,format=raw,readonly=on,file={rt.cfg.qemu.ovmfCode}"] ++
    ["-drive", s!"if=pflash,format=raw,file={rt.cfg.qemu.ovmfVars}"] ++
    ["-qmp", s!"unix:{qmpPathForVm rt.name},server,nowait"]

/-- Three ways: an explicit value, none at all where that is blank, and a default. -/
def documentedRtc (rt : VmRuntime) : List String :=
  match rt.cfg.qemu.rtc with
  | none => ["-rtc", "base=localtime,driftfix=slew"]
  | some rtc => if trimmed rtc = "" then [] else ["-rtc", trimmed rtc]

/-- The fields of the SMBIOS record of each type, under QEMU's keys. -/
def SmbiosConfig.fields (smb : SmbiosConfig) : ℕ → List (String × Option String)
  | 0 => [("vendor", smb.biosVendor), ("version", smb.biosVersion), ("date", smb.biosDate)]
  | 1 => [("manufacturer", smb.systemManufacturer), ("product", smb.systemProductName),
      ("uuid", smb.systemUuid)]
  | 2 => [("manufacturer", smb.baseboardManufacturer), ("product", smb.baseboardProduct)]
  | _ => []

/-- The fields that are configured and not empty. -/
def presentFields (fields : List (String × Option String)) : List (String × String) :=
  fields.filterMap fun field =>
    (field.2.filter fun value => value ≠ "").map fun value => (field.1, value)

/-- The fields that are to be in the record of a type. -/
def VmConfig.smbiosFields (cfg : VmConfig) (type : ℕ) : List (String × String) :=
  cfg.qemu.smbios.elim [] fun smb => presentFields (smb.fields type)

/-- A record is emitted if it has a field. -/
def documentedRecord (type : ℕ) (fields : List (String × String)) : List String :=
  if fields = [] then []
  else ["-smbios", commaList (s!"type={type}" :: fields.map fun field => s!"{field.1}={field.2}")]

def documentedSmbios (rt : VmRuntime) : List String :=
  [0, 1, 2].flatMap fun type => documentedRecord type (rt.cfg.smbiosFields type)

/-- The properties of a passthrough device, which has no option ROM if it is listed in `rombar_off`,
and the slot of the map. -/
def documentedDevice (rt : VmRuntime) (map : AList fun _ : String => String)
    (legacyPrimary : Bool) (dev : PciDeviceConfig) : String :=
  commaList (["vfio-pci", s!"host={dev.pciAddress}"] ++
    (if legacyPrimary then ["multifunction=on", "x-vga=on"] else []) ++
    (if dev.pciAddress ∈ rt.cfg.qemu.rombarOff.getD [] then ["rombar=0"] else []) ++
    (map.lookup dev.pciAddress).elim [] fun slot => ["bus=pcie.0", s!"addr={slot}"])

/-- The passthrough devices.  The first GPU, however many there are, is the legacy primary one where
the configuration says so. -/
def documentedDevices (rt : VmRuntime) (map : AList fun _ : String => String) : List String :=
  let gpus := deviceList rt.cfg.devices.gpu
  let devices := (gpus.take 1).map (documentedDevice rt map rt.cfg.qemu.legacyPrimaryGpu) ++
    (gpus.drop 1 ++ deviceList rt.cfg.devices.nvme ++ deviceList rt.cfg.devices.nic ++
      deviceList rt.cfg.devices.usb).map (documentedDevice rt map false)
  devices.flatMap fun device => ["-device", device]

def documentedLookingGlass (rt : VmRuntime) : List String :=
  match rt.cfg.peripherals.bind PeripheralConfig.lookingGlass with
  | none => []
  | some lg =>
      if lg.memMb = 0 then []
      else
        ["-object", s!"memory-backend-file,id=ivshmem,share=on,mem-path={lg.shmName}," ++
          s!"size={lg.memMb}M"] ++
        ["-device", "ivshmem-plain,memdev=ivshmem,bus=pcie.0"]

/-- The SPICE server, if it is enabled. -/
def VmConfig.spiceServer (cfg : VmConfig) : Option SpiceConfig :=
  (cfg.peripherals.bind PeripheralConfig.spice).filter SpiceConfig.enabled

def documentedSpice (rt : VmRuntime) : List String :=
  match rt.cfg.spiceServer with
  | none => []
  | some spice =>
      ["-device", "virtio-serial-pci,id=virtio-serial0,max_ports=16,bus=pcie.0,addr=0x10"] ++
        ["-chardev", "spicevmc,name=vdagent,id=vdagent"] ++
        ["-device", "virtserialport,nr=1,bus=virtio-serial0.0,chardev=vdagent," ++
          "name=com.redhat.spice.0"] ++
        ["-spice", s!"port={spice.port},addr={trimmed spice.addr},disable-ticketing=on"]

/-- **The documented vector**, with the slots of a root-port map. -/
def documentedArgs (ident : Option CpuIdentity) (rt : VmRuntime)
    (map : AList fun _ : String => String) : List String :=
  words (rt.cfg.qemu.preArgs.getD "") ++ documentedCore ident rt ++ documentedMachine rt ++
    documentedRtc rt ++ documentedSmbios rt ++ documentedDevices rt map ++
    documentedLookingGlass rt ++ documentedSpice rt ++ words rt.cfg.qemu.args ++
    words (rt.cfg.qemu.postArgs.getD "")

/-- The values of an option, in a section in which every option has a value. -/
def optionValues (option : String) : List String → List String
  | name :: value :: args =>
      if name = option then value :: optionValues option args else optionValues option args
  | _ => []

/-! ## What the phases append -/

/-- What `apply_rtc_args` appends. -/
def emittedRtc (rt : VmRuntime) : List String :=
  ["-rtc", (nonBlank rt.cfg.qemu.rtc).getD defaultRtc]

/-- The arguments for the devices that are attached. -/
def deviceArgs (devices : List VfioDevice) : List String :=
  devices.flatMap fun dev => ["-device", dev.params]

lemma nonBlank_none : nonBlank none = none := rfl

lemma nonBlank_some (s : String) :
    nonBlank (some s) = if trimmed s = "" then none else some (trimmed s) := by
  by_cases hblank : trimmed s = "" <;> simp [nonBlank, Option.filter, hblank]

/-- Text that is blank has no words. -/
lemma words_of_blank {s : String} (h : trimmed s = "") : words s = [] := by
  have hblank : ∀ c ∈ s.toList, isWhitespace c = true := by
    have htrim : trim s.toList = [] := by
      have := congrArg String.toList h
      simpa [trimmed] using this
    rw [trim, List.reverse_eq_nil_iff, List.dropWhile_eq_nil_iff] at htrim
    have hdrop : s.toList.dropWhile isWhitespace = [] := by
      by_contra hne
      have hhead := List.head_dropWhile_not isWhitespace hne
      rw [htrim _ (List.mem_reverse.mpr (List.head_mem hne))] at hhead
      cases hhead
    exact List.dropWhile_eq_nil_iff.mp hdrop
  have hparts : ∀ cs : List Char, (∀ c ∈ cs, isWhitespace c = true) → splitWhitespace cs = [] := by
    intro cs hcs
    induction cs with
    | nil => rfl
    | cons c cs ih =>
        have hc := hcs c List.mem_cons_self
        have hrest := ih fun d hd => hcs d (List.mem_cons_of_mem c hd)
        rw [splitWhitespace, List.splitOnP_cons_eq_if_modifyHead, if_pos hc,
          List.filter_cons_of_neg (by simp)]
        exact hrest
  rw [words, hparts _ hblank, List.map_nil]

lemma commaList_singleton (s : String) : commaList [s] = s := by
  rw [commaList, joinWith, String.intercalate_singleton]

lemma commaList_cons (s : String) {parts : List String} (h : parts ≠ []) :
    commaList (s :: parts) = s ++ "," ++ commaList parts :=
  String.intercalate_cons_of_ne_nil h

lemma documentedModel_of_extras {q : QemuConfig} {extra : CpuExtrasConfig}
    (hmodel : nonBlank q.cpuModel = none) (hextra : q.cpuExtras = some extra)
    (ident : Option CpuIdentity) :
    documentedModel ident q =
      if trimmed (extra.abi.getD "") ≠ "" then trimmed (extra.abi.getD "") else "host" := by
  have hempty : trimmed "" = "" := rfl
  rw [documentedModel, hmodel, hextra]
  cases extra with
  | mk abi topo hvContexts vendorId =>
      cases abi with
      | none => simp [nonBlank_none, hempty]
      | some abi => by_cases hblank : trimmed abi = "" <;> simp [nonBlank_some, hblank]

/-- **The value of `-cpu`** is the documented one. -/
lemma buildCpuArg_eq (ident : Option CpuIdentity) (rt : VmRuntime) :
    buildCpuArg ident rt = documentedCpu ident rt.cfg.qemu := by
  have hlist : ∀ extra : CpuExtrasConfig,
      [extra.topo, extra.hvContexts, extra.vendorId].filterMap nonBlank =
        (nonBlank extra.topo).toList ++ (nonBlank extra.hvContexts).toList ++
          (nonBlank extra.vendorId).toList := by
    intro extra
    cases htopo : nonBlank extra.topo <;> cases hhv : nonBlank extra.hvContexts <;>
      cases hvendor : nonBlank extra.vendorId <;> simp [htopo, hhv, hvendor]
  rw [buildCpuArg, documentedCpu]
  cases hmodel : nonBlank rt.cfg.qemu.cpuModel with
  | some model =>
      cases hextra : rt.cfg.qemu.cpuExtras with
      | none => simp [documentedModel, hmodel, commaList_singleton]
      | some extra => simp [documentedModel, hmodel, hlist]
  | none =>
      cases hextra : rt.cfg.qemu.cpuExtras with
      | none => simp [documentedModel, hmodel, hextra, commaList_singleton, nonBlank_none]
      | some extra => simp [documentedModel_of_extras hmodel hextra, hlist]

lemma presentFields_cons (key : String) (value : Option String)
    (fields : List (String × Option String)) :
    presentFields ((key, value) :: fields) =
      (value.elim [] fun v => if v = "" then [] else [(key, v)]) ++ presentFields fields := by
  rw [presentFields, presentFields, List.filterMap_cons]
  cases value with
  | none => rfl
  | some v => by_cases hempty : v = "" <;> simp [Option.filter, hempty]

/-- The text of a record whose parts are those of the fields. -/
lemma smbiosParts_eq (fields : List (String × Option String)) :
    (fields.flatMap fun field => smbiosPart field.1 field.2) =
      (presentFields fields).map fun field => s!"{field.1}={field.2}" := by
  induction fields with
  | nil => rfl
  | cons field fields ih =>
      obtain ⟨key, value⟩ := field
      rw [List.flatMap_cons, ih, presentFields_cons, List.map_append]
      congr 1
      cases value with
      | none => rfl
      | some v => by_cases hempty : v = "" <;> simp [smbiosPart, hempty]

lemma pushSmbiosRecord_eq (type : ℕ) (fields : List (String × Option String))
    (args : List String) :
    pushSmbiosRecord type (fields.flatMap fun field => smbiosPart field.1 field.2) args =
      args ++ documentedRecord type (presentFields fields) := by
  rw [smbiosParts_eq, pushSmbiosRecord, documentedRecord]
  cases hfields : presentFields fields with
  | nil => simp
  | cons field rest =>
      have hne : (field :: rest).map (fun field => s!"{field.1}={field.2}") ≠ [] := by simp
      have hrecord := commaList_cons s!"type={type}" hne
      rw [if_neg (by simp), if_neg (by simp), hrecord]
      rfl

/-- **The SMBIOS records** are the documented ones. -/
lemma applySmbiosArgs_eq (args : List String) (rt : VmRuntime) :
    applySmbiosArgs args rt = args ++ documentedSmbios rt := by
  cases hsmb : rt.cfg.qemu.smbios with
  | none => simp [applySmbiosArgs, documentedSmbios, VmConfig.smbiosFields, documentedRecord, hsmb]
  | some smb =>
      have hrecord := fun type => pushSmbiosRecord_eq type (smb.fields type)
      have h0 := hrecord 0
      have h1 := hrecord 1
      have h2 := hrecord 2
      simp only [SmbiosConfig.fields, List.flatMap_cons, List.flatMap_nil, List.append_nil,
        ← List.append_assoc] at h0 h1 h2
      simp only [applySmbiosArgs, hsmb, h0, h1, h2]
      simp [documentedSmbios, VmConfig.smbiosFields, hsmb, SmbiosConfig.fields]

lemma applyRtcArgs_eq (args : List String) (rt : VmRuntime) :
    applyRtcArgs args rt = args ++ emittedRtc rt := by
  rw [applyRtcArgs, emittedRtc]
  cases nonBlank rt.cfg.qemu.rtc <;> rfl

namespace QemuCommandBuilder

variable {b b' : QemuCommandBuilder} {args args' : List String}

@[simp] lemma push_rt : (b.push args).rt = b.rt := rfl

@[simp] lemma push_qmpPath : (b.push args).qmpPath = b.qmpPath := rfl

@[simp] lemma push_push : (b.push args).push args' = b.push (args ++ args') := by
  simp [push]

@[simp] lemma push_nil : b.push [] = b := by simp [push]

lemma words_empty : words "" = [] := by rfl

lemma applyPreArgs_eq : b.applyPreArgs = b.push (words (b.rt.cfg.qemu.preArgs.getD "")) := by
  rw [applyPreArgs]
  cases b.rt.cfg.qemu.preArgs <;> simp [words_empty]

lemma applyPostArgs_eq : b.applyPostArgs = b.push (words (b.rt.cfg.qemu.postArgs.getD "")) := by
  rw [applyPostArgs]
  cases b.rt.cfg.qemu.postArgs <;> simp [words_empty]

lemma applyMidArgs_eq : b.applyMidArgs = b.push (words b.rt.cfg.qemu.args) := by
  rw [applyMidArgs]
  split_ifs with hargs
  · rfl
  · rw [words_of_blank (not_not.mp hargs), push_nil]

lemma applyCoreArgs_eq (ident : Option CpuIdentity) :
    b.applyCoreArgs ident = b.push (documentedCore ident b.rt) := by
  rw [applyCoreArgs, documentedCore, buildCpuArg_eq]
  cases hactive : b.rt.hugepages.active <;> simp [hactive]

lemma applyMachineAndFirmware_eq (h : b.qmpPath = qmpPathForVm b.rt.name) :
    b.applyMachineAndFirmware = b.push (documentedMachine b.rt) := by
  simp [applyMachineAndFirmware, documentedMachine, h]

lemma applyRtc_eq : b.applyRtc = b.push (emittedRtc b.rt) := by
  rw [applyRtc, applyRtcArgs_eq, push]

lemma applySmbios_eq : b.applySmbios = b.push (documentedSmbios b.rt) := by
  rw [applySmbios, applySmbiosArgs_eq, push]

lemma applyVfioPciDevices_eq_ok : b.applyVfioPciDevices = .ok b' ↔
    ∃ map, buildPciRootportMap b.rt = .ok map ∧
      b' = b.push (deviceArgs (vfioDevices b.rt map)) := by
  rw [applyVfioPciDevices, addVfioPciDevices]
  cases buildPciRootportMap b.rt with
  | error e => simp [Bind.bind, Except.bind]
  | ok map => simp [Bind.bind, Except.bind, pure, Except.pure, push, deviceArgs, eq_comm]

lemma applyLookingGlass_eq : b.applyLookingGlass = b.push (documentedLookingGlass b.rt) := by
  rw [applyLookingGlass, documentedLookingGlass]
  cases b.rt.cfg.peripherals.bind PeripheralConfig.lookingGlass with
  | none => simp
  | some lg => by_cases hzero : lg.memMb = 0 <;> simp [hzero]

end QemuCommandBuilder

/-- A SPICE server that is enabled has a port and an address. -/
def VmRuntime.SpiceUsable (rt : VmRuntime) : Prop :=
  ∀ spice ∈ rt.cfg.spiceServer, spice.port ≠ 0 ∧ trimmed spice.addr ≠ ""

lemma VmConfig.spiceServer_eq {cfg : VmConfig} {spice : SpiceConfig}
    (h : cfg.peripherals.bind PeripheralConfig.spice = some spice) :
    cfg.spiceServer = if spice.enabled then some spice else none := by
  rw [spiceServer, h]
  cases henabled : spice.enabled <;> simp [henabled]

lemma QemuCommandBuilder.applySpice_eq_ok {b b' : QemuCommandBuilder} :
    b.applySpice = .ok b' ↔ b.rt.SpiceUsable ∧ b' = b.push (documentedSpice b.rt) := by
  have hok : ∀ b'' : QemuCommandBuilder, (Except.ok b'' : Except ChalybsError _) = .ok b' ↔
      b' = b'' := fun b'' => by rw [Except.ok.injEq, eq_comm]
  rw [applySpice, VmRuntime.SpiceUsable, documentedSpice]
  cases hspice : b.rt.cfg.peripherals.bind PeripheralConfig.spice with
  | none => simp [VmConfig.spiceServer, hspice, hok]
  | some spice =>
      rw [VmConfig.spiceServer_eq hspice]
      cases henabled : spice.enabled with
      | false => simp [henabled, hok]
      | true =>
          by_cases hport : spice.port = 0
          · simp [henabled, hport]
          · by_cases haddr : trimmed spice.addr = ""
            · simp [henabled, hport, haddr]
            · simp [henabled, hport, haddr, hok]

/-- The vector that is built, with the slots of a root-port map. -/
def emittedArgs (ident : Option CpuIdentity) (rt : VmRuntime)
    (map : AList fun _ : String => String) : List String :=
  words (rt.cfg.qemu.preArgs.getD "") ++ documentedCore ident rt ++ documentedMachine rt ++
    emittedRtc rt ++ documentedSmbios rt ++ deviceArgs (vfioDevices rt map) ++
    documentedLookingGlass rt ++ documentedSpice rt ++ words rt.cfg.qemu.args ++
    words (rt.cfg.qemu.postArgs.getD "")

/-- **When a command is built**, and what it is. -/
lemma buildQemuCommand_eq_ok {ident : Option CpuIdentity} {rt : VmRuntime} {cmd : QemuCommand} :
    buildQemuCommand ident rt = .ok cmd ↔ ∃ map, buildPciRootportMap rt = .ok map ∧
      rt.SpiceUsable ∧
      cmd = ⟨rt.cfg.qemu.binary, emittedArgs ident rt map, qmpPathForVm rt.name⟩ := by
  have hrt : (QemuCommandBuilder.new rt).rt = rt := rfl
  have hmachine : ∀ args, ((QemuCommandBuilder.new rt).push args).applyMachineAndFirmware =
      (QemuCommandBuilder.new rt).push (args ++ documentedMachine rt) := by
    intro args
    rw [QemuCommandBuilder.applyMachineAndFirmware_eq rfl, QemuCommandBuilder.push_push]
    rfl
  have hbuild : ∀ args, ((QemuCommandBuilder.new rt).push args).build =
      ⟨rt.cfg.qemu.binary, args, qmpPathForVm rt.name⟩ := fun args => rfl
  simp only [buildQemuCommand, QemuCommandBuilder.applyPreArgs_eq,
    QemuCommandBuilder.applyCoreArgs_eq, hmachine, QemuCommandBuilder.applyRtc_eq,
    QemuCommandBuilder.applySmbios_eq, QemuCommandBuilder.applyLookingGlass_eq,
    QemuCommandBuilder.applyMidArgs_eq, QemuCommandBuilder.applyPostArgs_eq,
    QemuCommandBuilder.push_rt, QemuCommandBuilder.push_push, hrt, except_bind_eq_ok,
    QemuCommandBuilder.applyVfioPciDevices_eq_ok, QemuCommandBuilder.applySpice_eq_ok]
  constructor
  · rintro ⟨b, ⟨map, hmap, rfl⟩, b', ⟨husable, rfl⟩, hcmd⟩
    refine ⟨map, hmap, husable, ?_⟩
    simpa [hbuild, hrt, emittedArgs, eq_comm, pure, Except.pure] using hcmd
  · rintro ⟨map, hmap, husable, rfl⟩
    refine ⟨_, ⟨map, hmap, rfl⟩, _, ⟨husable, rfl⟩, ?_⟩
    simp [hbuild, hrt, emittedArgs, pure, Except.pure]

/-! ## When these are the documented arguments -/

/-- The RTC is configured, and left blank. -/
def QemuConfig.RtcBlank (q : QemuConfig) : Prop := ∃ rtc ∈ q.rtc, trimmed rtc = ""

/-- The only GPU is to be a legacy primary one. -/
def VmConfig.SoleLegacyGpu (cfg : VmConfig) : Prop :=
  cfg.qemu.legacyPrimaryGpu = true ∧ (deviceList cfg.devices.gpu).length = 1

section

variable {rt : VmRuntime} {map : AList fun _ : String => String}

lemma length_documentedRtc_of_blank (h : rt.cfg.qemu.RtcBlank) :
    (documentedRtc rt).length ≠ (emittedRtc rt).length := by
  obtain ⟨rtc, hrtc, hblank⟩ := h
  have hrtc' : rt.cfg.qemu.rtc = some rtc := hrtc
  simp [documentedRtc, emittedRtc, hrtc', hblank]

lemma emittedRtc_eq (h : ¬ rt.cfg.qemu.RtcBlank) : emittedRtc rt = documentedRtc rt := by
  rw [emittedRtc, documentedRtc]
  cases hrtc : rt.cfg.qemu.rtc with
  | none => rfl
  | some rtc =>
      have hnot : trimmed rtc ≠ "" := fun hblank => h ⟨rtc, hrtc, hblank⟩
      simp [nonBlank_some, hnot]

/-- The flag shows in the text, whatever the rest of the device is. -/
lemma params_legacyPrimary (dev : VfioDevice) (legacyPrimary legacyPrimary' : Bool) :
    { dev with legacyPrimary }.params = { dev with legacyPrimary := legacyPrimary' }.params ↔
      legacyPrimary = legacyPrimary' := by
  constructor
  · intro h
    have hlength := congrArg String.length h
    unfold VfioDevice.params at hlength
    simp only [String.length_append] at hlength
    cases legacyPrimary <;> cases legacyPrimary' <;> simp at hlength ⊢
  · rintro rfl
    rfl

lemma deviceArgs_cons (dev : VfioDevice) (devices : List VfioDevice) :
    deviceArgs (dev :: devices) = "-device" :: dev.params :: deviceArgs devices := rfl

/-- **The text of a device** has the documented properties. -/
lemma params_attachDevice (legacyPrimary : Bool) (dev : PciDeviceConfig) :
    (attachDevice rt map legacyPrimary dev).params = documentedDevice rt map legacyPrimary dev := by
  have hmem : (rt.cfg.qemu.rombarOff.getD []).contains dev.pciAddress =
      decide (dev.pciAddress ∈ rt.cfg.qemu.rombarOff.getD []) := List.contains_eq_mem _ _
  have htext : ∀ s : String, toString s = s := fun _ => rfl
  unfold attachDevice VfioDevice.params documentedDevice
  rw [hmem]
  refine String.toList_inj.mp ?_
  by_cases hrombar : dev.pciAddress ∈ rt.cfg.qemu.rombarOff.getD [] <;>
    cases map.lookup dev.pciAddress <;> cases legacyPrimary <;>
    simp [hrombar, htext, commaList_cons, commaList_singleton]

/-- The flag of the legacy primary GPU shows in the text. -/
lemma documentedDevice_inj {legacyPrimary legacyPrimary' : Bool} {dev : PciDeviceConfig} :
    documentedDevice rt map legacyPrimary dev = documentedDevice rt map legacyPrimary' dev ↔
      legacyPrimary = legacyPrimary' := by
  rw [← params_attachDevice, ← params_attachDevice]
  exact params_legacyPrimary (attachDevice rt map false dev) legacyPrimary legacyPrimary'

lemma deviceArgs_eq (devices : List VfioDevice) :
    deviceArgs devices =
      (devices.map VfioDevice.params).flatMap fun device => ["-device", device] := by
  rw [List.flatMap_map]
  rfl

/-- Only the first GPU may be attached in another way than it is documented. -/
lemma deviceArgs_of_gpus {gpu : PciDeviceConfig} {gpus : List PciDeviceConfig}
    (h : deviceList rt.cfg.devices.gpu = gpu :: gpus) : ∃ rest,
    deviceArgs (vfioDevices rt map) = "-device" :: documentedDevice rt map
        (rt.cfg.qemu.legacyPrimaryGpu && decide (1 < (gpu :: gpus).length)) gpu :: rest ∧
      documentedDevices rt map =
        "-device" :: documentedDevice rt map rt.cfg.qemu.legacyPrimaryGpu gpu :: rest := by
  have hrest : (gpus.mapIdx fun _ dev => attachDevice rt map false dev) =
      gpus.map (attachDevice rt map false) :=
    List.ext_getElem (by simp) fun i _ _ => by simp
  refine ⟨((gpus ++ deviceList rt.cfg.devices.nvme ++ deviceList rt.cfg.devices.nic ++
    deviceList rt.cfg.devices.usb).map (documentedDevice rt map false)).flatMap
      fun device => ["-device", device], ?_, ?_⟩
  · simp [deviceArgs_eq, vfioDevices, attachGpus, addGenericList, Function.comp_def,
      params_attachDevice, h, List.mapIdx_cons, hrest]
  · simp [documentedDevices, h]

lemma deviceArgs_of_no_gpus (h : deviceList rt.cfg.devices.gpu = []) :
    deviceArgs (vfioDevices rt map) = documentedDevices rt map := by
  simp [deviceArgs_eq, vfioDevices, attachGpus, addGenericList, Function.comp_def,
    params_attachDevice, documentedDevices, h]

lemma length_documentedDevices :
    (documentedDevices rt map).length = (deviceArgs (vfioDevices rt map)).length := by
  cases hgpus : deviceList rt.cfg.devices.gpu with
  | nil => rw [deviceArgs_of_no_gpus hgpus]
  | cons gpu gpus =>
      obtain ⟨rest, hattached, hdocumented⟩ := @deviceArgs_of_gpus rt map _ _ hgpus
      rw [hattached, hdocumented, List.length_cons, List.length_cons, List.length_cons,
        List.length_cons]

/-- **The passthrough devices** are attached as documented unless the only GPU is to be a legacy
primary one. -/
lemma deviceArgs_eq_iff :
    deviceArgs (vfioDevices rt map) = documentedDevices rt map ↔ ¬ rt.cfg.SoleLegacyGpu := by
  rw [VmConfig.SoleLegacyGpu]
  cases hgpus : deviceList rt.cfg.devices.gpu with
  | nil => simp [deviceArgs_of_no_gpus hgpus]
  | cons gpu gpus =>
      obtain ⟨rest, hattached, hdocumented⟩ := @deviceArgs_of_gpus rt map _ _ hgpus
      rw [hattached, hdocumented]
      simp only [List.cons.injEq, true_and, and_true, documentedDevice_inj]
      cases rt.cfg.qemu.legacyPrimaryGpu with
      | false => simp
      | true => cases gpus <;> simp

end

/-- **When the vector is the documented one**, for a VM for which a command is built: unless the RTC
is configured and left blank, or the only GPU is to be a legacy primary one. -/
theorem args_documented_iff {ident : Option CpuIdentity} {rt : VmRuntime} {cmd : QemuCommand}
    (h : buildQemuCommand ident rt = .ok cmd) :
    (∃ map, buildPciRootportMap rt = .ok map ∧ cmd.args = documentedArgs ident rt map) ↔
      ¬ rt.cfg.qemu.RtcBlank ∧ ¬ rt.cfg.SoleLegacyGpu := by
  obtain ⟨map, hmap, -, rfl⟩ := buildQemuCommand_eq_ok.mp h
  have hargs : (∃ map', buildPciRootportMap rt = .ok map' ∧
      emittedArgs ident rt map = documentedArgs ident rt map') ↔
      emittedArgs ident rt map = documentedArgs ident rt map := by
    rw [hmap]
    simp
  refine hargs.trans ?_
  rw [emittedArgs, documentedArgs]
  simp only [List.append_assoc, List.append_cancel_left_eq]
  by_cases hblank : rt.cfg.qemu.RtcBlank
  · refine iff_of_false (fun heq => ?_) (fun hnot => hnot.1 hblank)
    have hlength := congrArg List.length heq
    simp only [List.length_append, length_documentedDevices] at hlength
    exact length_documentedRtc_of_blank hblank (by omega)
  · have hdevices := @deviceArgs_eq_iff rt map
    simp [hblank, emittedRtc_eq hblank, hdevices]

/-- A VM with GPUs of which the first is to be a legacy primary one. -/
def withLegacyGpu (gpus : List PciDeviceConfig) (rtc : Option String) : VmRuntime :=
  let rt := runtimeWith { gpu := some gpus }
  { rt with cfg := { rt.cfg with qemu := { rt.cfg.qemu with rtc, legacyPrimaryGpu := true } } }

/-- The command of such a VM, given the arguments for its clock and its devices. -/
def commandWith (sections : List String) : QemuCommand where
  binary := "/usr/bin/qemu-system-x86_64"
  args := ["-enable-kvm", "-cpu", "host", "-smp", "2", "-m", "2048",
    "-machine", "q35,accel=kvm",
    "-drive", "if=pflash,format=raw,readonly=on,file=/usr/share/OVMF/OVMF_CODE.fd",
    "-drive", "if=pflash,format=raw,file=/var/lib/libvirt/qemu/nvram/test_VARS.fd",
    "-qmp", "unix:/run/chalybs/a.qmp,server,nowait"] ++ sections
  qmpPath := "/run/chalybs/a.qmp"

def oneGpu : VmRuntime := withLegacyGpu [{ pciAddress := "0000:01:00.0" }] none

def twoGpus (rtc : String) : VmRuntime :=
  withLegacyGpu [{ pciAddress := "0000:01:00.0" }, { pciAddress := "0000:02:00.0" }] (some rtc)

/-- The two GPUs as they are documented. -/
def twoGpuArgs : List String :=
  ["-device", "vfio-pci,host=0000:01:00.0,multifunction=on,x-vga=on,bus=pcie.0,addr=0x01",
    "-device", "vfio-pci,host=0000:02:00.0,bus=pcie.0,addr=0x02"]

theorem args_documented_twoGpus : ∃ map, buildPciRootportMap (twoGpus " utc ") = .ok map ∧
    (commandWith (["-rtc", "utc"] ++ twoGpuArgs)).args =
      documentedArgs none (twoGpus " utc ") map := by
  refine (args_documented_iff (by decide +kernel)).mpr ⟨?_, ?_⟩
  · rintro ⟨_, ⟨⟩, hblank⟩
    exact absurd hblank (by decide)
  · rintro ⟨-, hone⟩
    cases hone

/-- A blank value brings the default clock, and the only GPU is attached as any other device. -/
theorem undocumented_args :
    (buildQemuCommand none (twoGpus " ") =
        .ok (commandWith (["-rtc", "base=localtime,driftfix=slew"] ++ twoGpuArgs)) ∧
      ¬ ∃ map, buildPciRootportMap (twoGpus " ") = .ok map ∧
        (commandWith (["-rtc", "base=localtime,driftfix=slew"] ++ twoGpuArgs)).args =
          documentedArgs none (twoGpus " ") map) ∧
    buildQemuCommand none oneGpu = .ok (commandWith ["-rtc", "base=localtime,driftfix=slew",
        "-device", "vfio-pci,host=0000:01:00.0,bus=pcie.0,addr=0x01"]) ∧
      ¬ ∃ map, buildPciRootportMap oneGpu = .ok map ∧
        (commandWith ["-rtc", "base=localtime,driftfix=slew", "-device",
          "vfio-pci,host=0000:01:00.0,bus=pcie.0,addr=0x01"]).args =
            documentedArgs none oneGpu map := by
  have htwo : buildPciRootportMap (twoGpus " ") =
      .ok ((AList.singleton "0000:01:00.0" "0x01").insert "0000:02:00.0" "0x02") := by rfl
  have hone : buildPciRootportMap oneGpu = .ok (AList.singleton "0000:01:00.0" "0x01") := by rfl
  refine ⟨⟨by decide +kernel, ?_⟩, by decide +kernel, ?_⟩
  · rintro ⟨map, hmap, hargs⟩
    obtain rfl := Except.ok.inj (htwo.symm.trans hmap)
    exact absurd hargs (by decide +kernel)
  · rintro ⟨map, hmap, hargs⟩
    obtain rfl := Except.ok.inj (hone.symm.trans hmap)
    exact absurd hargs (by decide +kernel)

end Chalybs
