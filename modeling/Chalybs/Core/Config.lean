import Chalybs.Core.Basics
import Mathlib.Data.List.AList

/-!
# Configuration

The configuration types of `config.rs`, with the defaults that deserialization fills in, and
`RootConfig.validate`, the check every loaded configuration passes.

A `HashMap` keyed by VM name is an association list without repeated keys.
-/

namespace Chalybs

/-! ## Devices and isolation policy -/

/-- `IsolationMode`: whether isolation findings are ignored, logged or blocking. -/
inductive IsolationMode
  | Disabled
  | Audit
  | Enforce
  deriving DecidableEq, Repr

/-- `IsolationLevel`: what a passthrough device expects of its surroundings. -/
inductive IsolationLevel
  | Dedicated
  | SharedWithHost
  | Forbidden
  deriving DecidableEq, Repr

/-- `PciDeviceConfig`: one entry of a device list. -/
structure PciDeviceConfig where
  pciAddress : String
  required : Bool := true
  level : Option IsolationLevel := none
  deriving DecidableEq, Repr

/-- `DevicesConfig`: the four device lists. -/
structure DevicesConfig where
  gpu : Option (List PciDeviceConfig) := none
  nvme : Option (List PciDeviceConfig) := none
  nic : Option (List PciDeviceConfig) := none
  usb : Option (List PciDeviceConfig) := none
  deriving DecidableEq, Repr

/-- `IsolationPolicyConfig`, with its `Default` implementation. -/
structure IsolationPolicyConfig where
  mode : IsolationMode := .Disabled
  defaultLevel : IsolationLevel := .Dedicated
  requireIommuExclusive : Bool := true
  requireMultifunctionConsistency : Bool := true
  forbidHostCriticalInGroup : Bool := true
  deriving DecidableEq, Repr

/-- `GpuPolicyConfig`. -/
structure GpuPolicyConfig where
  allowSingleGpu : Bool := false
  forceUseIgpu : Bool := false
  deriving DecidableEq, Repr

/-! ## CPU, memory and QEMU -/

/-- `CpuConfig`: the two CPU lists, as text. -/
structure CpuConfig where
  hostCpus : String
  vmCpus : String
  deriving DecidableEq, Repr

/-- `NumaConfig`. -/
structure NumaConfig where
  node : Option UInt16 := none
  hugepageNode : Option UInt16 := none
  deriving DecidableEq, Repr

/-- `SmbiosConfig`: the fields of `-smbios` types 0, 1 and 2. -/
structure SmbiosConfig where
  biosVendor : Option String := none
  biosVersion : Option String := none
  biosDate : Option String := none
  systemManufacturer : Option String := none
  systemProductName : Option String := none
  systemUuid : Option String := none
  baseboardManufacturer : Option String := none
  baseboardProduct : Option String := none
  deriving DecidableEq, Repr

/-- `CpuExtrasConfig`. -/
structure CpuExtrasConfig where
  abi : Option String := none
  topo : Option String := none
  hvContexts : Option String := none
  vendorId : Option String := none
  deriving DecidableEq, Repr

/-- `QemuConfig`. -/
structure QemuConfig where
  binary : String
  preArgs : Option String := none
  args : String
  postArgs : Option String := none
  rtc : Option String := none
  numVcpus : UInt32
  memMb : UInt64
  hugepages : Bool
  ovmfCode : String
  ovmfVars : String
  smbios : Option SmbiosConfig := none
  cpuModel : Option String := none
  cpuExtras : Option CpuExtrasConfig := none
  rombarOff : Option (List String) := none
  pciRootport : Option (AList fun _ : String => String) := none
  legacyPrimaryGpu : Bool := false
  deriving DecidableEq

/-! ## Peripherals -/

/-- `TasmotaConfig`. -/
structure TasmotaConfig where
  mqttHost : String
  username : Option String := none
  password : Option String := none
  deviceId : String
  deriving DecidableEq, Repr

/-- `DdcConfig`. -/
structure DdcConfig where
  monitorI2cBus : UInt8
  vmInput : UInt8
  hostInput : UInt8
  fatalOnError : Bool := false
  deriving DecidableEq, Repr

/-- `LookingGlassConfig`. -/
structure LookingGlassConfig where
  shmName : String
  memMb : UInt64
  deriving DecidableEq, Repr

/-- `SpiceConfig`. -/
structure SpiceConfig where
  enabled : Bool := false
  port : UInt16
  addr : String
  deriving DecidableEq, Repr

/-- `PeripheralConfig`. -/
structure PeripheralConfig where
  tasmota : Option TasmotaConfig := none
  ddc : Option DdcConfig := none
  lookingGlass : Option LookingGlassConfig := none
  spice : Option SpiceConfig := none
  deriving DecidableEq, Repr

/-! ## Virtual machines -/

/-- `VmConfig`: everything configured for one VM. -/
structure VmConfig where
  cpu : CpuConfig
  qemu : QemuConfig
  numa : Option NumaConfig := none
  devices : DevicesConfig := {}
  gpu : GpuPolicyConfig := {}
  isolation : IsolationPolicyConfig := {}
  peripherals : Option PeripheralConfig := none
  deriving DecidableEq

/-- `RootConfig`: the configured VMs by name. -/
structure RootConfig where
  vm : AList fun _ : String => VmConfig

/-- The check that `validate` makes for one VM. -/
def VmConfig.validate (name : String) (vm : VmConfig) : Except ChalybsError Unit := do
  if vm.qemu.numVcpus = 0 then
    throw (.Config s!"vm {name}: num_vcpus must be > 0")
  if vm.cpu.vmCpus.isEmpty then
    throw (.Config s!"vm {name}: vm_cpus must not be empty")

/-- `RootConfig::validate`. -/
def RootConfig.validate (cfg : RootConfig) : Except ChalybsError Unit := do
  if cfg.vm.entries.isEmpty then
    throw (.Config "no VMs defined")
  cfg.vm.entries.forM fun entry => entry.2.validate entry.1

/-! ## The device lists as one -/

/-- A device list that is absent is treated as an empty one. -/
def deviceList (cfgs : Option (List PciDeviceConfig)) : List PciDeviceConfig := cfgs.getD []

/-- The four device lists in the order in which every pass over them goes. -/
def DevicesConfig.lists (d : DevicesConfig) : List (List PciDeviceConfig) :=
  [deviceList d.gpu, deviceList d.nvme, deviceList d.nic, deviceList d.usb]

/-- All configured devices. -/
def VmConfig.configured (cfg : VmConfig) : List PciDeviceConfig := cfg.devices.lists.flatten

/-- `bdf` is named by one of the four device lists. -/
def VmConfig.Configures (cfg : VmConfig) (bdf : String) : Prop :=
  ∃ dev ∈ cfg.configured, dev.pciAddress = bdf

/-- A device without a level of its own has the policy's default level. -/
def PciDeviceConfig.effectiveLevel (policy : IsolationPolicyConfig) (dev : PciDeviceConfig) :
    IsolationLevel :=
  dev.level.getD policy.defaultLevel

/-- The configuration that the unit tests build, with the given devices and policy. -/
def minimalVmConfig (devices : DevicesConfig) (isolation : IsolationPolicyConfig) : VmConfig where
  cpu := { hostCpus := "0-3", vmCpus := "0-1" }
  qemu := {
    binary := "/usr/bin/qemu-system-x86_64"
    args := ""
    numVcpus := 2
    memMb := 2048
    hugepages := false
    ovmfCode := "/usr/share/OVMF/OVMF_CODE.fd"
    ovmfVars := "/var/lib/libvirt/qemu/nvram/test_VARS.fd" }
  numa := some {}
  devices
  isolation

example : (minimalVmConfig {} {}).validate "testvm" = .ok () := rfl

end Chalybs
