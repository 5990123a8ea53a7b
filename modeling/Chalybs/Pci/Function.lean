import Chalybs.Core.Basics

/-!
# PCI functions

`PciFunction` (`pci.rs`) is one row of the PCI inventory.  Its class code decides which kind of
device it is, and for a display controller the bound driver decides how it is owned:

* `isDisplayController`, `isNvme`, … and `deviceClass` — from the class code;
* `gpuDriverKind`, `gpuSafetyClass` — from the class code and the driver;
* `parseBdfSlot` — the (domain, bus, slot) part of an address, on which the notion of a
  multi-function device rests.
-/

namespace Chalybs

/-- `PciFunction`: one PCI function as read from sysfs. -/
structure PciFunction where
  bdf : String
  vendorId : UInt16
  deviceId : UInt16
  classCode : UInt32
  driver : Option String
  iommuGroup : Option UInt32
  numaNode : Option Int32
  deriving DecidableEq, Repr

/-- The display controller that the unit tests build. -/
def makeGpu (bdf : String) (driver : Option String) (iommuGroup : Option UInt32)
    (numaNode : Option Int32) : PciFunction :=
  { bdf, vendorId := 0x1234, deviceId := 0x5678, classCode := 0x030000, driver, iommuGroup,
    numaNode }

/-- The function of a given class that the unit tests build. -/
def makeGeneric (bdf : String) (classCode : UInt32) (driver : Option String)
    (iommuGroup : Option UInt32) (numaNode : Option Int32) : PciFunction :=
  { bdf, vendorId := 0x1111, deviceId := 0x2222, classCode, driver, iommuGroup, numaNode }

/-! ## Class code -/

def PciFunction.classTriple (f : PciFunction) : UInt8 × UInt8 × UInt8 :=
  (((f.classCode >>> 16) &&& 0xff).toUInt8, ((f.classCode >>> 8) &&& 0xff).toUInt8,
    (f.classCode &&& 0xff).toUInt8)

def PciFunction.classBase (f : PciFunction) : UInt8 := (f.classCode >>> 16).toUInt8

def PciFunction.isDisplayController (f : PciFunction) : Bool := f.classBase == 0x03

def PciFunction.isNetworkController (f : PciFunction) : Bool := f.classBase == 0x02

def PciFunction.isStorageController (f : PciFunction) : Bool := f.classBase == 0x01

def PciFunction.isNvme (f : PciFunction) : Bool :=
  f.classTriple.1 == 0x01 && f.classTriple.2.1 == 0x08

def PciFunction.isUsbController (f : PciFunction) : Bool :=
  f.classTriple.1 == 0x0c && f.classTriple.2.1 == 0x03

/-- `DeviceClass`. -/
inductive DeviceClass
  | Gpu
  | Nvme
  | Nic
  | UsbController
  | StorageOther
  | Other
  deriving DecidableEq, Repr

def PciFunction.deviceClass (f : PciFunction) : DeviceClass :=
  if f.isDisplayController then .Gpu
  else if f.isNvme then .Nvme
  else if f.isNetworkController then .Nic
  else if f.isUsbController then .UsbController
  else if f.isStorageController then .StorageOther
  else .Other

/-! ## Drivers of display controllers -/

/-- `GpuDriverKind`. -/
inductive GpuDriverKind
  | Vfio
  | AmdGpu
  | Nvidia
  | Nouveau
  | OtherKernel (driver : String)
  | Unbound
  deriving DecidableEq, Repr

/-- `GpuSafetyClass`. -/
inductive GpuSafetyClass
  | VfioReady
  | HostOwned
  | Unknown
  deriving DecidableEq, Repr

def PciFunction.gpuDriverKind (f : PciFunction) : Option GpuDriverKind :=
  if f.isDisplayController then
    match f.driver with
    | none => some .Unbound
    | some driver =>
        if driver = "vfio-pci" then some .Vfio
        else if driver = "amdgpu" ∨ driver = "radeon" then some .AmdGpu
        else if driver = "nvidia" then some .Nvidia
        else if driver = "nouveau" then some .Nouveau
        else some (.OtherKernel driver)
  else none

/-- The safety class of a driver kind. -/
def GpuDriverKind.safety : GpuDriverKind → GpuSafetyClass
  | .Vfio => .VfioReady
  | .AmdGpu | .Nvidia | .Nouveau => .HostOwned
  | .OtherKernel _ | .Unbound => .Unknown

def PciFunction.gpuSafetyClass (f : PciFunction) : Option GpuSafetyClass :=
  f.gpuDriverKind.map GpuDriverKind.safety

/-- The drivers with which the host drives a display. -/
def hostGpuDrivers : List String := ["amdgpu", "radeon", "nvidia", "nouveau"]

/-- The safety class of a display controller with a driver. -/
lemma gpuSafetyClass_of_driver {f : PciFunction} {driver : String}
    (hdisp : f.isDisplayController = true) (hdrv : f.driver = some driver) :
    f.gpuSafetyClass = some (if driver = "vfio-pci" then .VfioReady
      else if driver ∈ hostGpuDrivers then .HostOwned else .Unknown) := by
  simp only [PciFunction.gpuSafetyClass, PciFunction.gpuDriverKind, hdisp, hdrv, if_true,
    hostGpuDrivers, List.mem_cons, List.not_mem_nil, or_false]
  split_ifs with hvfio hamd hnv hno
  all_goals simp_all [GpuDriverKind.safety]

/-- One without a driver is of no known class. -/
lemma gpuSafetyClass_of_no_driver {f : PciFunction} (hdisp : f.isDisplayController = true)
    (hdrv : f.driver = none) : f.gpuSafetyClass = some .Unknown := by
  simp [PciFunction.gpuSafetyClass, PciFunction.gpuDriverKind, hdisp, hdrv,
    GpuDriverKind.safety]

/-- **A display controller is host-owned exactly when a host graphics driver is bound to it.** -/
lemma gpuSafetyClass_eq_hostOwned {f : PciFunction} :
    f.gpuSafetyClass = some .HostOwned ↔
      f.isDisplayController = true ∧ ∃ driver ∈ hostGpuDrivers, f.driver = some driver := by
  cases hdisp : f.isDisplayController with
  | false => simp [PciFunction.gpuSafetyClass, PciFunction.gpuDriverKind, hdisp]
  | true =>
      cases hdrv : f.driver with
      | none => simp [gpuSafetyClass_of_no_driver hdisp hdrv]
      | some driver =>
          have hvfio : driver = "vfio-pci" → driver ∉ hostGpuDrivers := by
            rintro rfl
            decide
          rw [gpuSafetyClass_of_driver hdisp hdrv]
          split_ifs with hready hhost
          · simp [hvfio hready]
          · simp [hhost]
          · simp [hhost]

/-- A display controller is classed as ready for passthrough exactly when it is bound to
vfio-pci. -/
lemma gpuSafetyClass_eq_vfioReady {f : PciFunction} :
    f.gpuSafetyClass = some .VfioReady ↔
      f.isDisplayController = true ∧ f.driver = some "vfio-pci" := by
  cases hdisp : f.isDisplayController with
  | false => simp [PciFunction.gpuSafetyClass, PciFunction.gpuDriverKind, hdisp]
  | true =>
      cases hdrv : f.driver with
      | none => simp [gpuSafetyClass_of_no_driver hdisp hdrv]
      | some driver =>
          rw [gpuSafetyClass_of_driver hdisp hdrv]
          split_ifs with hready hhost
          · simp [hready]
          · simp [hready]
          · simp [hready]

/-! ## Addresses -/

/-- `parse_bdf_slot`: the (domain, bus, slot) key of an address `dddd:bb:dd.f`. -/
def parseBdfSlot (bdf : String) : Option (ℕ × ℕ × ℕ) :=
  match bdf.toList.splitOn ':' with
  | [domain, bus, devfunc] =>
      match devfunc.splitOn '.' with
      | [dev, func] =>
          if byteLen domain ≠ 4 ∨ byteLen bus ≠ 2 ∨ byteLen dev ≠ 2 ∨ func.isEmpty then none
          else do
            let domain ← (fromStrRadix 16 (2 ^ 16) domain).toOption
            let bus ← (fromStrRadix 16 (2 ^ 8) bus).toOption
            let dev ← (fromStrRadix 16 (2 ^ 8) dev).toOption
            pure (domain, bus, dev)
      | _ => none
  | _ => none

/-- `isolation::parse_slot_key`, which repeats `parse_bdf_slot` word for word. -/
def parseSlotKey (bdf : String) : Option (ℕ × ℕ × ℕ) := parseBdfSlot bdf

def PciFunction.slotKey (f : PciFunction) : Option (ℕ × ℕ × ℕ) := parseBdfSlot f.bdf

end Chalybs
