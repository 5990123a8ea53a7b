import Chalybs.Foundation.Fallible
import Chalybs.Pci.Inventory

/-!
# Reading and writing `/sys/bus/pci`

The scanner turns what the kernel shows below `/sys/bus/pci/devices` into an inventory, where any
single read may fail, and three operations of a function write its address to a driver's `bind`
or `unbind` file.

* `PciEntry`, `PciDevices` — the directory as it is read, with the outcome of every read.
* `readFunction`, `scan` — `PciInventory::scan`.
* `DriverFiles`, `Sysfs` — the kernel's side, over an arbitrary type of kernel states.
* `unbindCurrentDriver`, `bindToVfioPci`, `bindToDriver` — the operations that write.
* `DriverFiles.effect` — what such an operation does, without the text of its error.
-/

namespace Chalybs

open Foundation

/-! ## Scanning -/

/-- One directory below `/sys/bus/pci/devices`.  The attributes are what reading the file gives,
its text or the text of the error; the links are the name they end in, if that can be read. -/
structure PciEntry where
  bdf : String
  vendor : Except String String
  device : Except String String
  classCode : Except String String
  driver : Option String
  iommuGroup : Option String
  numaNode : Except String String

/-- What iterating over the directory yields for one entry. -/
inductive DirEntry
  | Unreadable
  | NonUtf8
  | Device (entry : PciEntry)

/-- The directory `/sys/bus/pci/devices`. -/
inductive PciDevices
  | Missing
  | Unlistable (error : String)
  | Listed (entries : List DirEntry)

/-- `strip_prefix("0x")`, or the text itself. -/
def stripHexPrefix : List Char → List Char
  | '0' :: 'x' :: digits => digits
  | s => s

/-- `read_hex_u16` and `read_hex_u32`: a hexadecimal attribute of the width `bits`. -/
def readHex (bits : ℕ) (path : String) (raw : Except String String) : Except ChalybsError ℕ :=
  match raw with
  | .error e => .error (.Io e)
  | .ok text =>
      let s := trim text.toList
      match fromStrRadix 16 (2 ^ bits) (stripHexPrefix s) with
      | .ok n => .ok n
      | .error e => .error (.Vfio
          s!"failed to parse {String.ofList s} as hex u{bits} from {path}: {e.display}")

def readHexU16 (path : String) (raw : Except String String) : Except ChalybsError UInt16 :=
  (readHex 16 path raw).map UInt16.ofNat

def readHexU32 (path : String) (raw : Except String String) : Except ChalybsError UInt32 :=
  (readHex 32 path raw).map UInt32.ofNat

/-- `read_iommu_group`: the name the link ends in, as a number. -/
def readIommuGroup (entry : PciEntry) : Option UInt32 :=
  entry.iommuGroup.bind fun name => (parseU32 name.toList).toOption.map UInt32.ofNat

/-- `str::parse::<i32>`. -/
def parseI32 : List Char → Option Int32
  | '-' :: digits =>
      if digits.isEmpty then none
      else (parseDigits 10 (2 ^ 31 + 1) 0 digits).toOption.map fun n => Int32.ofInt (-n)
  | s => (fromStrRadix 10 (2 ^ 31) s).toOption.map Int32.ofNat

def readNumaNode (entry : PciEntry) : Option Int32 :=
  entry.numaNode.toOption.bind fun raw => parseI32 (trim raw.toList)

/-- `read_function`.  The vendor, device and class must be readable; the driver, the group and the
NUMA node are left out when they are not. -/
def readFunction (entry : PciEntry) : Except ChalybsError PciFunction := do
  let dir := s!"/sys/bus/pci/devices/{entry.bdf}"
  let vendorId ← readHexU16 s!"{dir}/vendor" entry.vendor
  let deviceId ← readHexU16 s!"{dir}/device" entry.device
  let classCode ← readHexU32 s!"{dir}/class" entry.classCode
  pure {
    bdf := entry.bdf
    vendorId
    deviceId
    classCode
    driver := entry.driver
    iommuGroup := readIommuGroup entry
    numaNode := readNumaNode entry }

/-- The function of a directory entry, if it can be read. -/
def DirEntry.function? : DirEntry → Option PciFunction
  | .Unreadable | .NonUtf8 => none
  | .Device entry => (readFunction entry).toOption

/-- `PciInventory::scan`.  An entry that cannot be read is left out. -/
def scan : PciDevices → Except ChalybsError PciInventory
  | .Missing => .error (.Vfio "PCI devices directory /sys/bus/pci/devices does not exist")
  | .Unlistable e => .error (.Vfio s!"failed to list PCI devices in /sys/bus/pci/devices: {e}")
  | .Listed entries => .ok ⟨entries.filterMap DirEntry.function?⟩

/-- The scanned functions are those of the directories that can be read. -/
lemma mem_scan_listed {entries : List PciEntry} {inv : PciInventory} {f : PciFunction}
    (h : scan (.Listed (entries.map .Device)) = .ok inv) :
    f ∈ inv.functions ↔ ∃ entry ∈ entries, readFunction entry = .ok f := by
  obtain rfl : _ = inv := Except.ok.inj h
  simp only [List.mem_filterMap, List.mem_map, exists_exists_and_eq_and, DirEntry.function?]
  refine exists_congr fun entry => and_congr_right fun _ => ?_
  cases readFunction entry with
  | ok g => simp [Except.toOption]
  | error e => simp [Except.toOption]

/-- A function that was read has the address, the driver and the group of its entry. -/
lemma readFunction_ok {entry : PciEntry} {f : PciFunction} (h : readFunction entry = .ok f) :
    f.bdf = entry.bdf ∧ f.driver = entry.driver ∧ f.iommuGroup = readIommuGroup entry := by
  simp only [readFunction, bind, Except.bind] at h
  split at h
  · simp at h
  split at h
  · simp at h
  split at h
  · simp at h
  obtain rfl := Except.ok.inj h
  exact ⟨rfl, rfl, rfl⟩

/-- Reading depends on the bound driver only in the field that reports it. -/
lemma readFunction_driver (entry : PciEntry) (driver : Option String) :
    readFunction { entry with driver } =
      (readFunction entry).map fun f => { f with driver } := by
  simp only [readFunction, bind, Except.bind]
  split
  · rfl
  split
  · rfl
  split
  · rfl
  rfl

/-! ## Driver files -/

/-- A file of a driver's directory below `/sys/bus/pci/drivers`. -/
inductive DriverFile
  | Unbind (driver : String)
  | Bind (driver : String)
  deriving DecidableEq, Repr

def DriverFile.path : DriverFile → String
  | .Unbind driver => s!"/sys/bus/pci/drivers/{driver}/unbind"
  | .Bind driver => s!"/sys/bus/pci/drivers/{driver}/bind"

/-- The driver a function has after its address was written to the file. -/
def DriverFile.result : DriverFile → Option String
  | .Unbind _ => none
  | .Bind driver => some driver

/-- The driver files of a kernel with states `σ`: which exist, and what writing an address to one
does. -/
structure DriverFiles (σ : Type) where
  fileExists : σ → DriverFile → Bool
  write : DriverFile → String → EStateM String σ Unit

/-- The PCI part of sysfs. -/
structure Sysfs (σ : Type) extends DriverFiles σ where
  devices : σ → PciDevices
  rescan : EStateM String σ Unit

section

variable {σ : Type} (k : DriverFiles σ)

/-- Write an address to a driver file that must exist. -/
def DriverFiles.echoBdf (file : DriverFile) (bdf missing : String) (failed : String → String) :
    EStateM ChalybsError σ Unit := fun s =>
  if k.fileExists s file then
    match k.write file bdf s with
    | .ok _ s' => .ok () s'
    | .error e s' => .error (.Vfio (failed e)) s'
  else .error (.Vfio missing) s

/-- What writing an address to a driver file does: whether it succeeds, and the state after. -/
def DriverFiles.effect (file : DriverFile) (bdf : String) (s : σ) : Bool × σ :=
  if k.fileExists s file then outcome (k.write file bdf) s else (false, s)

lemma outcome_echoBdf {file : DriverFile} {bdf missing : String} {failed : String → String}
    {s : σ} : outcome (k.echoBdf file bdf missing failed) s = k.effect file bdf s := by
  rw [outcome, DriverFiles.echoBdf, DriverFiles.effect]
  cases k.fileExists s file with
  | false => rfl
  | true =>
      simp only [if_true, outcome]
      cases k.write file bdf s with
      | ok a s' => rfl
      | error e s' => rfl

/-- `unbind_current_driver`.  A function bound to vfio-pci is left alone. -/
def PciFunction.unbindCurrentDriver (f : PciFunction) : EStateM ChalybsError σ Unit :=
  match f.driver with
  | none => pure ()
  | some driver =>
      if driver = "vfio-pci" then pure ()
      else
        let file := DriverFile.Unbind driver
        k.echoBdf file f.bdf
          s!"cannot unbind {f.bdf}: driver unbind path {file.path} does not exist"
          fun e => s!"failed to write BDF {f.bdf} to {file.path} for unbind: {e}"

/-- `bind_to_vfio_pci`. -/
def PciFunction.bindToVfioPci (f : PciFunction) : EStateM ChalybsError σ Unit :=
  if f.driver = some "vfio-pci" then pure ()
  else
    let file := DriverFile.Bind "vfio-pci"
    k.echoBdf file f.bdf
      s!"vfio-pci bind path {file.path} does not exist; ensure vfio-pci is loaded and configured"
      fun e => s!"failed to bind BDF {f.bdf} to vfio-pci via {file.path}: {e}"

/-- `bind_to_driver`. -/
def PciFunction.bindToDriver (f : PciFunction) (driver : String) : EStateM ChalybsError σ Unit :=
  if f.driver = some driver then pure ()
  else
    let file := DriverFile.Bind driver
    k.echoBdf file f.bdf
      s!"driver bind path {file.path} does not exist for `{driver}`; ensure the module is loaded"
      fun e => s!"failed to bind BDF {f.bdf} to driver `{driver}` via {file.path}: {e}"

variable {k}

lemma outcome_bindToDriver {f : PciFunction} {driver : String} {s : σ} :
    outcome (f.bindToDriver k driver) s =
      if f.driver = some driver then (true, s) else k.effect (.Bind driver) f.bdf s := by
  rw [PciFunction.bindToDriver]
  split_ifs
  · rfl
  · exact outcome_echoBdf k

end

end Chalybs
