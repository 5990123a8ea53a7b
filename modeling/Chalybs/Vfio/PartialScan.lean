import Chalybs.Pci.Sysfs
import Chalybs.Vfio.Verdict

/-!
# The gate behind a partial scan

A scan leaves out a function whose vendor, device or class cannot be read, and a function whose
group link cannot be read is in no group as far as the inventory tells.  So the isolation gate
judges a part of the host only.

* `FailedReads`, `PciEntry.failing` — a directory some of whose reads fail.
* `partialScan` — the scan of a host under a given set of failing reads.
* `exclusive_among_read` — the guarantee of exclusive groups, for the functions that were read.
* `unread_member_passes` — a function that was not read escapes it.
-/

namespace Chalybs

/-- The reads of a function's directory that fail. -/
structure FailedReads where
  vendor : Bool := false
  device : Bool := false
  classCode : Bool := false
  driver : Bool := false
  iommuGroup : Bool := false
  numaNode : Bool := false

/-- The content of a file that cannot be read if `failed`. -/
def readOrFail (failed : Bool) (content : Except String String) : Except String String :=
  if failed then .error "Input/output error (os error 5)" else content

/-- The directory as it is seen when the given reads fail. -/
def PciEntry.failing (fails : FailedReads) (entry : PciEntry) : PciEntry where
  bdf := entry.bdf
  vendor := readOrFail fails.vendor entry.vendor
  device := readOrFail fails.device entry.device
  classCode := readOrFail fails.classCode entry.classCode
  driver := if fails.driver then none else entry.driver
  iommuGroup := if fails.iommuGroup then none else entry.iommuGroup
  numaNode := readOrFail fails.numaNode entry.numaNode

/-- The scan of the host `tree` when, for each address, the reads `fails` gives it fail. -/
def partialScan (tree : List PciEntry) (fails : String → FailedReads) :
    Except ChalybsError PciInventory :=
  scan (.Listed ((tree.map fun entry => entry.failing (fails entry.bdf)).map .Device))

/-- The host places the entry in group `gid`, and its function and its group can be read. -/
def ReadInGroup (fails : String → FailedReads) (gid : UInt32) (entry : PciEntry) : Prop :=
  readIommuGroup entry = some gid ∧ (fails entry.bdf).iommuGroup = false ∧
    ∃ f, readFunction (entry.failing (fails entry.bdf)) = .ok f

/-- **Groups are exclusive among the functions that were read.**  If the gate accepts, in `Enforce`
mode and with exclusive groups required, what a partial scan found, then with a configured device
that was read with its group, every function that the host places in that group, and that was
read with its group too, is configured. -/
theorem exclusive_among_read (vmName : String) (cfg : VmConfig) (tree : List PciEntry)
    (fails : String → FailedReads) (inv : PciInventory)
    (hmode : cfg.isolation.mode = .Enforce)
    (hflag : cfg.isolation.requireIommuExclusive = true)
    (hscan : partialScan tree fails = .ok inv)
    (hgate : evaluateIsolationForVm vmName cfg inv = .ok ()) :
    ∀ gid, ∀ c ∈ tree, ∀ e ∈ tree, ReadInGroup fails gid c → ReadInGroup fails gid e →
      cfg.Configures c.bdf → cfg.Configures e.bdf := by
  -- what was read is in the inventory, under its own address and in its own group
  have hseen : ∀ gid, ∀ e ∈ tree, ReadInGroup fails gid e →
      ∃ f ∈ inv.functions, f.bdf = e.bdf ∧ f.iommuGroup = some gid := by
    rintro gid e he ⟨hgroup, hlink, f, hf⟩
    obtain ⟨hbdf, -, hfgroup⟩ := readFunction_ok hf
    refine ⟨f, (mem_scan_listed hscan).mpr ⟨_, List.mem_map_of_mem he, hf⟩, hbdf, ?_⟩
    rw [hfgroup, ← hgroup, readIommuGroup, readIommuGroup, PciEntry.failing, hlink]
    rfl
  intro gid c hc e he hcread heread hconf
  obtain ⟨f, hf, hfbdf, hfgroup⟩ := hseen gid c hc hcread
  obtain ⟨g, hg, hgbdf, hggroup⟩ := hseen gid e he heread
  rw [← hgbdf]
  exact configures_of_sharesGroup hmode hflag hgate hf hg hfgroup hggroup (hfbdf ▸ hconf)

/-- A GPU with its audio function, both in one group. -/
def gpuWithAudio : List PciEntry :=
  [{ bdf := "0000:01:00.0"
     vendor := .ok "0x10de\n"
     device := .ok "0x1b80\n"
     classCode := .ok "0x030000\n"
     driver := some "vfio-pci"
     iommuGroup := some "10"
     numaNode := .ok "0\n" },
   { bdf := "0000:01:00.1"
     vendor := .ok "0x10de\n"
     device := .ok "0x10f0\n"
     classCode := .ok "0x040300\n"
     driver := some "snd_hda_intel"
     iommuGroup := some "10"
     numaNode := .ok "0\n" }]

/-- Only the GPU itself is given to the VM. -/
def gpuOnlyConfig : VmConfig :=
  minimalVmConfig { gpu := some [{ pciAddress := "0000:01:00.0" }] } { mode := .Enforce }

/-- The class of the audio function cannot be read. -/
def audioUnreadable : String → FailedReads := fun bdf =>
  if bdf = "0000:01:00.1" then { classCode := true } else {}

def gpuOnlyInventory : PciInventory :=
  ⟨[{ bdf := "0000:01:00.0", vendorId := 0x10de, deviceId := 0x1b80, classCode := 0x030000,
      driver := some "vfio-pci", iommuGroup := some 10, numaNode := some 0 }]⟩

lemma partialScan_gpuWithAudio :
    partialScan gpuWithAudio audioUnreadable = .ok gpuOnlyInventory := by
  decide

lemma gate_gpuOnly : evaluateIsolationForVm "testvm" gpuOnlyConfig gpuOnlyInventory = .ok () := by
  decide

theorem exclusive_among_read_gpuWithAudio :
    partialScan gpuWithAudio audioUnreadable = .ok gpuOnlyInventory ∧
      ∀ gid, ∀ c ∈ gpuWithAudio, ∀ e ∈ gpuWithAudio, ReadInGroup audioUnreadable gid c →
        ReadInGroup audioUnreadable gid e → gpuOnlyConfig.Configures c.bdf →
          gpuOnlyConfig.Configures e.bdf := by
  refine ⟨partialScan_gpuWithAudio, ?_⟩
  exact exclusive_among_read "testvm" gpuOnlyConfig gpuWithAudio audioUnreadable gpuOnlyInventory
    (by decide) (by decide) partialScan_gpuWithAudio gate_gpuOnly

/-- The gate accepts the GPU although the host places its audio function, which could not be read,
in the same group. -/
theorem unread_member_passes :
    ¬ ∀ (vmName : String) (cfg : VmConfig) (tree : List PciEntry)
        (fails : String → FailedReads) (inv : PciInventory),
      cfg.isolation.mode = .Enforce → cfg.isolation.requireIommuExclusive = true →
      partialScan tree fails = .ok inv → evaluateIsolationForVm vmName cfg inv = .ok () →
        ∀ f ∈ inv.functions, cfg.Configures f.bdf →
          ∃ gid, f.iommuGroup = some gid ∧
            ∀ e ∈ tree, readIommuGroup e = some gid → cfg.Configures e.bdf := by
  intro h
  obtain ⟨gid, hgid, hall⟩ := h "testvm" gpuOnlyConfig gpuWithAudio audioUnreadable
    gpuOnlyInventory (by decide) (by decide) partialScan_gpuWithAudio gate_gpuOnly _
    List.mem_cons_self ⟨_, List.mem_cons_self, rfl⟩
  obtain rfl : 10 = gid := Option.some.inj hgid
  obtain ⟨dev, hdev, haddr⟩ := hall _ (List.mem_cons_of_mem _ List.mem_cons_self) (by decide)
  obtain rfl : dev = { pciAddress := "0000:01:00.0" } := List.mem_singleton.mp hdev
  exact absurd haddr (by decide)

end Chalybs
