import Chalybs.Pci.Sysfs
import Mathlib.Logic.Function.Basic

/-!
# Two kernels

Two models of what the kernel does with the writes of `Sysfs`, both on the map from addresses to
bound drivers.

* `linuxSysfs` — the rule of Linux: a function is unbound from its own driver only, and bound only
  when it has none.
* `failingDriverFiles` — a kernel that carries out a given number of writes and refuses the next.
-/

namespace Chalybs

open Foundation

/-- The driver each address is bound to. -/
abbrev Bindings := String → Option String

/-! ## The rule of Linux -/

/-- The rule under which Linux accepts a write: a function is unbound from its own driver only,
and bound only when it has none. -/
def DriverFile.accepts (file : DriverFile) (current : Option String) : Bool :=
  match file with
  | .Unbind driver => current == some driver
  | .Bind _ => current == none

def DriverFile.refusal : DriverFile → String
  | .Unbind _ => "No such device (os error 19)"
  | .Bind _ => "Device or resource busy (os error 16)"

/-- The kernel that follows the Linux rule for the functions listed in `entries`, with every
driver directory present.  Its state is the driver of each function. -/
def linuxSysfs (entries : List PciEntry) : Sysfs Bindings where
  fileExists _ _ := true
  write file bdf := fun s =>
    if entries.any (fun entry => entry.bdf == bdf) && file.accepts (s bdf) then
      .ok () (Function.update s bdf file.result)
    else .error file.refusal s
  devices s := .Listed (entries.map fun entry => .Device { entry with driver := s entry.bdf })
  rescan := pure ()

section

variable {entries : List PciEntry} {s : Bindings}

/-- The function with the driver that the bindings give it. -/
def PciFunction.boundBy (s : Bindings) (f : PciFunction) : PciFunction :=
  { f with driver := s f.bdf }

/-- The functions that can be read, whatever driver is bound to them. -/
def readableFunctions (entries : List PciEntry) : List PciFunction :=
  entries.filterMap fun entry => (readFunction entry).toOption

/-- The inventory that a scan of the host takes. -/
def linuxInventory (entries : List PciEntry) (s : Bindings) : PciInventory :=
  ⟨(readableFunctions entries).map (PciFunction.boundBy s)⟩

lemma scan_linuxSysfs :
    scan ((linuxSysfs entries).devices s) = .ok (linuxInventory entries s) := by
  refine congrArg (fun fs => Except.ok (PciInventory.mk fs)) ?_
  rw [readableFunctions, List.filterMap_map, List.map_filterMap]
  refine List.filterMap_congr fun entry _ => ?_
  show (readFunction { entry with driver := s entry.bdf }).toOption = _
  rw [readFunction_driver]
  cases hread : readFunction entry with
  | error e => rfl
  | ok f =>
      rw [← (readFunction_ok hread).1]
      rfl

/-- The functions of the host and their order do not depend on the drivers. -/
lemma findByBdf_linuxInventory {bdf : String} :
    (linuxInventory entries s).findByBdf bdf =
      ((readableFunctions entries).find? fun f => decide (f.bdf = bdf)).map
        fun f => { f with driver := s bdf } := by
  have hcomp : (fun f => decide (f.bdf = bdf)) ∘ PciFunction.boundBy s =
      fun f => decide (f.bdf = bdf) := rfl
  rw [PciInventory.findByBdf, linuxInventory, List.find?_map, hcomp]
  cases hfind : (readableFunctions entries).find? fun f => decide (f.bdf = bdf) with
  | none => rfl
  | some f =>
      have hbdf : f.bdf = bdf := by simpa using List.find?_some hfind
      rw [Option.map_some, Option.map_some, PciFunction.boundBy, hbdf]

/-- A function that the scan finds has the driver that it is bound to. -/
lemma driver_of_findByBdf {bdf : String} {f : PciFunction}
    (h : (linuxInventory entries s).findByBdf bdf = some f) : f.driver = s bdf := by
  rw [findByBdf_linuxInventory] at h
  obtain ⟨g, -, rfl⟩ := Option.map_eq_some_iff.mp h
  rfl

/-- A function that one scan finds is found by every other scan of the host. -/
lemma findByBdf_rebound {bdf : String} {f : PciFunction} (s' : Bindings)
    (h : (linuxInventory entries s).findByBdf bdf = some f) :
    (linuxInventory entries s').findByBdf bdf = some { f with driver := s' bdf } := by
  rw [findByBdf_linuxInventory] at h ⊢
  obtain ⟨g, hg, rfl⟩ := Option.map_eq_some_iff.mp h
  rw [hg]
  rfl

/-- A function that the scan finds is a function of the host. -/
lemma exists_entry_of_findByBdf {bdf : String} {f : PciFunction}
    (h : (linuxInventory entries s).findByBdf bdf = some f) :
    ∃ entry ∈ entries, entry.bdf = bdf := by
  rw [findByBdf_linuxInventory] at h
  obtain ⟨g, hg, -⟩ := Option.map_eq_some_iff.mp h
  have hbdf : g.bdf = bdf := by simpa using List.find?_some hg
  obtain ⟨entry, hentry, hread⟩ := List.mem_filterMap.mp (List.mem_of_find?_eq_some hg)
  refine ⟨entry, hentry, ?_⟩
  cases hfun : readFunction entry with
  | error e => simp [hfun, Except.toOption] at hread
  | ok g' =>
      simp only [hfun, Except.toOption, Option.some.injEq] at hread
      rw [← (readFunction_ok hfun).1, hread, hbdf]

/-- What a write does under the rule of Linux. -/
lemma effect_linuxSysfs {file : DriverFile} {bdf : String} :
    (linuxSysfs entries).toDriverFiles.effect file bdf s =
      if (entries.any fun entry => entry.bdf == bdf) && file.accepts (s bdf) then
        (true, Function.update s bdf file.result)
      else (false, s) := by
  rw [DriverFiles.effect, outcome]
  simp only [linuxSysfs, if_true]
  split_ifs <;> rfl

/-- Linux refuses to bind a function that has a driver. -/
lemma effect_bind_of_bound {bdf driver : String} (h : s bdf ≠ none) :
    (linuxSysfs entries).toDriverFiles.effect (.Bind driver) bdf s = (false, s) := by
  have hno : DriverFile.accepts (.Bind driver) (s bdf) = false := by
    simpa [DriverFile.accepts, Option.isSome_iff_ne_none] using h
  rw [effect_linuxSysfs, hno, Bool.and_false, if_neg Bool.false_ne_true]

/-- Linux binds a function of the host that has no driver. -/
lemma effect_bind_of_unbound {bdf driver : String} (hentry : ∃ entry ∈ entries, entry.bdf = bdf)
    (h : s bdf = none) :
    (linuxSysfs entries).toDriverFiles.effect (.Bind driver) bdf s =
      (true, Function.update s bdf (some driver)) := by
  have hany : (entries.any fun entry => entry.bdf == bdf) = true := by simpa using hentry
  have hyes : DriverFile.accepts (.Bind driver) (s bdf) = true := by
    rw [h]
    rfl
  rw [effect_linuxSysfs, hany, hyes, Bool.and_self, if_pos rfl]
  rfl

/-- A write changes the driver of the function it names only. -/
lemma effect_linuxSysfs_of_ne {file : DriverFile} {bdf bdf' : String} (h : bdf' ≠ bdf) :
    ((linuxSysfs entries).toDriverFiles.effect file bdf s).2 bdf' = s bdf' := by
  rw [effect_linuxSysfs]
  split_ifs
  · exact Function.update_of_ne h _ _
  · rfl

end

/-! ## A failing write -/

/-- The kernel that carries out the given number of writes and refuses the one after them. -/
def failingDriverFiles : DriverFiles (Bindings × ℕ) where
  fileExists _ _ := true
  write file bdf := fun s =>
    match s with
    | (bindings, 0) => .error "Input/output error (os error 5)" (bindings, 0)
    | (bindings, n + 1) => .ok () (Function.update bindings bdf file.result, n)

end Chalybs
