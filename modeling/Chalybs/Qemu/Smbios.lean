import Chalybs.Core.Text
import Chalybs.Foundation.DoubledSeparator
import Chalybs.Qemu.Command

/-!
# SMBIOS records, as QEMU reads them

`apply_smbios_args` (`qemu.rs`) joins the fields of a record with commas.  QEMU splits the value at
single commas, takes two of them for one, and splits an option at its first `=`.

* `parseOptions` — the reader.
* `VmConfig.smbiosRecords` — the records that are configured.
* `parseOptions_recordText` — when a record is read back.
* `smbios_read_back_iff` — when all of them are.
-/

namespace Chalybs

open Foundation

/-! ## The reader -/

/-- One option: its key, and its value if it has one. -/
def parseOption (part : List Char) : String × Option String :=
  match splitOnce '=' part with
  | some (key, value) => (String.ofList key, some (String.ofList value))
  | none => (String.ofList part, none)

/-- The options of a value. -/
def parseOptions (value : String) : List (String × Option String) :=
  (splitDoubled ',' value.toList).map parseOption

example : parseOptions "type=1,manufacturer=Acme,, Inc.,uuid=1=2" =
    [("type", some "1"), ("manufacturer", some "Acme, Inc."), ("uuid", some "1=2")] := by decide

/-- Nothing of an option is lost. -/
lemma parseOption_injective : Function.Injective parseOption := by
  intro part part' h
  unfold parseOption at h
  cases hsplit : splitOnce '=' part with
  | none =>
      cases hsplit' : splitOnce '=' part' with
      | none =>
          rw [hsplit, hsplit'] at h
          exact String.ofList_injective (congrArg Prod.fst h)
      | some option' =>
          rw [hsplit, hsplit'] at h
          cases congrArg Prod.snd h
  | some option =>
      cases hsplit' : splitOnce '=' part' with
      | none =>
          rw [hsplit, hsplit'] at h
          cases congrArg Prod.snd h
      | some option' =>
          rw [hsplit, hsplit'] at h
          have hkey := String.ofList_injective (congrArg Prod.fst h)
          have hvalue := String.ofList_injective (Option.some.inj (congrArg Prod.snd h))
          rw [eq_of_splitOnce hsplit, eq_of_splitOnce hsplit', hkey, hvalue]

/-! ## One record -/

/-- The text of a record. -/
def recordText (type : ℕ) (fields : List (String × String)) : String :=
  commaList (s!"type={type}" :: fields.map fun field => s!"{field.1}={field.2}")

/-- The options of a record: its type and its fields, with their exact values. -/
def recordOptions (type : ℕ) (fields : List (String × String)) : List (String × Option String) :=
  ("type", some s!"{type}") :: fields.map fun field => (field.1, some field.2)

/-- The records that are configured: those that have a field. -/
def VmConfig.smbiosRecords (cfg : VmConfig) : List (List (String × Option String)) :=
  ([0, 1, 2].filter fun type => cfg.smbiosFields type ≠ []).map fun type =>
    recordOptions type (cfg.smbiosFields type)

/-- A key as the configuration has it. -/
def smbiosKeys : List String := ["vendor", "version", "date", "manufacturer", "product", "uuid"]

section

variable {type : ℕ} {fields : List (String × String)}

lemma toList_field (field : String × String) :
    (s!"{field.1}={field.2}").toList = field.1.toList ++ '=' :: field.2.toList := by
  show (field.1 ++ "=" ++ field.2).toList = _
  simp [String.toList_append]

lemma parseOption_field {field : String × String} (hkey : field.1 ∈ smbiosKeys) :
    parseOption (s!"{field.1}={field.2}").toList = (field.1, some field.2) := by
  have hkeys : ∀ key ∈ smbiosKeys, '=' ∉ key.toList := by decide
  rw [parseOption, toList_field, splitOnce_append (hkeys _ hkey)]
  simp only [String.ofList_toList]

lemma comma_mem_field {field : String × String} (hkey : field.1 ∈ smbiosKeys) :
    ',' ∈ (s!"{field.1}={field.2}").toList ↔ ',' ∈ field.2.toList := by
  have hkeys : ∀ key ∈ smbiosKeys, ',' ∉ key.toList := by decide
  rw [toList_field]
  simp [hkeys _ hkey]

/-- **A record is read back** exactly when no value has a comma in it. -/
lemma parseOptions_recordText (htype : type ∈ [0, 1, 2])
    (hkeys : ∀ field ∈ fields, field.1 ∈ smbiosKeys) :
    parseOptions (recordText type fields) = recordOptions type fields ↔
      ∀ field ∈ fields, ',' ∉ field.2.toList := by
  have hhead : ∀ type ∈ [0, 1, 2], parseOption (s!"type={type}").toList =
      ("type", some s!"{type}") ∧ ',' ∉ (s!"type={type}").toList ∧
        (s!"type={type}").toList ≠ [] := by decide
  obtain ⟨hparse, hcomma, hne⟩ := hhead type htype
  set parts := (s!"type={type}").toList ::
    fields.map fun field => (s!"{field.1}={field.2}").toList with hparts
  have htext : (recordText type fields).toList = [','].intercalate parts := by
    rw [recordText, commaList, joinWith, String.toList_intercalate, List.map_cons, List.map_map]
    rfl
  have hoptions : recordOptions type fields = parts.map parseOption := by
    rw [recordOptions, hparts, List.map_cons, List.map_map, hparse]
    refine congrArg _ (List.map_congr_left fun field hfield => ?_)
    exact (parseOption_field (hkeys field hfield)).symm
  rw [parseOptions, htext, hoptions, parseOption_injective.list_map.eq_iff,
    splitDoubled_join_iff (List.cons_ne_nil _ _)]
  · rw [List.forall_mem_cons, List.forall_mem_map]
    refine (and_iff_right hcomma).trans (forall₂_congr fun field hfield => ?_)
    rw [comma_mem_field (hkeys field hfield)]
  · rw [List.forall_mem_cons, List.forall_mem_map]
    refine ⟨hne, fun field _ => ?_⟩
    rw [toList_field]
    simp

end

/-! ## All records -/

section

variable {cfg : VmConfig} {type : ℕ} {fields : List (String × Option String)}

lemma mem_presentFields {field : String × String} (h : field ∈ presentFields fields) :
    (field.1, some field.2) ∈ fields := by
  obtain ⟨f, hf, hfield⟩ := List.mem_filterMap.mp h
  obtain ⟨value, hvalue, rfl⟩ := Option.map_eq_some_iff.mp hfield
  obtain ⟨hsome, -⟩ := Option.filter_eq_some_iff.mp hvalue
  rwa [← hsome]

lemma key_mem {field : String × String} (h : field ∈ cfg.smbiosFields type) :
    field.1 ∈ smbiosKeys := by
  rw [VmConfig.smbiosFields] at h
  cases hsmb : cfg.qemu.smbios with
  | none =>
      rw [hsmb] at h
      exact absurd h List.not_mem_nil
  | some smb =>
      rw [hsmb] at h
      have hmem := mem_presentFields h
      have hkeys : ∀ f ∈ smb.fields type, f.1 ∈ smbiosKeys := by
        intro f hf
        unfold SmbiosConfig.fields at hf
        split at hf <;> simp only [List.mem_cons, List.not_mem_nil, or_false] at hf
        · rcases hf with rfl | rfl | rfl <;> simp [smbiosKeys]
        · rcases hf with rfl | rfl | rfl <;> simp [smbiosKeys]
        · rcases hf with rfl | rfl <;> simp [smbiosKeys]
      exact hkeys _ hmem

/-- The values of the records that are emitted. -/
lemma optionValues_smbios (rt : VmRuntime) :
    optionValues "-smbios" (applySmbiosArgs [] rt) =
      ([0, 1, 2].filter fun type => rt.cfg.smbiosFields type ≠ []).map fun type =>
        recordText type (rt.cfg.smbiosFields type) := by
  have hvalues : ∀ types : List ℕ,
      optionValues "-smbios" (types.flatMap fun type =>
        documentedRecord type (rt.cfg.smbiosFields type)) =
      (types.filter fun type => rt.cfg.smbiosFields type ≠ []).map fun type =>
        recordText type (rt.cfg.smbiosFields type) := by
    intro types
    induction types with
    | nil => rfl
    | cons type types ih =>
        by_cases hnone : rt.cfg.smbiosFields type = []
        · simpa [documentedRecord, hnone] using ih
        · simpa [documentedRecord, hnone, optionValues, recordText] using ih
  rw [applySmbiosArgs_eq, List.nil_append, documentedSmbios, hvalues]

end

/-- **When the records are read back**: the values of the `-smbios` arguments are read as exactly
the configured records, with exactly their fields and values, when no value has a comma in it. -/
theorem smbios_read_back_iff (rt : VmRuntime) :
    (optionValues "-smbios" (applySmbiosArgs [] rt)).map parseOptions = rt.cfg.smbiosRecords ↔
      ∀ type ∈ [0, 1, 2], ∀ field ∈ rt.cfg.smbiosFields type, ',' ∉ field.2.toList := by
  rw [optionValues_smbios, List.map_map, VmConfig.smbiosRecords, List.map_inj_left]
  constructor
  · intro hread type htype field hfield
    have hpresent : rt.cfg.smbiosFields type ≠ [] := List.ne_nil_of_mem hfield
    have hrecord := hread type (List.mem_filter.mpr ⟨htype, by simpa using hpresent⟩)
    exact (parseOptions_recordText htype fun f hf => key_mem hf).mp hrecord field hfield
  · intro hnone type hmem
    have htype := (List.mem_filter.mp hmem).1
    exact (parseOptions_recordText htype fun f hf => key_mem hf).mpr (hnone type htype)

/-- A VM whose system has a manufacturer. -/
def withManufacturer (manufacturer : String) : VmRuntime :=
  let rt := runtimeWith {}
  { rt with cfg := { rt.cfg with qemu := { rt.cfg.qemu with
      smbios := some { systemManufacturer := some manufacturer } } } }

/-- The records of such a VM, as QEMU reads them. -/
def manufacturerRead (manufacturer : String) : List (List (String × Option String)) :=
  (optionValues "-smbios" (applySmbiosArgs [] (withManufacturer manufacturer))).map parseOptions

/-- A company with a comma in its name loses the end of it, and a value can bring a key with it. -/
theorem manufacturer_split :
    (manufacturerRead "Acme Co., Ltd." =
        [[("type", some "1"), ("manufacturer", some "Acme Co."), (" Ltd.", none)]] ∧
      manufacturerRead "Acme Co., Ltd." ≠
        (withManufacturer "Acme Co., Ltd.").cfg.smbiosRecords) ∧
    manufacturerRead "Acme,uuid=0" =
        [[("type", some "1"), ("manufacturer", some "Acme"), ("uuid", some "0")]] ∧
      manufacturerRead "Acme,uuid=0" ≠ (withManufacturer "Acme,uuid=0").cfg.smbiosRecords := by
  refine ⟨⟨?_, ?_⟩, ?_, ?_⟩ <;> decide +kernel

end Chalybs
