import Chalybs.Core.Numerals
import Chalybs.Foundation.Fallible
import Chalybs.Foundation.Lists
import Chalybs.Pci.Function

/-!
# PCI addresses

`parse_bdf_slot` (`pci.rs`) and `parse_slot_key` (`vfio/isolation.rs`) read the slot of an address
`dddd:bb:dd.f`.  They check the widths of its fields so as not to accept malformed addresses, but
`from_str_radix` takes a plus sign in place of the first digit of a field.

* `IsBdf` — the fields of an address, and `WellFormedBdf` — hexadecimal ones, with their values.
* `SignedBdf` — an address with a plus sign.
* `parseBdfSlot_iff` — what the parsers read.
* `exactOn_iff` — they are exact but for plus signs.
-/

namespace Chalybs

open Foundation

/-! ## Addresses and their fields -/

/-- The parts of an address around its colons and its dot. -/
structure BdfFields where
  domain : List Char
  bus : List Char
  dev : List Char
  func : List Char
  deriving DecidableEq, Repr

namespace BdfFields

def text (f : BdfFields) : List Char :=
  f.domain ++ ':' :: (f.bus ++ ':' :: (f.dev ++ '.' :: f.func))

/-- The fields of the slot are four, two and two hexadecimal digits. -/
structure Denotes (f : BdfFields) (key : ℕ × ℕ × ℕ) : Prop where
  domain : Hex 4 f.domain key.1
  bus : Hex 2 f.bus key.2.1
  dev : Hex 2 f.dev key.2.2

/-- The fields of the slot are the same, ignoring case. -/
structure SameSlot (f g : BdfFields) : Prop where
  domain : f.domain.map Char.toLower = g.domain.map Char.toLower
  bus : f.bus.map Char.toLower = g.bus.map Char.toLower
  dev : f.dev.map Char.toLower = g.dev.map Char.toLower

end BdfFields

/-- The address has these fields, with something for the function. -/
structure IsBdf (bdf : String) (f : BdfFields) : Prop where
  text : bdf.toList = f.text
  colons : ':' ∉ f.domain ∧ ':' ∉ f.bus ∧ ':' ∉ f.dev ∧ ':' ∉ f.func
  dots : '.' ∉ f.dev ∧ '.' ∉ f.func
  func_ne : f.func ≠ []

/-- Four hexadecimal digits, a colon, two, a colon, two, a dot, and a function. -/
def WellFormedBdf (bdf : String) (key : ℕ × ℕ × ℕ) : Prop := ∃ f, IsBdf bdf f ∧ f.Denotes key

/-- So many hexadecimal digits, or a plus sign in place of the first. -/
def SignedHex (width : ℕ) (cs : List Char) (n : ℕ) : Prop :=
  Hex width cs n ∨ ∃ ds, cs = '+' :: ds ∧ Hex (width - 1) ds n

/-- Each field of the slot is as `from_str_radix` takes it. -/
structure BdfFields.Reads (f : BdfFields) (key : ℕ × ℕ × ℕ) : Prop where
  domain : SignedHex 4 f.domain key.1
  bus : SignedHex 2 f.bus key.2.1
  dev : SignedHex 2 f.dev key.2.2

/-- An address that is well formed, but for a plus sign in place of the first digit of the domain,
the bus or the slot. -/
def SignedBdf (bdf : String) : Prop :=
  ∃ f key, IsBdf bdf f ∧ f.Reads key ∧ ∃ part ∈ [f.domain, f.bus, f.dev], '+' ∈ part

/-- The parser accepts the well-formed addresses among the two, with their values, and gives them
the same key if their slots are the same. -/
structure ExactOn (parse : String → Option (ℕ × ℕ × ℕ)) (s t : String) : Prop where
  left : ∀ key, parse s = some key ↔ WellFormedBdf s key
  right : ∀ key, parse t = some key ↔ WellFormedBdf t key
  same : ∀ f g key key', IsBdf s f → IsBdf t g → parse s = some key → parse t = some key' →
    (key = key' ↔ f.SameSlot g)

section

variable {bdf : String} {f g : BdfFields} {key key' : ℕ × ℕ × ℕ}

/-! ## Splitting -/

/-- The two splits of the parsers take an address apart into its fields. -/
lemma isBdf_iff :
    IsBdf bdf f ↔ ∃ devfunc, bdf.toList.splitOn ':' = [f.domain, f.bus, devfunc] ∧
      devfunc.splitOn '.' = [f.dev, f.func] ∧ f.func ≠ [] := by
  have hcolons : ∀ devfunc, bdf.toList.splitOn ':' = [f.domain, f.bus, devfunc] ↔
      bdf.toList = f.domain ++ ':' :: (f.bus ++ ':' :: devfunc) ∧
        ':' ∉ f.domain ∧ ':' ∉ f.bus ∧ ':' ∉ devfunc := by
    intro devfunc
    rw [splitOn_eq_iff (by simp)]
    simp [List.intercalate]
  have hdots : ∀ devfunc : List Char, devfunc.splitOn '.' = [f.dev, f.func] ↔
      devfunc = f.dev ++ '.' :: f.func ∧ '.' ∉ f.dev ∧ '.' ∉ f.func := by
    intro devfunc
    rw [splitOn_eq_iff (by simp)]
    simp [List.intercalate]
  simp only [hcolons, hdots]
  constructor
  · rintro ⟨htext, ⟨hdomain, hbus, hdev, hfunc⟩, hdots, hne⟩
    refine ⟨f.dev ++ '.' :: f.func, ⟨htext, hdomain, hbus, ?_⟩, ⟨rfl, hdots⟩, hne⟩
    simp [hdev, hfunc]
  · rintro ⟨_, ⟨htext, hdomain, hbus, hdevfunc⟩, ⟨rfl, hdots⟩, hne⟩
    simp only [List.mem_append, List.mem_cons, not_or] at hdevfunc
    exact ⟨htext, ⟨hdomain, hbus, hdevfunc.1, hdevfunc.2.2⟩, hdots, hne⟩

/-- An address has one way to be taken apart. -/
lemma IsBdf.unique (hf : IsBdf bdf f) (hg : IsBdf bdf g) : f = g := by
  obtain ⟨devfunc, hcolons, hdots, -⟩ := isBdf_iff.mp hf
  obtain ⟨devfunc', hcolons', hdots', -⟩ := isBdf_iff.mp hg
  rw [hcolons] at hcolons'
  simp only [List.cons.injEq, and_true] at hcolons'
  obtain ⟨hdomain, hbus, rfl⟩ := hcolons'
  rw [hdots] at hdots'
  simp only [List.cons.injEq, and_true] at hdots'
  cases f
  cases g
  simp_all

/-! ## What the parsers read -/

lemma signedHex_iff {width n : ℕ} {cs : List Char} (hwidth : 0 < width) :
    SignedHex width cs n ↔ byteLen cs = width ∧ fromStrRadix 16 (16 ^ width) cs = .ok n :=
  (fromStrRadix_hex_iff hwidth).symm

lemma BdfFields.reads_iff {d b v : ℕ} :
    f.Reads (d, b, v) ↔ (byteLen f.domain = 4 ∧ byteLen f.bus = 2 ∧ byteLen f.dev = 2) ∧
      fromStrRadix 16 (2 ^ 16) f.domain = .ok d ∧ fromStrRadix 16 (2 ^ 8) f.bus = .ok b ∧
        fromStrRadix 16 (2 ^ 8) f.dev = .ok v := by
  constructor
  · rintro ⟨hdomain, hbus, hdev⟩
    obtain ⟨hdomain4, hdomain⟩ := (signedHex_iff (by decide)).mp hdomain
    obtain ⟨hbus2, hbus⟩ := (signedHex_iff (by decide)).mp hbus
    obtain ⟨hdev2, hdev⟩ := (signedHex_iff (by decide)).mp hdev
    exact ⟨⟨hdomain4, hbus2, hdev2⟩, hdomain, hbus, hdev⟩
  · rintro ⟨⟨hdomain4, hbus2, hdev2⟩, hdomain, hbus, hdev⟩
    exact ⟨(signedHex_iff (by decide)).mpr ⟨hdomain4, hdomain⟩,
      (signedHex_iff (by decide)).mpr ⟨hbus2, hbus⟩, (signedHex_iff (by decide)).mpr ⟨hdev2, hdev⟩⟩

/-- **The parsers read** an address with fields that `from_str_radix` takes, and nothing else. -/
theorem parseBdfSlot_iff : parseBdfSlot bdf = some key ↔ ∃ f, IsBdf bdf f ∧ f.Reads key := by
  obtain ⟨d, b, v⟩ := key
  constructor
  · intro h
    rw [parseBdfSlot] at h
    split at h
    next domain bus devfunc hcolons =>
        split at h
        next dev func hdots =>
            split_ifs at h with hwidths
            simp only [not_or, not_not, List.isEmpty_iff] at hwidths
            obtain ⟨hdomain4, hbus2, hdev2, hne⟩ := hwidths
            simp only [Option.bind_eq_bind, Option.bind_eq_some_iff, toOption_eq_some,
              Option.pure_def, Option.some.injEq, Prod.mk.injEq] at h
            obtain ⟨_, hdomain, _, hbus, _, hdev, rfl, rfl, rfl⟩ := h
            refine ⟨⟨domain, bus, dev, func⟩, isBdf_iff.mpr ⟨devfunc, hcolons, hdots, hne⟩, ?_⟩
            exact BdfFields.reads_iff.mpr ⟨⟨hdomain4, hbus2, hdev2⟩, hdomain, hbus, hdev⟩
        next => cases h
    next => cases h
  · rintro ⟨f, hbdf, hreads⟩
    obtain ⟨devfunc, hcolons, hdots, hne⟩ := isBdf_iff.mp hbdf
    obtain ⟨⟨hdomain4, hbus2, hdev2⟩, hdomain, hbus, hdev⟩ := BdfFields.reads_iff.mp hreads
    rw [parseBdfSlot, hcolons]
    simp only [hdots, hdomain4, hbus2, hdev2, List.isEmpty_iff, hne, ne_eq, not_true_eq_false,
      or_self, if_false]
    rw [hdomain, hbus, hdev]
    rfl

/-! ## Exactness -/

lemma Hex.plus_not_mem {width n : ℕ} {cs : List Char} (h : Hex width cs n) : '+' ∉ cs :=
  h.not_mem (by decide)

lemma SignedHex.hex {width n : ℕ} {cs : List Char} (h : SignedHex width cs n) (hplus : '+' ∉ cs) :
    Hex width cs n := by
  rcases h with h | ⟨ds, rfl, -⟩
  · exact h
  · exact absurd List.mem_cons_self hplus

lemma BdfFields.Denotes.reads (h : f.Denotes key) : f.Reads key :=
  ⟨.inl h.domain, .inl h.bus, .inl h.dev⟩

lemma BdfFields.Reads.denotes (h : f.Reads key)
    (hplus : ∀ part ∈ [f.domain, f.bus, f.dev], '+' ∉ part) : f.Denotes key where
  domain := h.domain.hex (hplus _ (by simp))
  bus := h.bus.hex (hplus _ (by simp))
  dev := h.dev.hex (hplus _ (by simp))

/-- The parsers accept the well-formed addresses, unless there is a plus sign. -/
lemma parseBdfSlot_exact_iff :
    (∀ key, parseBdfSlot bdf = some key ↔ WellFormedBdf bdf key) ↔ ¬ SignedBdf bdf := by
  constructor
  · rintro hexact ⟨f, key, hbdf, hreads, part, hpart, hplus⟩
    obtain ⟨g, hbdf', hdenotes⟩ := (hexact key).mp (parseBdfSlot_iff.mpr ⟨f, hbdf, hreads⟩)
    obtain rfl := hbdf.unique hbdf'
    simp only [List.mem_cons, List.not_mem_nil, or_false] at hpart
    rcases hpart with rfl | rfl | rfl
    · exact hdenotes.domain.plus_not_mem hplus
    · exact hdenotes.bus.plus_not_mem hplus
    · exact hdenotes.dev.plus_not_mem hplus
  · intro hsigned key
    rw [parseBdfSlot_iff]
    refine exists_congr fun f => and_congr_right fun hbdf => ⟨fun hreads => ?_, fun h => h.reads⟩
    exact hreads.denotes fun part hpart hplus => hsigned ⟨f, key, hbdf, hreads, part, hpart, hplus⟩

/-- Slots that are denoted by digits have the same key if the digits are the same. -/
lemma BdfFields.Denotes.key_eq_iff (h : f.Denotes key) (h' : g.Denotes key') :
    key = key' ↔ f.SameSlot g := by
  rw [Prod.ext_iff, Prod.ext_iff, h.domain.eq_iff h'.domain, h.bus.eq_iff h'.bus,
    h.dev.eq_iff h'.dev]
  constructor
  · rintro ⟨hdomain, hbus, hdev⟩
    exact ⟨hdomain, hbus, hdev⟩
  · rintro ⟨hdomain, hbus, hdev⟩
    exact ⟨hdomain, hbus, hdev⟩

lemma exactOn_parseBdfSlot_iff {s t : String} :
    ExactOn parseBdfSlot s t ↔ ¬ SignedBdf s ∧ ¬ SignedBdf t := by
  rw [← parseBdfSlot_exact_iff, ← parseBdfSlot_exact_iff]
  refine ⟨fun h => ⟨h.left, h.right⟩, ?_⟩
  rintro ⟨hleft, hright⟩
  refine ⟨hleft, hright, fun f g key key' hf hg hs ht => ?_⟩
  obtain ⟨f', hf', hdenotes⟩ := (hleft key).mp hs
  obtain ⟨g', hg', hdenotes'⟩ := (hright key').mp ht
  obtain rfl := hf.unique hf'
  obtain rfl := hg.unique hg'
  exact hdenotes.key_eq_iff hdenotes'

end

/-- **Both parsers are exact** on two addresses exactly when neither has a plus sign in place of a
digit. -/
theorem exactOn_iff (s t : String) :
    ExactOn parseSlotKey s t ∧ ExactOn parseBdfSlot s t ↔ ¬ SignedBdf s ∧ ¬ SignedBdf t := by
  rw [← exactOn_parseBdfSlot_iff]
  exact and_self_iff

/-- The bus `+1` is read as bus 1, so that a malformed address gets the key of a device. -/
theorem plus_for_digit :
    parseBdfSlot "0000:+1:00.0" = some (0, 1, 0) ∧ parseBdfSlot "0000:01:00.0" = some (0, 1, 0) ∧
      (¬ ∃ key, WellFormedBdf "0000:+1:00.0" key) ∧
      ¬ ∀ s t, ExactOn parseSlotKey s t ∧ ExactOn parseBdfSlot s t := by
  have hmalformed : ¬ ∃ key, WellFormedBdf "0000:+1:00.0" key := by
    rintro ⟨key, f, hbdf, hdenotes⟩
    have hfields : IsBdf "0000:+1:00.0" ⟨"0000".toList, "+1".toList, "00".toList, "0".toList⟩ :=
      ⟨by decide, by decide, by decide, by decide⟩
    obtain rfl := hbdf.unique hfields
    exact hdenotes.bus.plus_not_mem (by decide)
  refine ⟨by decide +kernel, by decide +kernel, hmalformed, fun h => ?_⟩
  have hexact := (h "0000:+1:00.0" "0000:+1:00.0").2.left (0, 1, 0)
  exact hmalformed ⟨_, hexact.mp (by decide +kernel)⟩

end Chalybs
