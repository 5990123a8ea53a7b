import Chalybs.Irq.Worker
import Chalybs.Pci.Address

/-!
# Slots of the interrupt code

`parse_bdf_slot_and_func` (`irq/pin.rs`) repeats the slot parser of the policy code, but gives the
slot as text.  Functions of one device are grouped by this text here and by the key there.

* `slotString`, `slotString_inj` — the text of a key, which determines it.
* `parseBdfSlotAndFunc_iff` — what the parser reads.
* `slot_identity` — both ways of grouping are the same.
-/

namespace Chalybs

open Foundation

/-- `format!("{domain:04x}:{bus:02x}:{dev:02x}")`. -/
def slotString (key : ℕ × ℕ × ℕ) : String :=
  s!"{hexPadded 4 key.1}:{hexPadded 2 key.2.1}:{hexPadded 2 key.2.2}"

/-- The key consists of a `u16` and two `u8`. -/
structure SlotKeyFits (key : ℕ × ℕ × ℕ) : Prop where
  domain : key.1 < 16 ^ 4
  bus : key.2.1 < 16 ^ 2
  dev : key.2.2 < 16 ^ 2

section

variable {bdf slot : String} {func n : ℕ} {f : BdfFields} {key key' : ℕ × ℕ × ℕ}

lemma toList_slotString :
    (slotString key).toList = (hexPadded 4 key.1).toList ++ ':' :: ((hexPadded 2 key.2.1).toList ++
      ':' :: (hexPadded 2 key.2.2).toList) := by
  simp [slotString, toString]

/-- **The text of a slot determines its key**, because every field has its width. -/
theorem slotString_inj (h : SlotKeyFits key) (h' : SlotKeyFits key') :
    slotString key = slotString key' ↔ key = key' := by
  refine ⟨fun heq => ?_, fun heq => by rw [heq]⟩
  have hdomain := hex_hexPadded (by decide) h.domain
  have hdomain' := hex_hexPadded (by decide) h'.domain
  have hbus := hex_hexPadded (by decide) h.bus
  have hbus' := hex_hexPadded (by decide) h'.bus
  have hdev := hex_hexPadded (by decide) h.dev
  have hdev' := hex_hexPadded (by decide) h'.dev
  have htext := congrArg String.toList heq
  rw [toList_slotString, toList_slotString] at htext
  obtain ⟨hdomains, hrest⟩ := List.append_inj htext (hdomain.1.trans hdomain'.1.symm)
  obtain ⟨hbuses, hrest⟩ :=
    List.append_inj (List.cons.inj hrest).2 (hbus.1.trans hbus'.1.symm)
  have hdevs := (List.cons.inj hrest).2
  refine Prod.ext ?_ (Prod.ext ?_ ?_)
  · exact (hdomain.eq_iff hdomain').mpr (by rw [hdomains])
  · exact (hbus.eq_iff hbus').mpr (by rw [hbuses])
  · exact (hdev.eq_iff hdev').mpr (by rw [hdevs])

lemma SignedHex.lt {width : ℕ} {cs : List Char} (h : SignedHex width cs n) : n < 16 ^ width := by
  rcases h with h | ⟨ds, -, h⟩
  · exact h.lt
  · exact h.lt.trans_le (Nat.pow_le_pow_right (by decide) (Nat.sub_le width 1))

lemma BdfFields.Reads.fits (h : f.Reads key) : SlotKeyFits key :=
  ⟨h.domain.lt, h.bus.lt, h.dev.lt⟩

/-- **What the parser reads**: the slot as the policy code does, and a decimal function. -/
theorem parseBdfSlotAndFunc_iff :
    parseBdfSlotAndFunc bdf = some (slot, func) ↔
      ∃ f key, IsBdf bdf f ∧ f.Reads key ∧ fromStrRadix 10 (2 ^ 8) f.func = .ok func ∧
        slot = slotString key := by
  constructor
  · intro h
    rw [parseBdfSlotAndFunc] at h
    split at h
    next domain bus devfunc hcolons =>
        split at h
        next dev func hdots =>
            split_ifs at h with hwidths
            simp only [not_or, not_not, List.isEmpty_iff] at hwidths
            obtain ⟨hdomain4, hbus2, hdev2, hne⟩ := hwidths
            simp only [Option.bind_eq_bind, Option.bind_eq_some_iff, toOption_eq_some,
              Option.pure_def, Option.some.injEq, Prod.mk.injEq] at h
            obtain ⟨d, hdomain, b, hbus, v, hdev, _, hfunc, rfl, rfl⟩ := h
            refine ⟨⟨domain, bus, dev, func⟩, (d, b, v),
              isBdf_iff.mpr ⟨devfunc, hcolons, hdots, hne⟩, ?_, hfunc, rfl⟩
            exact BdfFields.reads_iff.mpr ⟨⟨hdomain4, hbus2, hdev2⟩, hdomain, hbus, hdev⟩
        next => cases h
    next => cases h
  · rintro ⟨f, ⟨d, b, v⟩, hbdf, hreads, hfunc, rfl⟩
    obtain ⟨devfunc, hcolons, hdots, hne⟩ := isBdf_iff.mp hbdf
    obtain ⟨⟨hdomain4, hbus2, hdev2⟩, hdomain, hbus, hdev⟩ := BdfFields.reads_iff.mp hreads
    rw [parseBdfSlotAndFunc, hcolons]
    simp only [hdots, hdomain4, hbus2, hdev2, List.isEmpty_iff, hne, ne_eq, not_true_eq_false,
      or_self, if_false]
    rw [hdomain, hbus, hdev, hfunc]
    rfl

/-- Where the parser succeeds, so does that of the policy code, with the key of the slot. -/
lemma key_of_parseBdfSlotAndFunc (h : parseBdfSlotAndFunc bdf = some (slot, func)) :
    ∃ key, parseBdfSlot bdf = some key ∧ slot = slotString key ∧ SlotKeyFits key := by
  obtain ⟨f, key, hbdf, hreads, -, hslot⟩ := parseBdfSlotAndFunc_iff.mp h
  exact ⟨key, parseBdfSlot_iff.mpr ⟨f, hbdf, hreads⟩, hslot, hreads.fits⟩

/-- A decimal number below 256 is read as a `u8`. -/
lemma fromStrRadix_of_decimal {cs : List Char} (h : Decimal cs n) (hn : n < 2 ^ 8) :
    fromStrRadix 10 (2 ^ 8) cs = .ok n :=
  (fromStrRadix_ten_iff (by decide)).mpr ⟨.inl h, hn⟩

end

/-- **The interrupt code and the policy code agree on slots.**  Where the parser of the interrupt
code succeeds, that of the policy code does, and the slot is its key in zero-padded hexadecimal; two
addresses have the same slot exactly when they have the same key; and an address that the policy
code accepts is accepted with its function, if that is a decimal number below 256. -/
theorem slot_identity :
    (∀ s slot func, parseBdfSlotAndFunc s = some (slot, func) →
        ∃ key, parseBdfSlot s = some key ∧ parseSlotKey s = some key ∧ slot = slotString key) ∧
      (∀ s t slot slot' func func', parseBdfSlotAndFunc s = some (slot, func) →
        parseBdfSlotAndFunc t = some (slot', func') →
          (slot = slot' ↔ parseBdfSlot s = parseBdfSlot t)) ∧
      ∀ s f key n, parseBdfSlot s = some key → IsBdf s f → Decimal f.func n → n < 256 →
        ∃ slot, parseBdfSlotAndFunc s = some (slot, n) := by
  refine ⟨?_, ?_, ?_⟩
  · intro s slot func h
    obtain ⟨key, hkey, hslot, -⟩ := key_of_parseBdfSlotAndFunc h
    exact ⟨key, hkey, hkey, hslot⟩
  · intro s t slot slot' func func' hs ht
    obtain ⟨key, hkey, rfl, hfits⟩ := key_of_parseBdfSlotAndFunc hs
    obtain ⟨key', hkey', rfl, hfits'⟩ := key_of_parseBdfSlotAndFunc ht
    rw [slotString_inj hfits hfits', hkey, hkey', Option.some.injEq]
  · intro s f key n hkey hbdf hfunc hn
    obtain ⟨g, hbdf', hreads⟩ := parseBdfSlot_iff.mp hkey
    obtain rfl := hbdf.unique hbdf'
    exact ⟨slotString key, parseBdfSlotAndFunc_iff.mpr
      ⟨f, key, hbdf, hreads, fromStrRadix_of_decimal hfunc hn, rfl⟩⟩

/-- Two functions of one device, spelled in upper and lower case, are in one slot, and a device in
another slot is not. -/
theorem slot_identity_upper :
    (∃ key, parseBdfSlot "0000:0A:00.0" = some key ∧ parseSlotKey "0000:0A:00.0" = some key ∧
        "0000:0a:00" = slotString key) ∧
      ("0000:0a:00" = "0000:0a:00" ↔ parseBdfSlot "0000:0A:00.0" = parseBdfSlot "0000:0a:00.1") ∧
      ("0000:0a:00" = "0000:0b:00" ↔ parseBdfSlot "0000:0A:00.0" = parseBdfSlot "0000:0b:00.0") ∧
      ∃ slot, parseBdfSlotAndFunc "0000:0A:00.0" = some (slot, 0) := by
  obtain ⟨hkey, hsame, haccept⟩ := slot_identity
  have hA : parseBdfSlotAndFunc "0000:0A:00.0" = some ("0000:0a:00", 0) := by decide +kernel
  refine ⟨hkey _ _ 0 hA, hsame _ _ _ _ 0 1 hA (by decide +kernel),
    hsame _ _ _ _ 0 0 hA (by decide +kernel), ?_⟩
  refine haccept _ ⟨"0000".toList, "0A".toList, "00".toList, "0".toList⟩ (0, 10, 0) 0
    (by decide +kernel) ⟨by decide, by decide, by decide, by decide⟩ ?_ (by decide)
  exact ⟨by decide, List.forall_mem_singleton.mpr (by decide : '0'.isDigit = true), by decide⟩

end Chalybs
