import Chalybs.Core.Numerals
import Chalybs.Foundation.FirstFit
import Chalybs.Qemu.Devices
import Mathlib.Data.Set.Card
import Mathlib.Data.String.Basic

/-!
# Root-port slots

`build_pci_rootport_map` (`qemu.rs`) gives every passthrough device a slot on `pcie.0`: the one that
`qemu.pci_rootport` asks for, or the first that is free.

* `ReadsAs` — the slot that an override is read as; `parseRootportSlot_eq_ok` says it of the parser.
* `VmRuntime.RootportsFit` — when the map is built, and `VmRuntime.SlotAt` — the slots in it.
* `rootports_assigned` — the map as the documentation describes it, and that no order matters.
* `rootports_accepted_iff` — where it is built exactly for the configurations that the documentation
  accepts.
-/

namespace Chalybs

open Foundation

/-! ## Reading a slot -/

/-- The text is `0x` or `0X` and two hexadecimal digits, which denote the slot. -/
def DenotesSlot (addr : String) (slot : ℕ) : Prop :=
  ∃ x hi lo d e, addr.toList = ['0', x, hi, lo] ∧ (x = 'x' ∨ x = 'X') ∧ toDigit 16 hi = some d ∧
    toDigit 16 lo = some e ∧ slot = d * 16 + e

/-- The text is `0x` or `0X`, a plus sign and one hexadecimal digit. -/
def SignedSlot (addr : String) (slot : ℕ) : Prop :=
  ∃ x lo, addr.toList = ['0', x, '+', lo] ∧ (x = 'x' ∨ x = 'X') ∧ toDigit 16 lo = some slot

/-- The slot that the parser reads. -/
def ReadsAs (addr : String) (slot : ℕ) : Prop :=
  slot ≤ 0x1f ∧ (DenotesSlot addr slot ∨ SignedSlot addr slot)

lemma hex_one {cs : List Char} {n : ℕ} :
    Hex 1 cs n ↔ ∃ lo, cs = [lo] ∧ toDigit 16 lo = some n := by
  constructor
  · rintro ⟨hlen, -, ds, hds, hn⟩
    obtain ⟨lo, rfl⟩ := List.length_eq_one_iff.mp hlen
    obtain ⟨d, _, hd, hnil, rfl⟩ := List.forall₂_cons_left_iff.mp hds
    obtain rfl := List.forall₂_nil_left_iff.mp hnil
    exact ⟨lo, rfl, by simpa [hd] using hn⟩
  · rintro ⟨lo, rfl, hlo⟩
    exact ⟨rfl, by simp, [n], .cons hlo .nil, by simp⟩

lemma hex_two {cs : List Char} {n : ℕ} :
    Hex 2 cs n ↔ ∃ hi lo d e, cs = [hi, lo] ∧ toDigit 16 hi = some d ∧ toDigit 16 lo = some e ∧
      n = d * 16 + e := by
  have hvalue : ∀ d e : ℕ, Nat.ofDigits 16 [d, e].reverse = d * 16 + e := fun d e => by
    rw [ofDigits_cons_reverse]
    simp [Nat.add_comm, Nat.mul_comm]
  constructor
  · rintro ⟨hlen, -, ds, hds, rfl⟩
    obtain ⟨hi, lo, rfl⟩ := List.length_eq_two.mp hlen
    obtain ⟨d, _, hd, hrest, rfl⟩ := List.forall₂_cons_left_iff.mp hds
    obtain ⟨e, _, he, hnil, rfl⟩ := List.forall₂_cons_left_iff.mp hrest
    obtain rfl := List.forall₂_nil_left_iff.mp hnil
    exact ⟨hi, lo, d, e, rfl, hd, he, hvalue d e⟩
  · rintro ⟨hi, lo, d, e, rfl, hd, he, rfl⟩
    exact ⟨rfl, by simp, [d, e], .cons hd (.cons he .nil), hvalue d e⟩

/-- What `from_str_radix` reads from two bytes: two digits, or a plus sign and a digit. -/
lemma fromStrRadix_eq_ok {cs : List Char} {slot : ℕ} (hlen : byteLen cs = 2) :
    fromStrRadix 16 (2 ^ 8) cs = .ok slot ↔
      (∃ hi lo d e, cs = [hi, lo] ∧ toDigit 16 hi = some d ∧ toDigit 16 lo = some e ∧
        slot = d * 16 + e) ∨ ∃ lo, cs = ['+', lo] ∧ toDigit 16 lo = some slot := by
  have hread : fromStrRadix 16 (2 ^ 8) cs = .ok slot ↔
      Hex 2 cs slot ∨ ∃ ds, cs = '+' :: ds ∧ Hex 1 ds slot := by
    rw [← fromStrRadix_hex_iff (by decide)]
    exact (and_iff_right hlen).symm
  rw [hread, hex_two]
  refine or_congr_right ⟨?_, ?_⟩
  · rintro ⟨ds, rfl, h⟩
    obtain ⟨lo, rfl, hlo⟩ := hex_one.mp h
    exact ⟨lo, rfl, hlo⟩
  · rintro ⟨lo, rfl, hlo⟩
    exact ⟨[lo], rfl, hex_one.mpr ⟨lo, rfl, hlo⟩⟩

/-- The form that the parser checks first: four bytes that begin with `0x` or `0X`. -/
lemma slotForm_iff {cs : List Char} :
    (byteLen cs = 4 ∧ (cs.take 2 = ['0', 'x'] ∨ cs.take 2 = ['0', 'X'])) ↔
      ∃ x rest, cs = '0' :: x :: rest ∧ (x = 'x' ∨ x = 'X') ∧ byteLen rest = 2 := by
  constructor
  · rintro ⟨hlen, hprefix⟩
    rcases cs with _ | ⟨c, _ | ⟨x, rest⟩⟩
    · simp at hprefix
    · simp at hprefix
    · have hx : c = '0' ∧ (x = 'x' ∨ x = 'X') := by
        simpa [← and_or_left] using hprefix
      obtain ⟨rfl, hx⟩ := hx
      refine ⟨x, rest, rfl, hx, ?_⟩
      have hsize : x.utf8Size = 1 := by rcases hx with rfl | rfl <;> decide
      have hsum : byteLen ('0' :: x :: rest) = 1 + (x.utf8Size + byteLen rest) := by
        simp [byteLen, show ('0' : Char).utf8Size = 1 by decide]
      omega
  · rintro ⟨x, rest, rfl, hx, hrest⟩
    have hsize : x.utf8Size = 1 := by rcases hx with rfl | rfl <;> decide
    have hsum : byteLen ('0' :: x :: rest) = 1 + (x.utf8Size + byteLen rest) := by
      simp [byteLen, show ('0' : Char).utf8Size = 1 by decide]
    refine ⟨by omega, ?_⟩
    rcases hx with rfl | rfl
    · exact .inl rfl
    · exact .inr rfl

/-- Two characters of which each is a digit or a plus sign are two bytes. -/
lemma byteLen_slot {hi lo : Char} {e : ℕ} (hhi : hi = '+' ∨ ∃ d, toDigit 16 hi = some d)
    (hlo : toDigit 16 lo = some e) : byteLen [hi, lo] = 2 := by
  have hsize : hi.utf8Size = 1 := by
    rcases hhi with rfl | ⟨d, hd⟩
    · decide
    · exact utf8Size_of_toDigit hd
  simp [byteLen, hsize, utf8Size_of_toDigit hlo]

/-- What the parser reads has two characters after the prefix. -/
lemma readsAs_iff {addr : String} {slot : ℕ} :
    ReadsAs addr slot ↔ ∃ x rest, addr.toList = '0' :: x :: rest ∧ (x = 'x' ∨ x = 'X') ∧
      byteLen rest = 2 ∧ fromStrRadix 16 (2 ^ 8) rest = .ok slot ∧ slot ≤ 0x1f := by
  constructor
  · rintro ⟨hslot, ⟨x, hi, lo, d, e, hcs, hx, hd, he, rfl⟩ | ⟨x, lo, hcs, hx, he⟩⟩
    · have hlen := byteLen_slot (.inr ⟨d, hd⟩) he
      exact ⟨x, _, hcs, hx, hlen,
        (fromStrRadix_eq_ok hlen).mpr (.inl ⟨hi, lo, d, e, rfl, hd, he, rfl⟩), hslot⟩
    · have hlen := byteLen_slot (.inl rfl) he
      exact ⟨x, _, hcs, hx, hlen, (fromStrRadix_eq_ok hlen).mpr (.inr ⟨lo, rfl, he⟩), hslot⟩
  · rintro ⟨x, rest, hcs, hx, hlen, hread, hslot⟩
    rcases (fromStrRadix_eq_ok hlen).mp hread with
      ⟨hi, lo, d, e, rfl, hd, he, rfl⟩ | ⟨lo, rfl, he⟩
    · exact ⟨hslot, .inl ⟨x, hi, lo, d, e, hcs, hx, hd, he, rfl⟩⟩
    · exact ⟨hslot, .inr ⟨x, lo, hcs, hx, he⟩⟩

/-- **The parser** reads an override as its slot, whatever the names in its errors. -/
lemma parseRootportSlot_eq_ok {vmName bdf addr : String} {slot : ℕ} :
    parseRootportSlot vmName bdf addr = .ok slot ↔ ReadsAs addr slot := by
  rw [readsAs_iff, parseRootportSlot]
  split_ifs with hform
  · refine iff_of_false (by simp) ?_
    rintro ⟨x, rest, hcs, hx, hlen, -⟩
    obtain ⟨hbytes, hprefix⟩ := slotForm_iff.mpr ⟨x, rest, hcs, hx, hlen⟩
    exact hform.elim (fun h => h hbytes) fun h => h hprefix
  · push Not at hform
    obtain ⟨x, rest, hcs, hx, hlen⟩ := slotForm_iff.mp hform
    have hdrop : addr.toList.drop 2 = rest := by rw [hcs]; rfl
    rw [hdrop]
    have hex : (∃ x rest, addr.toList = '0' :: x :: rest ∧ (x = 'x' ∨ x = 'X') ∧
        byteLen rest = 2 ∧ fromStrRadix 16 (2 ^ 8) rest = .ok slot ∧ slot ≤ 0x1f) ↔
        fromStrRadix 16 (2 ^ 8) rest = .ok slot ∧ slot ≤ 0x1f := by
      constructor
      · rintro ⟨_, rest', hcs', -, -, hread, hslot⟩
        rw [hcs] at hcs'
        obtain ⟨-, rfl⟩ := List.cons.inj (List.cons.inj hcs').2
        exact ⟨hread, hslot⟩
      · rintro ⟨hread, hslot⟩
        exact ⟨x, rest, hcs, hx, hlen, hread, hslot⟩
    rw [hex]
    cases fromStrRadix 16 (2 ^ 8) rest with
    | error e => simp
    | ok s =>
        have hcount : slotCount = 0x20 := rfl
        simp only [Except.ok.injEq]
        split_ifs with hlarge
        · refine iff_of_false (by simp) ?_
          rintro ⟨rfl, hslot⟩
          omega
        · rw [Except.ok.injEq]
          refine ⟨?_, And.left⟩
          rintro rfl
          exact ⟨rfl, by omega⟩

lemma ReadsAs.unique {addr : String} {slot slot' : ℕ} (h : ReadsAs addr slot)
    (h' : ReadsAs addr slot') : slot = slot' :=
  Except.ok.inj ((parseRootportSlot_eq_ok.mpr h).symm.trans
    (@parseRootportSlot_eq_ok "" "" addr slot' |>.mpr h'))

/-- A slot as it is written is read as that slot. -/
lemma parseRootportSlot_slotText :
    ∀ slot < slotCount, parseRootportSlot "" "" (slotText slot) = .ok slot := by decide

/-- The text of a slot in lower case, without the sign that the parser also reads. -/
def CanonicalSlot (addr : String) (slot : ℕ) : Prop :=
  DenotesSlot addr slot ∧ ∀ c ∈ addr.toList, c.isUpper = false

lemma canonical_slotText {slot : ℕ} (h : slot < slotCount) :
    CanonicalSlot (slotText slot) slot := by
  have hchars : ∀ slot < slotCount,
      (slotText slot).toList.all (fun c => c ≠ '+' ∧ c.isUpper = false) = true := by decide
  have hlower := List.all_eq_true.mp (hchars slot h)
  refine ⟨?_, fun c hc => (of_decide_eq_true (hlower c hc)).2⟩
  obtain ⟨-, hdenotes | ⟨x, lo, htext, -⟩⟩ :=
    parseRootportSlot_eq_ok.mp (parseRootportSlot_slotText slot h)
  · exact hdenotes
  · have hplus : '+' ∈ (slotText slot).toList := by rw [htext]; simp
    exact absurd rfl (of_decide_eq_true (hlower '+' hplus)).1

/-! ## The order of the devices -/

/-- The sorted addresses of one kind, with its priority. -/
def kindEntries (kind : ℕ) (devs : List PciDeviceConfig) : List (ℕ × String) :=
  ((devs.map PciDeviceConfig.pciAddress).insertionSort fun a b => a ≤ b).map fun bdf => (kind, bdf)

namespace DevicesConfig

variable (devices : DevicesConfig)

/-- The entries that `build_pci_rootport_map` sorts. -/
def sortedEntries : List (ℕ × String) :=
  kindEntries 0 (deviceList devices.gpu) ++ kindEntries 1 (deviceList devices.nvme) ++
    kindEntries 2 (deviceList devices.nic) ++ kindEntries 3 (deviceList devices.usb)

/-- The priority of the first kind that names the address. -/
def kindOf (bdf : String) : ℕ :=
  devices.lists.findIdx fun devs => (devs.map PciDeviceConfig.pciAddress).contains bdf

/-- The order of the documentation: by kind, and within a kind by address. -/
def Precedes (b c : String) : Prop :=
  devices.kindOf b < devices.kindOf c ∨ devices.kindOf b = devices.kindOf c ∧ b < c

variable {devices} {b c : String} {k : ℕ}

lemma map_snd_sortedEntries : devices.sortedEntries.map Prod.snd = devices.sortedBdfs := by
  simp [sortedEntries, kindEntries, sortedBdfs, lists]

lemma mem_sortedEntries : (k, b) ∈ devices.sortedEntries ↔
    ∃ devs, devices.lists[k]? = some devs ∧ b ∈ devs.map PciDeviceConfig.pciAddress := by
  have hkind : ∀ kind devs, (k, b) ∈ kindEntries kind devs ↔
      k = kind ∧ b ∈ devs.map PciDeviceConfig.pciAddress := by
    intro kind devs
    simp only [kindEntries, List.mem_map, List.mem_insertionSort, Prod.mk.injEq]
    constructor
    · rintro ⟨_, hb, rfl, rfl⟩
      exact ⟨rfl, hb⟩
    · rintro ⟨rfl, hb⟩
      exact ⟨b, hb, rfl, rfl⟩
  simp only [sortedEntries, List.mem_append, hkind, lists]
  rcases k with _ | _ | _ | _ | k
  · simp
  · simp
  · simp
  · simp
  · simp

lemma mem_sortedBdfs : b ∈ devices.sortedBdfs ↔
    ∃ dev ∈ devices.lists.flatten, dev.pciAddress = b := by
  simp only [sortedBdfs, List.mem_flatMap, List.mem_insertionSort, List.mem_map, List.mem_flatten]
  constructor
  · rintro ⟨devs, hdevs, dev, hdev, rfl⟩
    exact ⟨dev, ⟨devs, hdevs, hdev⟩, rfl⟩
  · rintro ⟨dev, ⟨devs, hdevs, hdev⟩, rfl⟩
    exact ⟨devs, hdevs, dev, hdev, rfl⟩

lemma kindOf_le (h : (k, b) ∈ devices.sortedEntries) : devices.kindOf b ≤ k := by
  obtain ⟨devs, hdevs, hb⟩ := mem_sortedEntries.mp h
  obtain ⟨hk, rfl⟩ := List.getElem?_eq_some_iff.mp hdevs
  by_contra hlt
  have hnot := List.not_of_lt_findIdx (Nat.lt_of_not_le hlt)
  rw [List.contains_iff_mem.mpr hb] at hnot
  exact Bool.noConfusion hnot

lemma kindOf_mem (h : b ∈ devices.sortedBdfs) : (devices.kindOf b, b) ∈ devices.sortedEntries := by
  obtain ⟨dev, hdev, rfl⟩ := mem_sortedBdfs.mp h
  obtain ⟨devs, hdevs, hmem⟩ := List.mem_flatten.mp hdev
  have hnamed : (devs.map PciDeviceConfig.pciAddress).contains dev.pciAddress = true :=
    List.contains_iff_mem.mpr (List.mem_map_of_mem hmem)
  have hlt := List.findIdx_lt_length_of_exists (p := fun devs : List PciDeviceConfig =>
    (devs.map PciDeviceConfig.pciAddress).contains dev.pciAddress) ⟨devs, hdevs, hnamed⟩
  have hfound := List.findIdx_getElem (w := hlt)
  exact mem_sortedEntries.mpr ⟨_, List.getElem?_eq_getElem hlt, List.contains_iff_mem.mp hfound⟩

lemma pairwise_sortedEntries :
    devices.sortedEntries.Pairwise fun p q => p.1 < q.1 ∨ p.1 = q.1 ∧ p.2 ≤ q.2 := by
  have hsorted : ∀ kind devs, (kindEntries kind devs).Pairwise
      fun p q => p.1 < q.1 ∨ p.1 = q.1 ∧ p.2 ≤ q.2 := by
    intro kind devs
    refine List.pairwise_map.mpr ?_
    exact (List.pairwise_insertionSort (· ≤ ·) _).imp fun hle => .inr ⟨rfl, hle⟩
  have hkind : ∀ {kind devs} {p : ℕ × String}, p ∈ kindEntries kind devs → p.1 = kind := by
    intro kind devs p hp
    obtain ⟨_, -, rfl⟩ := List.mem_map.mp hp
    rfl
  simp only [sortedEntries, List.pairwise_append, List.mem_append]
  refine ⟨⟨⟨hsorted _ _, hsorted _ _, ?_⟩, hsorted _ _, ?_⟩, hsorted _ _, ?_⟩
  · intro p hp q hq
    exact .inl (by rw [hkind hp, hkind hq]; omega)
  · rintro p (hp | hp) q hq
    · exact .inl (by rw [hkind hp, hkind hq]; omega)
    · exact .inl (by rw [hkind hp, hkind hq]; omega)
  · rintro p ((hp | hp) | hp) q hq
    · exact .inl (by rw [hkind hp, hkind hq]; omega)
    · exact .inl (by rw [hkind hp, hkind hq]; omega)
    · exact .inl (by rw [hkind hp, hkind hq]; omega)

/-- **The sorted addresses** come in the order of the documentation, by their first occurrences. -/
lemma precedes_of_earlier (h : Earlier devices.sortedBdfs b c) (hc : c ∈ devices.sortedBdfs) :
    devices.Precedes b c := by
  obtain ⟨before, after, heq, hbefore, hne⟩ := h
  rw [← map_snd_sortedEntries] at heq
  obtain ⟨front, back, hentries, rfl, hback⟩ := List.map_eq_append_iff.mp heq
  obtain ⟨⟨k, x⟩, rest, rfl, rfl, -⟩ := List.map_eq_cons_iff.mp hback
  -- the first entry of `c` is not in front of this entry of `b`
  have hmem := kindOf_mem hc
  rw [hentries, List.mem_append, List.mem_cons] at hmem
  have hrest : (devices.kindOf c, c) ∈ rest := by
    rcases hmem with hfront | heq | hrest
    · exact absurd (List.mem_map_of_mem hfront) hbefore
    · exact absurd (congrArg Prod.snd heq) hne
    · exact hrest
  have hsorted := @pairwise_sortedEntries devices
  rw [hentries, List.pairwise_append, List.pairwise_cons] at hsorted
  have hle := kindOf_le (show (k, x) ∈ devices.sortedEntries by simp [hentries])
  rcases hsorted.2.1.1 _ hrest with hlt | ⟨hkind, hlex⟩
  · exact .inl (hle.trans_lt hlt)
  · rcases Nat.lt_or_eq_of_le hle with hlt | hkind'
    · exact .inl (hlt.trans_eq hkind)
    · exact .inr ⟨hkind'.trans hkind, lt_of_le_of_ne hlex hne.symm⟩

lemma Precedes.asymm (h : devices.Precedes b c) : ¬ devices.Precedes c b := by
  rintro (hlt | ⟨heq, hlt⟩)
  · rcases h with hlt' | ⟨heq', -⟩
    · omega
    · omega
  · rcases h with hlt' | ⟨-, hlt'⟩
    · omega
    · exact absurd hlt hlt'.asymm

end DevicesConfig

/-! ## The loop over the overrides -/

section

variable {vmName : String} {configured : List String} {m m' : RootportMap}
  {overrides : List (Sigma fun _ : String => String)} {b t : String}

/-- The map with one more device. -/
def RootportMap.assign (m : RootportMap) (bdf : String) (slot : ℕ) : RootportMap :=
  { map := m.map.insert bdf (slotText slot), usedSlots := slot :: m.usedSlots }

@[simp] lemma usedSlots_assign {slot : ℕ} :
    (m.assign b slot).usedSlots = slot :: m.usedSlots := rfl

lemma lookup_assign {bdf : String} {slot : ℕ} :
    (m.assign bdf slot).map.lookup b = some t ↔
      b = bdf ∧ t = slotText slot ∨ b ≠ bdf ∧ m.map.lookup b = some t := by
  rw [RootportMap.assign]
  by_cases h : b = bdf
  · subst h
    simp [eq_comm]
  · simp [AList.lookup_insert_ne h, h]

/-- The overrides that the loop accepts. -/
structure Accepts (configured : List String) (used : List ℕ)
    (overrides : List (Sigma fun _ : String => String)) : Prop where
  configured : ∀ o ∈ overrides, o.1 ∈ configured
  reads : ∀ o ∈ overrides, ∃ slot, ReadsAs o.2 slot ∧ slot ∉ used
  distinct : overrides.Pairwise fun o o' => ∀ slot, ReadsAs o.2 slot → ¬ ReadsAs o'.2 slot

lemma Accepts.reads_distinct {used : List ℕ} {o o' : Sigma fun _ : String => String} {slot : ℕ}
    (h : Accepts configured used overrides) (ho : o ∈ overrides) (ho' : o' ∈ overrides)
    (hne : o ≠ o') (hreads : ReadsAs o.2 slot) : ¬ ReadsAs o'.2 slot := by
  have hsymm : Std.Symm fun o o' : Sigma fun _ : String => String =>
      ∀ slot, ReadsAs o.2 slot → ¬ ReadsAs o'.2 slot :=
    ⟨fun _ _ h slot hreads hreads' => h slot hreads' hreads⟩
  exact h.distinct.forall ho ho' hne slot hreads

/-- A turn of the loop that goes on. -/
lemma seedOverrides_cons_ok {o : Sigma fun _ : String => String} :
    seedOverrides vmName configured m (o :: overrides) = .ok m' ↔
      o.1 ∈ configured ∧ ∃ slot, ReadsAs o.2 slot ∧ slot ∉ m.usedSlots ∧
        seedOverrides vmName configured (m.assign o.1 slot) overrides = .ok m' := by
  obtain ⟨bdf, addr⟩ := o
  rw [seedOverrides]
  by_cases hconf : bdf ∈ configured
  · simp only [hconf, not_true_eq_false, if_false, true_and]
    cases hparse : parseRootportSlot vmName bdf addr with
    | error e =>
        refine iff_of_false (by simp) ?_
        rintro ⟨slot, hreads, -⟩
        rw [parseRootportSlot_eq_ok.mpr hreads] at hparse
        cases hparse
    | ok slot =>
        have hreads := parseRootportSlot_eq_ok.mp hparse
        by_cases hused : slot ∈ m.usedSlots
        · simp only [hused, if_true]
          refine iff_of_false (by simp) ?_
          rintro ⟨slot', hreads', hfree, -⟩
          exact hfree (hreads'.unique hreads ▸ hused)
        · simp only [hused, if_false]
          constructor
          · intro h
            exact ⟨slot, hreads, hused, h⟩
          · rintro ⟨slot', hreads', -, h⟩
            rwa [hreads'.unique hreads] at h
  · simp [hconf]

lemma exists_seedOverrides :
    (∃ m', seedOverrides vmName configured m overrides = .ok m') ↔
      Accepts configured m.usedSlots overrides := by
  induction overrides generalizing m with
  | nil => exact iff_of_true ⟨m, rfl⟩ ⟨by simp, by simp, List.Pairwise.nil⟩
  | cons o overrides ih =>
      simp only [seedOverrides_cons_ok]
      constructor
      · rintro ⟨m', hconf, slot, hreads, hfree, hrest⟩
        have hrest := ih.mp ⟨m', hrest⟩
        refine ⟨List.forall_mem_cons.mpr ⟨hconf, hrest.configured⟩,
          List.forall_mem_cons.mpr ⟨⟨slot, hreads, hfree⟩, fun o' ho' => ?_⟩,
          List.pairwise_cons.mpr ⟨fun o' ho' slot' hreads' hother => ?_, hrest.distinct⟩⟩
        · obtain ⟨slot', hreads', hfree'⟩ := hrest.reads o' ho'
          exact ⟨slot', hreads', fun hused => hfree' (List.mem_cons_of_mem _ hused)⟩
        · obtain ⟨slot'', hreads'', hfree''⟩ := hrest.reads o' ho'
          obtain rfl := hreads.unique hreads'
          exact hfree'' (hreads''.unique hother ▸ List.mem_cons_self)
      · rintro ⟨hconf, hreads, hdistinct⟩
        obtain ⟨hconf, hconf'⟩ := List.forall_mem_cons.mp hconf
        obtain ⟨⟨slot, hslot, hfree⟩, hreads⟩ := List.forall_mem_cons.mp hreads
        obtain ⟨hother, hdistinct⟩ := List.pairwise_cons.mp hdistinct
        have hrest : Accepts configured (m.assign o.1 slot).usedSlots overrides := by
          refine ⟨hconf', fun o' ho' => ?_, hdistinct⟩
          obtain ⟨slot', hslot', hfree'⟩ := hreads o' ho'
          rw [usedSlots_assign]
          refine ⟨slot', hslot', List.not_mem_cons_of_ne_of_not_mem ?_ hfree'⟩
          rintro rfl
          exact hother o' ho' slot' hslot hslot'
        obtain ⟨m', hrest⟩ := ih.mpr hrest
        exact ⟨m', hconf, slot, hslot, hfree, hrest⟩

/-- **What the loop leaves**: the overrides with their slots, besides what was there. -/
lemma seedOverrides_spec (hnodup : overrides.NodupKeys)
    (h : seedOverrides vmName configured m overrides = .ok m') :
    (∀ b t, m'.map.lookup b = some t ↔
      (∃ addr slot, ⟨b, addr⟩ ∈ overrides ∧ ReadsAs addr slot ∧ t = slotText slot) ∨
        b ∉ overrides.keys ∧ m.map.lookup b = some t) ∧
      ∀ slot, slot ∈ m'.usedSlots ↔
        (∃ o ∈ overrides, ReadsAs o.2 slot) ∨ slot ∈ m.usedSlots := by
  induction overrides generalizing m with
  | nil =>
      obtain rfl := Except.ok.inj h
      simp
  | cons o overrides ih =>
      obtain ⟨-, slot, hslot, -, hrest⟩ := seedOverrides_cons_ok.mp h
      obtain ⟨hfresh, hnodup⟩ := List.nodupKeys_cons.mp hnodup
      obtain ⟨hmap, hused⟩ := ih hnodup hrest
      constructor
      · intro b t
        rw [hmap, lookup_assign]
        constructor
        · rintro (⟨addr, slot', hmem, hreads, ht⟩ | ⟨hnot, ⟨rfl, ht⟩ | ⟨hne, ht⟩⟩)
          · exact .inl ⟨addr, slot', List.mem_cons_of_mem _ hmem, hreads, ht⟩
          · exact .inl ⟨o.2, slot, List.mem_cons_self, hslot, ht⟩
          · exact .inr ⟨by simpa [List.keys, hne] using hnot, ht⟩
        · rintro (⟨addr, slot', hmem, hreads, ht⟩ | ⟨hnot, ht⟩)
          · rcases List.mem_cons.mp hmem with rfl | hmem
            · obtain rfl := hreads.unique hslot
              exact .inr ⟨hfresh, .inl ⟨rfl, ht⟩⟩
            · exact .inl ⟨addr, slot', hmem, hreads, ht⟩
          · simp only [List.keys_cons, List.mem_cons, not_or] at hnot
            exact .inr ⟨hnot.2, .inr ⟨hnot.1, ht⟩⟩
      · intro slot'
        rw [hused, usedSlots_assign, List.mem_cons]
        constructor
        · rintro (⟨o', ho', hreads⟩ | rfl | hmem)
          · exact .inl ⟨o', List.mem_cons_of_mem _ ho', hreads⟩
          · exact .inl ⟨o, List.mem_cons_self, hslot⟩
          · exact .inr hmem
        · rintro (⟨o', ho', hreads⟩ | hmem)
          · rcases List.mem_cons.mp ho' with rfl | ho'
            · exact .inr (.inl (hreads.unique hslot))
            · exact .inl ⟨o', ho', hreads⟩
          · exact .inr (.inr hmem)

end

/-! ## The loop over the devices -/

section

variable {vmName : String} {m : RootportMap} {next : ℕ} {bdfs : List String} {b t : String}

/-- The devices that still need a slot, each once. -/
def RootportMap.unassigned (m : RootportMap) (bdfs : List String) : List String :=
  (bdfs.filter fun bdf => (m.map.lookup bdf).isNone).eraseDups

/-- **The search** finds the first free slot, if there is one. -/
lemma nextFreeSlot_spec (used : List ℕ) (next : ℕ) :
    if nextFreeSlot used next < slotCount then
      freeBetween used next slotCount = nextFreeSlot used next ::
        freeBetween (nextFreeSlot used next :: used) (nextFreeSlot used next + 1) slotCount
    else freeBetween used next slotCount = [] := by
  have hcount : slotCount = 0x20 := rfl
  rw [nextFreeSlot]
  cases hfind : (List.range' next (255 - next)).find? fun slot => !used.contains slot with
  | none =>
      rw [List.find?_eq_none] at hfind
      rw [Option.getD_none, if_neg (by omega)]
      refine freeBetween_eq_nil fun k hlo hhi => ?_
      simpa using hfind k (List.mem_range'_1.mpr ⟨hlo, by omega⟩)
  | some slot =>
      rw [List.find?_range'_eq_some] at hfind
      obtain ⟨hfree, hmem, hbefore⟩ := hfind
      obtain ⟨hlo, -⟩ := List.mem_range'_1.mp hmem
      rw [Option.getD_some]
      split_ifs with hslot
      · refine freeBetween_eq_cons hlo hslot (by simpa using hfree) fun k hk hlt => ?_
        simpa using hbefore k hk hlt
      · refine freeBetween_eq_nil fun k hk hlt => ?_
        simpa using hbefore k hk (by omega)

lemma unassigned_cons_of_some {bdf text : String} (h : m.map.lookup bdf = some text) :
    m.unassigned (bdf :: bdfs) = m.unassigned bdfs := by
  rw [RootportMap.unassigned, List.filter_cons_of_neg (by simp [h]), RootportMap.unassigned]

lemma unassigned_cons_of_none {bdf : String} (slot : ℕ) (h : m.map.lookup bdf = none) :
    m.unassigned (bdf :: bdfs) = bdf :: (m.assign bdf slot).unassigned bdfs := by
  have hfilter : ((bdfs.filter fun b => (m.map.lookup b).isNone).filter fun b => !b == bdf) =
      bdfs.filter fun b => ((m.assign bdf slot).map.lookup b).isNone := by
    rw [List.filter_filter]
    refine List.filter_congr fun b _ => ?_
    by_cases hb : b = bdf
    · subst hb
      simp [RootportMap.assign]
    · simp [RootportMap.assign, AList.lookup_insert_ne hb, hb]
  rw [RootportMap.unassigned, List.filter_cons_of_pos (by simp [h]), List.eraseDups_cons,
    hfilter, RootportMap.unassigned]

/-- **What the loop does**: the devices that need a slot get the free ones in order, if there are
enough. -/
lemma assignSlots_spec (m : RootportMap) (next : ℕ) (bdfs : List String) :
    if (m.unassigned bdfs).length ≤ (freeBetween m.usedSlots next slotCount).length then
      ∃ m', assignSlots vmName m next bdfs = .ok m' ∧ ∀ b t, m'.map.lookup b = some t ↔
        m.map.lookup b = some t ∨ ∃ slot, t = slotText slot ∧
          (b, slot) ∈ (m.unassigned bdfs).zip (freeBetween m.usedSlots next slotCount)
    else ∃ e, assignSlots vmName m next bdfs = .error e := by
  induction bdfs generalizing m next with
  | nil => simp [RootportMap.unassigned, assignSlots]
  | cons bdf bdfs ih =>
      rw [assignSlots]
      cases hlookup : m.map.lookup bdf with
      | some text =>
          rw [unassigned_cons_of_some hlookup]
          simpa using ih m next
      | none =>
          simp only [Option.isSome_none, Bool.false_eq_true, if_false]
          have hsearch := nextFreeSlot_spec m.usedSlots next
          generalize nextFreeSlot m.usedSlots next = slot at hsearch ⊢
          rw [unassigned_cons_of_none slot hlookup]
          by_cases hslot : slot < slotCount
          · rw [if_pos hslot] at hsearch
            rw [hsearch, if_neg (Nat.not_le.mpr hslot)]
            have hrest := ih (m.assign bdf slot) (slot + 1)
            rw [usedSlots_assign] at hrest
            simp only [List.length_cons, Nat.add_le_add_iff_right, List.zip_cons_cons,
              List.mem_cons, Prod.mk.injEq]
            split_ifs with hroom
            · rw [if_pos hroom] at hrest
              obtain ⟨m', hok, hmap⟩ := hrest
              refine ⟨m', hok, fun b t => ?_⟩
              rw [hmap, lookup_assign]
              constructor
              · rintro ((⟨hb, ht⟩ | ⟨-, ht⟩) | ⟨slot', ht, hmem⟩)
                · exact .inr ⟨slot, ht, .inl ⟨hb, rfl⟩⟩
                · exact .inl ht
                · exact .inr ⟨slot', ht, .inr hmem⟩
              · rintro (ht | ⟨slot', ht, ⟨hb, rfl⟩ | hmem⟩)
                · refine .inl (.inr ⟨?_, ht⟩)
                  rintro rfl
                  rw [hlookup] at ht
                  cases ht
                · exact .inl (.inl ⟨hb, ht⟩)
                · exact .inr ⟨slot', ht, hmem⟩
            · rw [if_neg hroom] at hrest
              exact hrest
          · rw [if_neg hslot] at hsearch
            rw [hsearch, if_pos (Nat.not_lt.mp hslot), if_neg (by simp)]
            exact ⟨_, rfl⟩

end

/-! ## The map -/

namespace VmRuntime

variable (rt : VmRuntime)

/-- The overrides, if there are any. -/
def overrides : AList fun _ : String => String := rt.cfg.qemu.pciRootport.getD ∅

/-- The slots that overrides claim. -/
def claimedSlots : List ℕ :=
  rt.overrides.entries.filterMap fun o => (parseRootportSlot rt.name o.1 o.2).toOption

/-- The devices without an override, in the order in which they get a slot. -/
def autoBdfs : List String :=
  (rt.cfg.devices.sortedBdfs.filter fun bdf => decide (bdf ∉ rt.overrides)).eraseDups

/-- The slots that they get. -/
def freeSlots : List ℕ := freeBetween rt.claimedSlots 0x01 slotCount

/-- What the overrides and the number of the devices must be for the map to be built. -/
structure RootportsFit : Prop where
  accepts : Accepts rt.cfg.devices.sortedBdfs [] rt.overrides.entries
  room : rt.autoBdfs.length ≤ rt.freeSlots.length

variable {rt} {map : AList fun _ : String => String} {bdf text : String} {slot : ℕ}

lemma mem_claimedSlots :
    slot ∈ rt.claimedSlots ↔ ∃ o ∈ rt.overrides.entries, ReadsAs o.2 slot := by
  simp only [claimedSlots, List.mem_filterMap]
  refine exists_congr fun o => and_congr_right fun _ => ?_
  rw [← @parseRootportSlot_eq_ok rt.name o.1]
  cases parseRootportSlot rt.name o.1 o.2 with
  | ok s => simp [Except.toOption]
  | error e => simp [Except.toOption]

lemma mem_freeSlots : slot ∈ rt.freeSlots ↔
    0x01 ≤ slot ∧ slot < slotCount ∧ ¬ ∃ o ∈ rt.overrides.entries, ReadsAs o.2 slot := by
  rw [freeSlots, mem_freeBetween, mem_claimedSlots]

lemma pairwise_freeSlots : rt.freeSlots.Pairwise (· < ·) := pairwise_freeBetween _ _ _

lemma mem_sortedBdfs : bdf ∈ rt.cfg.devices.sortedBdfs ↔ rt.cfg.Configures bdf :=
  DevicesConfig.mem_sortedBdfs

lemma mem_autoBdfs : bdf ∈ rt.autoBdfs ↔ rt.cfg.Configures bdf ∧ bdf ∉ rt.overrides := by
  simp [autoBdfs, List.mem_eraseDups, mem_sortedBdfs]

/-- What the loop over the overrides leaves to the loop over the devices. -/
lemma seeded_spec {configured : List String} {seeded : RootportMap}
    (h : seedOverrides rt.name configured {} rt.overrides.entries = .ok seeded) :
    (∀ bdf text, seeded.map.lookup bdf = some text ↔ ∃ slot, text = slotText slot ∧
      ∃ addr, rt.overrides.lookup bdf = some addr ∧ ReadsAs addr slot) ∧
    seeded.unassigned rt.cfg.devices.sortedBdfs = rt.autoBdfs ∧
    freeBetween seeded.usedSlots 0x01 slotCount = rt.freeSlots := by
  obtain ⟨hmap, hused⟩ := seedOverrides_spec rt.overrides.nodupKeys h
  have hlookup : ∀ bdf text, seeded.map.lookup bdf = some text ↔ ∃ slot, text = slotText slot ∧
      ∃ addr, rt.overrides.lookup bdf = some addr ∧ ReadsAs addr slot := by
    intro bdf text
    rw [hmap]
    constructor
    · rintro (⟨addr, slot, hmem, hreads, rfl⟩ | ⟨-, hnone⟩)
      · exact ⟨slot, rfl, addr, AList.mem_lookup_iff.mpr hmem, hreads⟩
      · simp at hnone
    · rintro ⟨slot, rfl, addr, hmem, hreads⟩
      exact .inl ⟨addr, slot, AList.mem_lookup_iff.mp hmem, hreads, rfl⟩
  refine ⟨hlookup, ?_, ?_⟩
  · refine congrArg List.eraseDups (List.filter_congr fun bdf _ => ?_)
    cases htext : seeded.map.lookup bdf with
    | some text =>
        obtain ⟨slot, -, addr, hmem, -⟩ := (hlookup bdf text).mp htext
        have hin : bdf ∈ rt.overrides := AList.lookup_isSome.mp (by rw [hmem]; rfl)
        simp [hin]
    | none =>
        have hout : bdf ∉ rt.overrides := by
          intro hin
          obtain ⟨addr, hmem⟩ := Option.isSome_iff_exists.mp (AList.lookup_isSome.mpr hin)
          obtain ⟨slot, hreads, -⟩ := (exists_seedOverrides.mp ⟨seeded, h⟩).reads _
            (AList.mem_lookup_iff.mp hmem)
          rw [(hlookup bdf _).mpr ⟨slot, rfl, addr, hmem, hreads⟩] at htext
          cases htext
        simp [hout]
  · refine eq_of_mem_iff (pairwise_freeBetween _ _ _) pairwise_freeSlots fun slot => ?_
    simp only [mem_freeBetween, hused, mem_freeSlots, List.not_mem_nil, or_false]

lemma sortedBdfs_ne_nil (hne : rt.cfg.configured ≠ []) : rt.cfg.devices.sortedBdfs ≠ [] := by
  obtain ⟨dev, hdev⟩ := List.exists_mem_of_ne_nil _ hne
  exact List.ne_nil_of_mem (mem_sortedBdfs.mpr ⟨dev, hdev, rfl⟩)

lemma buildPciRootportMap_eq (hne : rt.cfg.configured ≠ []) :
    buildPciRootportMap rt = (do
      let seeded ← seedOverrides rt.name rt.cfg.devices.sortedBdfs {} rt.overrides.entries
      let assigned ← assignSlots rt.name seeded 0x01 rt.cfg.devices.sortedBdfs
      pure assigned.map) := by
  have hoverrides : (rt.cfg.qemu.pciRootport.map AList.entries).getD [] = rt.overrides.entries := by
    rw [overrides]
    cases rt.cfg.qemu.pciRootport with
    | none => rfl
    | some overrides => rfl
  rw [buildPciRootportMap, if_neg (by simpa using sortedBdfs_ne_nil hne), hoverrides]

/-- **When the map is built**, for a VM with devices. -/
lemma exists_rootportMap (hne : rt.cfg.configured ≠ []) :
    (∃ map, buildPciRootportMap rt = .ok map) ↔ rt.RootportsFit := by
  rw [buildPciRootportMap_eq hne]
  constructor
  · rintro ⟨map, hok⟩
    obtain ⟨seeded, hseeded, hok⟩ := except_bind_eq_ok.mp hok
    obtain ⟨assigned, hassigned, -⟩ := except_bind_eq_ok.mp hok
    obtain ⟨-, hauto, hfree⟩ := seeded_spec hseeded
    have hspec := @assignSlots_spec rt.name seeded 0x01 rt.cfg.devices.sortedBdfs
    rw [hauto, hfree] at hspec
    refine ⟨exists_seedOverrides.mp ⟨seeded, hseeded⟩, ?_⟩
    by_contra hroom
    rw [if_neg hroom] at hspec
    obtain ⟨e, herror⟩ := hspec
    rw [hassigned] at herror
    cases herror
  · rintro ⟨haccepts, hroom⟩
    obtain ⟨seeded, hseeded⟩ := (@exists_seedOverrides rt.name _ {} _).mpr haccepts
    obtain ⟨-, hauto, hfree⟩ := seeded_spec hseeded
    have hspec := @assignSlots_spec rt.name seeded 0x01 rt.cfg.devices.sortedBdfs
    rw [hauto, hfree, if_pos hroom] at hspec
    obtain ⟨assigned, hassigned, -⟩ := hspec
    exact ⟨assigned.map, except_bind_eq_ok.mpr ⟨seeded, hseeded,
      except_bind_eq_ok.mpr ⟨assigned, hassigned, rfl⟩⟩⟩

/-- **What the map holds**, for a VM with devices. -/
lemma lookup_rootportMap (hne : rt.cfg.configured ≠ []) (hok : buildPciRootportMap rt = .ok map) :
    map.lookup bdf = some text ↔ ∃ slot, text = slotText slot ∧
      ((∃ addr, rt.overrides.lookup bdf = some addr ∧ ReadsAs addr slot) ∨
        (bdf, slot) ∈ rt.autoBdfs.zip rt.freeSlots) := by
  have hfits := (exists_rootportMap hne).mp ⟨map, hok⟩
  rw [buildPciRootportMap_eq hne] at hok
  obtain ⟨seeded, hseeded, hok⟩ := except_bind_eq_ok.mp hok
  obtain ⟨assigned, hassigned, hok⟩ := except_bind_eq_ok.mp hok
  obtain rfl := Except.ok.inj hok
  obtain ⟨hlookup, hauto, hfree⟩ := seeded_spec hseeded
  have hspec := @assignSlots_spec rt.name seeded 0x01 rt.cfg.devices.sortedBdfs
  rw [hauto, hfree, if_pos hfits.room] at hspec
  obtain ⟨assigned', hassigned', hmap⟩ := hspec
  obtain rfl := Except.ok.inj (hassigned.symm.trans hassigned')
  rw [hmap, hlookup]
  constructor
  · rintro (⟨slot, rfl, haddr⟩ | ⟨slot, rfl, hmem⟩)
    · exact ⟨slot, rfl, .inl haddr⟩
    · exact ⟨slot, rfl, .inr hmem⟩
  · rintro ⟨slot, rfl, haddr | hmem⟩
    · exact .inl ⟨slot, rfl, haddr⟩
    · exact .inr ⟨slot, rfl, hmem⟩

/-! ## The slots -/

/-- The slot of a device: the one that its override is read as, or the free one at its position. -/
def SlotAt (rt : VmRuntime) (bdf : String) (slot : ℕ) : Prop :=
  (∃ addr, rt.overrides.lookup bdf = some addr ∧ ReadsAs addr slot) ∨
    ∃ i : ℕ, rt.autoBdfs[i]? = some bdf ∧ rt.freeSlots[i]? = some slot

variable {b c : String} {slot' : ℕ}

lemma mem_zip_iff : (bdf, slot) ∈ rt.autoBdfs.zip rt.freeSlots ↔
    ∃ i : ℕ, rt.autoBdfs[i]? = some bdf ∧ rt.freeSlots[i]? = some slot := by
  rw [List.mem_iff_getElem?]
  simp only [List.getElem?_zip_eq_some]

lemma lookup_eq_some_iff (hne : rt.cfg.configured ≠ []) (hok : buildPciRootportMap rt = .ok map) :
    map.lookup bdf = some text ↔ ∃ slot, text = slotText slot ∧ rt.SlotAt bdf slot := by
  simp only [lookup_rootportMap hne hok, mem_zip_iff, SlotAt]

lemma nodup_autoBdfs : rt.autoBdfs.Nodup := nodup_eraseDups _

lemma nodup_freeSlots : rt.freeSlots.Nodup := pairwise_freeSlots.imp Nat.ne_of_lt

/-- A device at a position has no override. -/
lemma not_mem_overrides_of_getElem? {i : ℕ} (h : rt.autoBdfs[i]? = some bdf) :
    rt.cfg.Configures bdf ∧ bdf ∉ rt.overrides :=
  mem_autoBdfs.mp (List.mem_of_getElem? h)

lemma SlotAt.of_override {addr : String} (h : rt.SlotAt bdf slot)
    (hmem : rt.overrides.lookup bdf = some addr) : ReadsAs addr slot := by
  rcases h with ⟨addr', hmem', hreads⟩ | ⟨i, hi, -⟩
  · rw [hmem] at hmem'
    obtain rfl := Option.some.inj hmem'
    exact hreads
  · exact absurd (AList.lookup_isSome.mp (by rw [hmem]; rfl)) (not_mem_overrides_of_getElem? hi).2

lemma SlotAt.of_auto (h : rt.SlotAt bdf slot) (hauto : bdf ∉ rt.overrides) :
    ∃ i : ℕ, rt.autoBdfs[i]? = some bdf ∧ rt.freeSlots[i]? = some slot := by
  rcases h with ⟨addr, hmem, -⟩ | h
  · exact absurd (AList.lookup_isSome.mp (by rw [hmem]; rfl)) hauto
  · exact h

lemma SlotAt.unique (h : rt.SlotAt bdf slot) (h' : rt.SlotAt bdf slot') : slot = slot' := by
  rcases h with ⟨addr, hmem, hreads⟩ | ⟨i, hi, hslot⟩
  · exact hreads.unique (h'.of_override hmem)
  · obtain ⟨j, hj, hslot'⟩ := h'.of_auto (not_mem_overrides_of_getElem? hi).2
    have hlen := (List.getElem?_eq_some_iff.mp hi).1
    obtain rfl := (List.getElem?_inj hlen nodup_autoBdfs).mp (hi.trans hj.symm)
    exact Option.some.inj (hslot.symm.trans hslot')

lemma SlotAt.le (h : rt.SlotAt bdf slot) : slot ≤ 0x1f := by
  rcases h with ⟨addr, -, hreads⟩ | ⟨i, -, hslot⟩
  · exact hreads.1
  · have hlt := (mem_freeSlots.mp (List.mem_of_getElem? hslot)).2.1
    have hcount : slotCount = 0x20 := rfl
    omega

/-- A device that has a slot is configured. -/
lemma SlotAt.configures (hfits : rt.RootportsFit) (h : rt.SlotAt bdf slot) :
    rt.cfg.Configures bdf := by
  rcases h with ⟨addr, hmem, -⟩ | ⟨i, hi, -⟩
  · exact mem_sortedBdfs.mp (hfits.accepts.configured _ (AList.mem_lookup_iff.mp hmem))
  · exact (not_mem_overrides_of_getElem? hi).1

/-- **Every configured device** has a slot. -/
lemma exists_slotAt (hfits : rt.RootportsFit) (h : rt.cfg.Configures bdf) :
    ∃ slot, rt.SlotAt bdf slot := by
  by_cases hin : bdf ∈ rt.overrides
  · obtain ⟨addr, hmem⟩ := Option.isSome_iff_exists.mp (AList.lookup_isSome.mpr hin)
    obtain ⟨slot, hreads, -⟩ := hfits.accepts.reads _ (AList.mem_lookup_iff.mp hmem)
    exact ⟨slot, .inl ⟨addr, hmem, hreads⟩⟩
  · obtain ⟨i, hlt, hi⟩ := List.getElem_of_mem (mem_autoBdfs.mpr ⟨h, hin⟩)
    have hlt' : i < rt.freeSlots.length := hlt.trans_le hfits.room
    exact ⟨_, .inr ⟨i, List.getElem?_eq_some_iff.mpr ⟨hlt, hi⟩, List.getElem?_eq_getElem hlt'⟩⟩

/-- **No two devices** have the same slot. -/
lemma SlotAt.injective (hfits : rt.RootportsFit) (hb : rt.SlotAt b slot) (hc : rt.SlotAt c slot) :
    b = c := by
  have hmixed : ∀ {b c : String} {addr : String} {i : ℕ}, rt.overrides.lookup b = some addr →
      ReadsAs addr slot → rt.freeSlots[i]? = some slot → b = c := by
    intro b c addr i hmem hreads hslot
    exact absurd ⟨_, AList.mem_lookup_iff.mp hmem, hreads⟩
      (mem_freeSlots.mp (List.mem_of_getElem? hslot)).2.2
  rcases hb with ⟨addr, hmem, hreads⟩ | ⟨i, hi, hslot⟩
  · rcases hc with ⟨addr', hmem', hreads'⟩ | ⟨j, -, hslot'⟩
    · by_contra hne
      exact hfits.accepts.reads_distinct (AList.mem_lookup_iff.mp hmem)
        (AList.mem_lookup_iff.mp hmem') (fun heq => hne (congrArg Sigma.fst heq)) hreads hreads'
    · exact hmixed hmem hreads hslot'
  · rcases hc with ⟨addr', hmem', hreads'⟩ | ⟨j, hj, hslot'⟩
    · exact (hmixed hmem' hreads' hslot).symm
    · have hlen := (List.getElem?_eq_some_iff.mp hslot).1
      obtain rfl := (List.getElem?_inj hlen nodup_freeSlots).mp (hslot.trans hslot'.symm)
      exact Option.some.inj (hi.symm.trans hj)

/-- The devices get their slots in the order of the documentation. -/
lemma precedes_of_lt {i j : ℕ} (hb : rt.autoBdfs[i]? = some b) (hc : rt.autoBdfs[j]? = some c)
    (hlt : i < j) : rt.cfg.devices.Precedes b c := by
  obtain ⟨hi, rfl⟩ := List.getElem?_eq_some_iff.mp hb
  obtain ⟨hj, rfl⟩ := List.getElem?_eq_some_iff.mp hc
  have hearlier := List.pairwise_iff_getElem.mp (pairwise_earlier_eraseDups _) i j hi hj hlt
  have hmem := mem_autoBdfs.mp (List.getElem_mem hj)
  exact DevicesConfig.precedes_of_earlier (hearlier.of_filter (decide_eq_true hmem.2))
    (mem_sortedBdfs.mpr hmem.1)

/-- **A device without an override** has the smallest slot that the overrides and the devices before
it have left. -/
lemma SlotAt.isLeast (hfits : rt.RootportsFit) (h : rt.SlotAt b slot) (hauto : b ∉ rt.overrides) :
    IsLeast {s | 0x01 ≤ s ∧ (∀ c ∈ rt.overrides, ¬ rt.SlotAt c s) ∧
      ∀ c, rt.cfg.Configures c → c ∉ rt.overrides → rt.cfg.devices.Precedes c b →
        ¬ rt.SlotAt c s} slot := by
  obtain ⟨i, hi, hslot⟩ := h.of_auto hauto
  obtain ⟨hlen, hfree⟩ := List.getElem?_eq_some_iff.mp hslot
  constructor
  · refine ⟨(mem_freeSlots.mp (List.mem_of_getElem? hslot)).1, fun c hc hslotc => ?_,
      fun c _ _ hprec hslotc => ?_⟩
    · exact hauto (h.injective hfits hslotc ▸ hc)
    · obtain rfl := h.injective hfits hslotc
      exact hprec.asymm hprec
  · rintro s ⟨hpos, hoverride, hearlier⟩
    by_contra hlt
    have hle := h.le
    have hcount : slotCount = 0x20 := rfl
    have hmem : s ∈ rt.freeSlots := by
      refine mem_freeSlots.mpr ⟨hpos, by omega, ?_⟩
      rintro ⟨o, ho, hreads⟩
      have hlookup : rt.overrides.lookup o.1 = some o.2 := AList.mem_lookup_iff.mpr ho
      exact hoverride o.1 (AList.lookup_isSome.mp (by rw [hlookup]; rfl))
        (.inl ⟨o.2, hlookup, hreads⟩)
    have hge : rt.freeSlots[i] ≤ s := by
      refine (isLeast_getElem pairwise_freeSlots hlen).2 ⟨hmem, fun j hj heq => ?_⟩
      -- the slot at an earlier position belongs to an earlier device
      have hlenj : j < rt.autoBdfs.length := hj.trans (List.getElem?_eq_some_iff.mp hi).1
      have hj' := List.getElem?_eq_getElem hlenj
      obtain ⟨hconf, hnone⟩ := not_mem_overrides_of_getElem? hj'
      refine hearlier _ hconf hnone (precedes_of_lt hj' hi hj) (.inr ⟨j, hj', ?_⟩)
      exact List.getElem?_eq_some_iff.mpr ⟨hj.trans hlen, heq⟩
    omega

end VmRuntime

/-! ## What the map is -/

/-- The map gives these slots: each configured device has an entry, the canonical text of its own
slot; an override keeps the slot that it is read as; and any other device has the smallest slot from
`0x01` on that is left by the overrides and by the devices before it, by kind and address. -/
structure RootportsAssigned (rt : VmRuntime) (map : AList fun _ : String => String)
    (slotOf : String → ℕ) : Prop where
  keys : ∀ bdf, bdf ∈ map ↔ rt.cfg.Configures bdf
  text : ∀ bdf, rt.cfg.Configures bdf →
    slotOf bdf ≤ 0x1f ∧ map.lookup bdf = some (slotText (slotOf bdf))
  canonical : ∀ bdf addr, map.lookup bdf = some addr → CanonicalSlot addr (slotOf bdf)
  distinct : ∀ b c, rt.cfg.Configures b → rt.cfg.Configures c → slotOf b = slotOf c → b = c
  override : ∀ bdf addr, rt.overrides.lookup bdf = some addr → ReadsAs addr (slotOf bdf)
  auto : ∀ bdf, rt.cfg.Configures bdf → bdf ∉ rt.overrides →
    IsLeast {slot | 0x01 ≤ slot ∧ (∀ c ∈ rt.overrides, slotOf c ≠ slot) ∧
      ∀ c, rt.cfg.Configures c → c ∉ rt.overrides → rt.cfg.devices.Precedes c bdf →
        slotOf c ≠ slot} (slotOf bdf)

/-- The same devices and overrides, the devices in any order within a list and the overrides in any
order. -/
structure VmRuntime.Reorders (rt rt' : VmRuntime) : Prop where
  gpu : (deviceList rt.cfg.devices.gpu).Perm (deviceList rt'.cfg.devices.gpu)
  nvme : (deviceList rt.cfg.devices.nvme).Perm (deviceList rt'.cfg.devices.nvme)
  nic : (deviceList rt.cfg.devices.nic).Perm (deviceList rt'.cfg.devices.nic)
  usb : (deviceList rt.cfg.devices.usb).Perm (deviceList rt'.cfg.devices.usb)
  overrides : rt.overrides.entries.Perm rt'.overrides.entries

section

variable {rt rt' : VmRuntime} {map : AList fun _ : String => String}

lemma exists_rootportsAssigned (hne : rt.cfg.configured ≠ [])
    (hok : buildPciRootportMap rt = .ok map) : ∃ slotOf, RootportsAssigned rt map slotOf := by
  have hfits := (VmRuntime.exists_rootportMap hne).mp ⟨map, hok⟩
  have hslot : ∀ bdf, ∃ slot, rt.cfg.Configures bdf → rt.SlotAt bdf slot := by
    intro bdf
    by_cases hconf : rt.cfg.Configures bdf
    · obtain ⟨slot, h⟩ := VmRuntime.exists_slotAt hfits hconf
      exact ⟨slot, fun _ => h⟩
    · exact ⟨0, fun h => absurd h hconf⟩
  choose slotOf hslotOf using hslot
  have hoverride : ∀ c ∈ rt.overrides, rt.cfg.Configures c := by
    intro c hc
    obtain ⟨addr, hmem⟩ := Option.isSome_iff_exists.mp (AList.lookup_isSome.mpr hc)
    exact VmRuntime.mem_sortedBdfs.mp
      (hfits.accepts.configured _ (AList.mem_lookup_iff.mp hmem))
  have htext : ∀ bdf, rt.cfg.Configures bdf → map.lookup bdf = some (slotText (slotOf bdf)) :=
    fun bdf hconf =>
      (VmRuntime.lookup_eq_some_iff hne hok).mpr ⟨slotOf bdf, rfl, hslotOf bdf hconf⟩
  have hconfigures : ∀ bdf addr, map.lookup bdf = some addr → rt.cfg.Configures bdf := by
    intro bdf addr hmem
    obtain ⟨slot, -, h⟩ := (VmRuntime.lookup_eq_some_iff hne hok).mp hmem
    exact h.configures hfits
  refine ⟨slotOf, ?_, fun bdf hconf => ⟨(hslotOf bdf hconf).le, htext bdf hconf⟩, ?_, ?_, ?_, ?_⟩
  · intro bdf
    constructor
    · intro hin
      obtain ⟨addr, hmem⟩ := Option.isSome_iff_exists.mp (AList.lookup_isSome.mpr hin)
      exact hconfigures bdf addr hmem
    · intro hconf
      exact AList.lookup_isSome.mp (by rw [htext bdf hconf]; rfl)
  · intro bdf addr hmem
    have hconf := hconfigures bdf addr hmem
    have hcount : slotCount = 0x20 := rfl
    have hle := (hslotOf bdf hconf).le
    obtain rfl := Option.some.inj (hmem.symm.trans (htext bdf hconf))
    exact canonical_slotText (by omega)
  · intro b c hb hc heq
    exact (hslotOf b hb).injective hfits (heq ▸ hslotOf c hc)
  · intro bdf addr hmem
    have hin : bdf ∈ rt.overrides := AList.lookup_isSome.mp (by rw [hmem]; rfl)
    exact (hslotOf bdf (hoverride bdf hin)).of_override hmem
  · intro bdf hconf hauto
    have hiff : ∀ {c s}, rt.cfg.Configures c → (rt.SlotAt c s ↔ slotOf c = s) := by
      intro c s hc
      constructor
      · exact fun h => (hslotOf c hc).unique h
      · rintro rfl
        exact hslotOf c hc
    have hset : {slot | 0x01 ≤ slot ∧ (∀ c ∈ rt.overrides, slotOf c ≠ slot) ∧
        ∀ c, rt.cfg.Configures c → c ∉ rt.overrides → rt.cfg.devices.Precedes c bdf →
          slotOf c ≠ slot} =
        {slot | 0x01 ≤ slot ∧ (∀ c ∈ rt.overrides, ¬ rt.SlotAt c slot) ∧
        ∀ c, rt.cfg.Configures c → c ∉ rt.overrides → rt.cfg.devices.Precedes c bdf →
          ¬ rt.SlotAt c slot} := by
      ext slot
      refine and_congr_right fun _ => and_congr ?_ ?_
      · exact forall₂_congr fun c hc => not_congr (hiff (hoverride c hc)).symm
      · exact forall₂_congr fun c hc => by rw [hiff hc]
    rw [hset]
    exact (hslotOf bdf hconf).isLeast hfits hauto

/-! ## The order of the configuration -/

lemma VmRuntime.Reorders.sortedBdfs_eq (h : rt.Reorders rt') :
    rt'.cfg.devices.sortedBdfs = rt.cfg.devices.sortedBdfs := by
  have hsort : ∀ {devs devs' : List PciDeviceConfig}, devs.Perm devs' →
      (devs'.map PciDeviceConfig.pciAddress).insertionSort (fun a b => a ≤ b) =
        (devs.map PciDeviceConfig.pciAddress).insertionSort fun a b => a ≤ b := by
    intro devs devs' hperm
    have hperm' := (hperm.map PciDeviceConfig.pciAddress).symm
    refine List.Perm.eq_of_pairwise' (List.pairwise_insertionSort _ _)
      (List.pairwise_insertionSort _ _) ?_
    exact (List.perm_insertionSort _ _).trans (hperm'.trans (List.perm_insertionSort _ _).symm)
  simp only [DevicesConfig.sortedBdfs, DevicesConfig.lists, List.flatMap_cons, List.flatMap_nil,
    hsort h.gpu, hsort h.nvme, hsort h.nic, hsort h.usb]

lemma VmRuntime.Reorders.configures_iff (h : rt.Reorders rt') {bdf : String} :
    rt'.cfg.Configures bdf ↔ rt.cfg.Configures bdf := by
  rw [← VmRuntime.mem_sortedBdfs, ← VmRuntime.mem_sortedBdfs, h.sortedBdfs_eq]

lemma VmRuntime.Reorders.freeSlots_eq (h : rt.Reorders rt') : rt'.freeSlots = rt.freeSlots := by
  refine eq_of_mem_iff VmRuntime.pairwise_freeSlots VmRuntime.pairwise_freeSlots fun slot => ?_
  simp only [VmRuntime.mem_freeSlots, h.overrides.mem_iff]

lemma VmRuntime.Reorders.autoBdfs_eq (h : rt.Reorders rt') : rt'.autoBdfs = rt.autoBdfs := by
  have hmem : ∀ bdf, bdf ∈ rt'.overrides ↔ bdf ∈ rt.overrides := fun bdf => by
    rw [← AList.lookup_isSome, ← AList.lookup_isSome, AList.perm_lookup h.overrides]
  simp only [VmRuntime.autoBdfs, h.sortedBdfs_eq, hmem]

/-- **The order of the configuration** does not matter: neither whether the map is built, nor what
it holds. -/
lemma VmRuntime.Reorders.rootportMap (h : rt.Reorders rt') (hne : rt.cfg.configured ≠ [])
    (hok : buildPciRootportMap rt = .ok map) :
    ∃ map', buildPciRootportMap rt' = .ok map' ∧ ∀ bdf, map'.lookup bdf = map.lookup bdf := by
  have hne' : rt'.cfg.configured ≠ [] := by
    obtain ⟨dev, hdev⟩ := List.exists_mem_of_ne_nil _ hne
    obtain ⟨dev', hdev', -⟩ := h.configures_iff.mpr ⟨dev, hdev, rfl⟩
    exact List.ne_nil_of_mem hdev'
  obtain ⟨haccepts, hroom⟩ := (VmRuntime.exists_rootportMap hne).mp ⟨map, hok⟩
  have hfits' : rt'.RootportsFit := by
    refine ⟨?_, by rwa [h.autoBdfs_eq, h.freeSlots_eq]⟩
    rw [h.sortedBdfs_eq]
    refine ⟨fun o ho => haccepts.configured o (h.overrides.mem_iff.mpr ho),
      fun o ho => haccepts.reads o (h.overrides.mem_iff.mpr ho), ?_⟩
    exact (h.overrides.pairwise_iff fun hoo slot hreads hreads' =>
      hoo slot hreads' hreads).mp haccepts.distinct
  obtain ⟨map', hok'⟩ := (VmRuntime.exists_rootportMap hne').mpr hfits'
  refine ⟨map', hok', fun bdf => Option.ext fun text => ?_⟩
  rw [VmRuntime.lookup_eq_some_iff hne' hok', VmRuntime.lookup_eq_some_iff hne hok]
  simp only [VmRuntime.SlotAt, h.autoBdfs_eq, h.freeSlots_eq, AList.perm_lookup h.overrides]

end

/-- **What the map of root ports is**, for a VM with devices, and that no order matters: with the
devices of each list and the overrides in any other order, a map is built with the same entries. -/
theorem rootports_assigned {rt : VmRuntime} {map : AList fun _ : String => String}
    (hne : rt.cfg.configured ≠ []) (hok : buildPciRootportMap rt = .ok map) :
    (∃ slotOf, RootportsAssigned rt map slotOf) ∧ ∀ rt' : VmRuntime, rt.Reorders rt' →
      ∃ map', buildPciRootportMap rt' = .ok map' ∧ ∀ bdf, map'.lookup bdf = map.lookup bdf :=
  ⟨exists_rootportsAssigned hne hok, fun _ h => h.rootportMap hne hok⟩

/-- A VM with the devices and one override. -/
def withOverride (devices : DevicesConfig) (bdf addr : String) : VmRuntime :=
  let rt := runtimeWith devices
  { rt with cfg := { rt.cfg with qemu := { rt.cfg.qemu with
      pciRootport := some (AList.singleton bdf addr) } } }

/-- Two controllers and a card that asks for the slot of the first of them. -/
def overriddenNic : VmRuntime :=
  withOverride
    { nvme := some [{ pciAddress := "0000:02:00.0" }, { pciAddress := "0000:01:00.0" }]
      nic := some [{ pciAddress := "0000:05:00.0" }] } "0000:05:00.0" "0X01"

def overriddenNicMap : AList fun _ : String => String :=
  ((AList.singleton "0000:05:00.0" "0x01" : AList fun _ : String => String).insert
    "0000:01:00.0" "0x02").insert "0000:02:00.0" "0x03"

theorem rootports_assigned_overriddenNic :
    (∃ slotOf, RootportsAssigned overriddenNic overriddenNicMap slotOf) ∧
      ∀ rt' : VmRuntime, overriddenNic.Reorders rt' → ∃ map', buildPciRootportMap rt' = .ok map' ∧
        ∀ bdf, map'.lookup bdf = overriddenNicMap.lookup bdf :=
  rootports_assigned (by decide) rfl

/-! ## Which overrides are accepted -/

/-- The slot that the documentation lets an override denote. -/
def StrictlyReadsAs (addr : String) (slot : ℕ) : Prop := slot ≤ 0x1f ∧ DenotesSlot addr slot

/-- What is asked of the overrides and of the number of the devices, if an override is read as a
slot in this way. -/
structure RootportsAcceptable (Reads : String → ℕ → Prop) (rt : VmRuntime) : Prop where
  configured : ∀ o ∈ rt.overrides.entries, rt.cfg.Configures o.1
  reads : ∀ o ∈ rt.overrides.entries, ∃ slot, Reads o.2 slot
  distinct : ∀ o ∈ rt.overrides.entries, ∀ o' ∈ rt.overrides.entries, ∀ slot,
    Reads o.2 slot → Reads o'.2 slot → o = o'
  room : {bdf | rt.cfg.Configures bdf ∧ bdf ∉ rt.overrides}.ncard ≤
    {slot | 0x01 ≤ slot ∧ slot ≤ 0x1f ∧ ∀ o ∈ rt.overrides.entries, ¬ Reads o.2 slot}.ncard

section

variable {rt : VmRuntime} {addr : String} {slot : ℕ}

lemma ncard_setOf_mem {α : Type} [DecidableEq α] {xs : List α} (h : xs.Nodup) :
    {x | x ∈ xs}.ncard = xs.length := by
  rw [← List.toFinset_card_of_nodup h, ← Set.ncard_coe_finset]
  exact congrArg Set.ncard (Set.ext fun x => by simp)

lemma ncard_auto :
    {bdf | rt.cfg.Configures bdf ∧ bdf ∉ rt.overrides}.ncard = rt.autoBdfs.length := by
  rw [← ncard_setOf_mem VmRuntime.nodup_autoBdfs]
  exact congrArg Set.ncard (Set.ext fun bdf => VmRuntime.mem_autoBdfs.symm)

lemma ncard_unclaimed (lo hi : ℕ) :
    {slot | lo ≤ slot ∧ slot < hi ∧ ∀ o ∈ rt.overrides.entries, ¬ ReadsAs o.2 slot}.ncard =
      (freeBetween rt.claimedSlots lo hi).length := by
  have hnodup : (freeBetween rt.claimedSlots lo hi).Nodup :=
    (pairwise_freeBetween _ _ _).imp Nat.ne_of_lt
  rw [← ncard_setOf_mem hnodup]
  refine congrArg Set.ncard (Set.ext fun slot => ?_)
  simp only [Set.mem_ofPred_eq, mem_freeBetween, VmRuntime.mem_claimedSlots, not_exists, not_and]

/-- The condition that was found for the code, in terms of how it reads the overrides. -/
lemma rootportsFit_iff : rt.RootportsFit ↔ RootportsAcceptable ReadsAs rt := by
  have hauto := @ncard_auto rt
  have hfree : {slot | 0x01 ≤ slot ∧ slot ≤ 0x1f ∧
      ∀ o ∈ rt.overrides.entries, ¬ ReadsAs o.2 slot}.ncard = rt.freeSlots.length := by
    rw [VmRuntime.freeSlots, ← ncard_unclaimed]
    have hcount : slotCount = 0x20 := rfl
    simp only [hcount, Nat.lt_succ_iff]
  constructor
  · rintro ⟨haccepts, hroom⟩
    refine ⟨fun o ho => VmRuntime.mem_sortedBdfs.mp (haccepts.configured o ho), fun o ho => ?_, ?_,
      by rwa [hauto, hfree]⟩
    · obtain ⟨slot, hreads, -⟩ := haccepts.reads o ho
      exact ⟨slot, hreads⟩
    · intro o ho o' ho' slot hreads hreads'
      by_contra hne
      exact haccepts.reads_distinct ho ho' hne hreads hreads'
  · rintro ⟨hconf, hreads, hdistinct, hroom⟩
    rw [hauto, hfree] at hroom
    refine ⟨⟨fun o ho => VmRuntime.mem_sortedBdfs.mpr (hconf o ho), fun o ho => ?_, ?_⟩, hroom⟩
    · obtain ⟨slot, hslot⟩ := hreads o ho
      exact ⟨slot, hslot, List.not_mem_nil⟩
    · refine rt.overrides.nodupKeys.pairwise_ne.imp_of_mem fun ho ho' hne slot h h' => ?_
      exact hne (congrArg Sigma.fst (hdistinct _ ho _ ho' slot h h'))

/-- A text does not have both forms. -/
lemma DenotesSlot.not_signed {slot' : ℕ} (h : DenotesSlot addr slot) : ¬ SignedSlot addr slot' := by
  obtain ⟨x, hi, lo, d, e, hcs, -, hd, -⟩ := h
  rintro ⟨x', lo', hcs', -⟩
  rw [hcs] at hcs'
  simp only [List.cons.injEq, true_and, and_true] at hcs'
  obtain ⟨-, rfl, -⟩ := hcs'
  have hplus : toDigit 16 '+' = none := by decide
  rw [hplus] at hd
  cases hd

lemma strictlyReadsAs_iff (h : ∀ slot, ¬ SignedSlot addr slot) :
    StrictlyReadsAs addr slot ↔ ReadsAs addr slot :=
  and_congr_right fun _ => ⟨.inl, fun hreads => hreads.resolve_right (h slot)⟩

/-- Where no override has a sign, both ways of reading them accept the same. -/
lemma acceptable_congr (h : ∀ o ∈ rt.overrides.entries, ∀ slot, ¬ SignedSlot o.2 slot) :
    RootportsAcceptable StrictlyReadsAs rt ↔ RootportsAcceptable ReadsAs rt := by
  have hiff : ∀ o ∈ rt.overrides.entries, ∀ slot, StrictlyReadsAs o.2 slot ↔ ReadsAs o.2 slot :=
    fun o ho slot => strictlyReadsAs_iff (h o ho)
  have hfree : {slot | 0x01 ≤ slot ∧ slot ≤ 0x1f ∧
      ∀ o ∈ rt.overrides.entries, ¬ StrictlyReadsAs o.2 slot} =
      {slot | 0x01 ≤ slot ∧ slot ≤ 0x1f ∧ ∀ o ∈ rt.overrides.entries, ¬ ReadsAs o.2 slot} := by
    ext slot
    refine and_congr_right fun _ => and_congr_right fun _ => ?_
    exact forall₂_congr fun o ho => not_congr (hiff o ho slot)
  constructor
  · rintro ⟨hconf, hreads, hdistinct, hroom⟩
    refine ⟨hconf, fun o ho => ?_, fun o ho o' ho' slot hslot hslot' => ?_, hfree ▸ hroom⟩
    · obtain ⟨slot, hslot⟩ := hreads o ho
      exact ⟨slot, (hiff o ho slot).mp hslot⟩
    · exact hdistinct o ho o' ho' slot ((hiff o ho slot).mpr hslot) ((hiff o' ho' slot).mpr hslot')
  · rintro ⟨hconf, hreads, hdistinct, hroom⟩
    refine ⟨hconf, fun o ho => ?_, fun o ho o' ho' slot hslot hslot' => ?_, hfree ▸ hroom⟩
    · obtain ⟨slot, hslot⟩ := hreads o ho
      exact ⟨slot, (hiff o ho slot).mpr hslot⟩
    · exact hdistinct o ho o' ho' slot ((hiff o ho slot).mp hslot) ((hiff o' ho' slot).mp hslot')

lemma RootportsAcceptable.not_signed (h : RootportsAcceptable StrictlyReadsAs rt) :
    ∀ o ∈ rt.overrides.entries, ∀ slot, ¬ SignedSlot o.2 slot := by
  intro o ho slot
  obtain ⟨slot', -, hdenotes⟩ := h.reads o ho
  exact hdenotes.not_signed

/-- A VM without devices is acceptable if it has no overrides. -/
lemma acceptable_of_no_devices (hnone : rt.cfg.configured = []) :
    RootportsAcceptable StrictlyReadsAs rt ↔ rt.overrides.entries = [] := by
  have hconf : ∀ bdf, ¬ rt.cfg.Configures bdf := by
    rintro bdf ⟨dev, hdev, -⟩
    rw [hnone] at hdev
    exact absurd hdev List.not_mem_nil
  constructor
  · intro h
    exact List.eq_nil_iff_forall_not_mem.mpr fun o ho => hconf o.1 (h.configured o ho)
  · intro hempty
    refine ⟨by simp [hempty], by simp [hempty], by simp [hempty], ?_⟩
    simp [hconf]

end

/-- **Which configurations of root ports are accepted.**  The map is built exactly for the
configurations that the documentation accepts, if a VM without devices has no overrides, and if no
override of a VM with devices is written with a plus sign where everything else would be
accepted. -/
theorem rootports_accepted_iff (rt : VmRuntime) :
    ((∃ map, buildPciRootportMap rt = .ok map) ↔ RootportsAcceptable StrictlyReadsAs rt) ↔
      (rt.cfg.configured = [] → rt.overrides.entries = []) ∧
        (rt.cfg.configured ≠ [] → RootportsAcceptable ReadsAs rt →
          ∀ o ∈ rt.overrides.entries, ∀ slot, ¬ SignedSlot o.2 slot) := by
  by_cases hnone : rt.cfg.configured = []
  · have hbuilt : ∃ map, buildPciRootportMap rt = .ok map := by
      refine ⟨∅, ?_⟩
      have hentries : rt.cfg.devices.sortedBdfs = [] := by
        refine List.eq_nil_iff_forall_not_mem.mpr fun bdf hbdf => ?_
        obtain ⟨dev, hdev, -⟩ := VmRuntime.mem_sortedBdfs.mp hbdf
        rw [hnone] at hdev
        exact absurd hdev List.not_mem_nil
      rw [buildPciRootportMap, if_pos (by rw [hentries]; rfl)]
    rw [acceptable_of_no_devices hnone]
    simp [hnone, hbuilt]
  · rw [VmRuntime.exists_rootportMap hnone, rootportsFit_iff]
    constructor
    · intro hiff
      exact ⟨fun h => absurd h hnone, fun _ haccepted => (hiff.mp haccepted).not_signed⟩
    · rintro ⟨-, hsigned⟩
      constructor
      · intro haccepted
        exact (acceptable_congr (hsigned hnone haccepted)).mpr haccepted
      · intro haccepted
        exact (acceptable_congr haccepted.not_signed).mp haccepted

/-- A slot with a sign is accepted, and so is an override of a VM without devices. -/
theorem undocumented_overrides :
    buildPciRootportMap (withOverride { nic := some [{ pciAddress := "0000:05:00.0" }] }
        "0000:05:00.0" "0x+5") = .ok (AList.singleton "0000:05:00.0" "0x05") ∧
      ¬ RootportsAcceptable StrictlyReadsAs (withOverride
        { nic := some [{ pciAddress := "0000:05:00.0" }] } "0000:05:00.0" "0x+5") ∧
      buildPciRootportMap (withOverride {} "0000:05:00.0" "slot 5") = .ok ∅ ∧
      ¬ RootportsAcceptable StrictlyReadsAs (withOverride {} "0000:05:00.0" "slot 5") := by
  refine ⟨rfl, fun h => ?_, rfl, fun h => ?_⟩
  · have hsigned : SignedSlot "0x+5" 5 := ⟨'x', '5', by decide, .inl rfl, by decide⟩
    exact h.not_signed ⟨_, "0x+5"⟩ List.mem_cons_self 5 hsigned
  · obtain ⟨dev, hdev, -⟩ := h.configured ⟨_, "slot 5"⟩ List.mem_cons_self
    exact absurd hdev List.not_mem_nil

end Chalybs
