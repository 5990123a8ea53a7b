import Chalybs.Core.Text
import Mathlib.Data.Nat.Digits.Lemmas

/-!
# Numbers in any radix

What `from_str_radix` and `parse` read, and what a padded hexadecimal number is read as.

* `Numeral` — a text of digits and the number that it denotes.
* `fromStrRadix_iff` — which texts are accepted: a plus sign may precede the digits.
* `numeral_ten_iff`, `parseU32_eq_ok` — the same for decimal numbers.
* `Hex` — hexadecimal digits of a given number; `hexPadded_iff` says that numbers are written so.
-/

namespace Chalybs

/-- The text consists of digits of the radix, at least one, which denote the number. -/
def Numeral (radix : ℕ) (cs : List Char) (n : ℕ) : Prop :=
  cs ≠ [] ∧ ∃ ds, List.Forall₂ (fun c d => toDigit radix c = some d) cs ds ∧
    Nat.ofDigits radix ds.reverse = n

variable {radix bound n : ℕ} {cs : List Char}

/-! ## Digits -/

lemma toDigit_lt {d : ℕ} {c : Char} (h : toDigit radix c = some d) : d < radix := by
  obtain ⟨n, -, hn⟩ := Option.bind_eq_some_iff.mp h
  split_ifs at hn with hlt
  rwa [← Option.some.inj hn]

/-- A digit takes one byte. -/
lemma utf8Size_of_toDigit {d : ℕ} {c : Char} (h : toDigit radix c = some d) :
    c.utf8Size = 1 := by
  have hrange : c.toNat ≤ 127 := by
    rw [toDigit] at h
    split_ifs at h with hnum hlower hupper
    · exact (show c.toNat ≤ '9'.toNat from hnum.2).trans (by decide)
    · exact (show c.toNat ≤ 'z'.toNat from hlower.2).trans (by decide)
    · exact (show c.toNat ≤ 'Z'.toNat from hupper.2).trans (by decide)
    · cases h
  exact Char.utf8Size_eq_one_iff.mpr (UInt32.le_iff_toNat_le.mpr hrange)

/-- Numbers of digits count the bytes of the text. -/
lemma byteLen_of_digits {ds : List ℕ}
    (h : List.Forall₂ (fun c d => toDigit radix c = some d) cs ds) : byteLen cs = cs.length := by
  induction h with
  | nil => rfl
  | cons hdigit _ ih =>
      rw [byteLen, List.map_cons, List.sum_cons, utf8Size_of_toDigit hdigit, List.length_cons,
        Nat.add_comm]
      exact congrArg (· + 1) ih

lemma lt_of_mem_digits {ds : List ℕ}
    (h : List.Forall₂ (fun c d => toDigit radix c = some d) cs ds) : ∀ d ∈ ds, d < radix := by
  induction h with
  | nil => exact List.forall_mem_nil _
  | cons hdigit _ ih => exact List.forall_mem_cons.mpr ⟨toDigit_lt hdigit, ih⟩

lemma ofDigits_cons_reverse (d : ℕ) (ds : List ℕ) :
    Nat.ofDigits radix (d :: ds).reverse =
      Nat.ofDigits radix ds.reverse + radix ^ ds.length * d := by
  rw [List.reverse_cons, Nat.ofDigits_append, List.length_reverse, Nat.ofDigits_singleton]

/-- The loop of the parser reads the digits, as long as the number stays below the bound. -/
lemma parseDigits_iff {acc : ℕ} (hradix : 0 < radix) (hacc : acc < bound) :
    parseDigits radix bound acc cs = .ok n ↔
      ∃ ds, List.Forall₂ (fun c d => toDigit radix c = some d) cs ds ∧
        acc * radix ^ ds.length + Nat.ofDigits radix ds.reverse = n ∧ n < bound := by
  induction cs generalizing acc with
  | nil =>
      rw [parseDigits, Except.ok.injEq]
      constructor
      · rintro rfl
        exact ⟨[], .nil, by simp, hacc⟩
      · rintro ⟨ds, hds, hn, -⟩
        obtain rfl := List.forall₂_nil_left_iff.mp hds
        simpa using hn
  | cons c cs ih =>
      rw [parseDigits]
      cases hdigit : toDigit radix c with
      | none =>
          refine iff_of_false (fun h => by cases h) ?_
          rintro ⟨_, hds, -⟩
          obtain ⟨d, _, hd, -, -⟩ := List.forall₂_cons_left_iff.mp hds
          rw [hdigit] at hd
          cases hd
      | some d =>
          have hvalue : ∀ ds : List ℕ,
              acc * radix ^ (d :: ds).length + Nat.ofDigits radix (d :: ds).reverse =
                (acc * radix + d) * radix ^ ds.length + Nat.ofDigits radix ds.reverse := by
            intro ds
            rw [ofDigits_cons_reverse, List.length_cons, pow_succ]
            ring
          have hcons : (∃ ds, List.Forall₂ (fun c d => toDigit radix c = some d) (c :: cs) ds ∧
                acc * radix ^ ds.length + Nat.ofDigits radix ds.reverse = n ∧ n < bound) ↔
              ∃ ds, List.Forall₂ (fun c d => toDigit radix c = some d) cs ds ∧
                (acc * radix + d) * radix ^ ds.length + Nat.ofDigits radix ds.reverse = n ∧
                  n < bound := by
            constructor
            · rintro ⟨_, hds, hn⟩
              obtain ⟨d', ds, hd', htail, rfl⟩ := List.forall₂_cons_left_iff.mp hds
              obtain rfl := Option.some.inj (hdigit.symm.trans hd')
              exact ⟨ds, htail, by rwa [hvalue] at hn⟩
            · rintro ⟨ds, hds, hn⟩
              exact ⟨d :: ds, .cons hdigit hds, by rwa [hvalue]⟩
          rw [hcons]
          simp only
          split_ifs with hlt
          · exact ih hlt
          · refine iff_of_false (fun h => by cases h) ?_
            rintro ⟨ds, -, rfl, hbound⟩
            -- the digits that follow do not make the number smaller
            have hle := Nat.le_mul_of_pos_right (acc * radix + d)
              (Nat.pow_pos hradix : 0 < radix ^ ds.length)
            omega

/-- **What `from_str_radix` reads**: digits, which a plus sign may precede, that denote a number
below the bound. -/
theorem fromStrRadix_iff (hradix : 0 < radix) (hbound : 0 < bound) :
    fromStrRadix radix bound cs = .ok n ↔
      (Numeral radix cs n ∨ ∃ ds, cs = '+' :: ds ∧ Numeral radix ds n) ∧ n < bound := by
  have hdigits : ∀ cs, cs ≠ [] →
      (parseDigits radix bound 0 cs = .ok n ↔ Numeral radix cs n ∧ n < bound) := by
    intro cs hcs
    rw [parseDigits_iff hradix hbound, Numeral]
    constructor
    · rintro ⟨ds, hds, hn, hlt⟩
      exact ⟨⟨hcs, ds, hds, by simpa using hn⟩, hlt⟩
    · rintro ⟨⟨-, ds, hds, hn⟩, hlt⟩
      exact ⟨ds, hds, by simpa using hn, hlt⟩
  have hplus : ∀ ds, ¬ Numeral radix ('+' :: ds) n := by
    rintro ds ⟨-, _, hds, -⟩
    obtain ⟨d, _, hd, -, -⟩ := List.forall₂_cons_left_iff.mp hds
    have hnone : toDigit radix '+' = none := by simp [toDigit]
    rw [hnone] at hd
    cases hd
  unfold fromStrRadix
  split
  · refine iff_of_false (fun h => by cases h) ?_
    rintro ⟨h | ⟨ds, hds, -⟩, -⟩
    · exact h.1 rfl
    · cases hds
  · refine iff_of_false (fun h => by cases h) ?_
    rintro ⟨h | ⟨ds, hds, h⟩, -⟩
    · exact hplus [] h
    · exact h.1 (List.cons.inj hds).2.symm
  · next ds hne =>
      rw [hdigits ds fun hnil => hne (by rw [hnil])]
      refine and_congr_left fun _ => ?_
      constructor
      · exact fun h => .inr ⟨ds, rfl, h⟩
      · rintro (h | ⟨ds', heq, h⟩)
        · exact absurd h (hplus ds)
        · rwa [(List.cons.inj heq).2]
  · next hnil _ hsign =>
      rw [hdigits cs hnil]
      refine and_congr_left fun _ => ?_
      constructor
      · exact .inl
      · rintro (h | ⟨ds, heq, -⟩)
        · exact h
        · exact absurd heq (hsign ds)

/-! ## Decimal digits -/

lemma decimalDigits_iff {ds : List ℕ} :
    List.Forall₂ (fun c d => toDigit 10 c = some d) cs ds ↔
      (∀ c ∈ cs, c.isDigit) ∧ ds = cs.map fun c => c.toNat - '0'.toNat := by
  have hdigit : ∀ c d, toDigit 10 c = some d ↔ c.isDigit ∧ c.toNat - '0'.toNat = d := by
    intro c d
    rw [toDigit_ten]
    split_ifs with hc <;> simp [hc]
  induction cs generalizing ds with
  | nil => simp
  | cons c cs ih =>
      rw [List.forall₂_cons_left_iff, List.forall_mem_cons, List.map_cons]
      constructor
      · rintro ⟨d, ds, hd, hds, rfl⟩
        obtain ⟨hc, rfl⟩ := (hdigit c d).mp hd
        obtain ⟨hcs, rfl⟩ := ih.mp hds
        exact ⟨⟨hc, hcs⟩, rfl⟩
      · rintro ⟨⟨hc, hcs⟩, rfl⟩
        exact ⟨_, _, (hdigit c _).mpr ⟨hc, rfl⟩, ih.mpr ⟨hcs, rfl⟩, rfl⟩

lemma ofDigits_decimalDigits (cs : List Char) :
    Nat.ofDigits 10 (cs.map fun c => c.toNat - '0'.toNat).reverse = Nat.ofDigitChars 10 cs 0 := by
  induction cs with
  | nil => rfl
  | cons c cs ih =>
      rw [List.map_cons, ofDigits_cons_reverse, ih, List.length_map, Nat.ofDigitChars_cons,
        Nat.mul_zero, Nat.zero_add, Nat.add_comm]
      exact Nat.ofDigitChars_eq_ofDigitChars_zero.symm

lemma numeral_ten_iff : Numeral 10 cs n ↔ Decimal cs n := by
  refine and_congr_right fun _ => ?_
  simp only [decimalDigits_iff]
  constructor
  · rintro ⟨_, ⟨hdigits, rfl⟩, hn⟩
    exact ⟨hdigits, by rwa [← ofDigits_decimalDigits]⟩
  · rintro ⟨hdigits, hn⟩
    exact ⟨_, ⟨hdigits, rfl⟩, by rwa [ofDigits_decimalDigits]⟩

/-- **What `str::parse` reads** for numbers: decimal digits, which a plus sign may precede. -/
lemma fromStrRadix_ten_iff (hbound : 0 < bound) :
    fromStrRadix 10 bound cs = .ok n ↔
      (Decimal cs n ∨ ∃ ds, cs = '+' :: ds ∧ Decimal ds n) ∧ n < bound := by
  rw [fromStrRadix_iff (by decide) hbound]
  simp only [numeral_ten_iff]

/-- The `u32` that `str::parse` reads. -/
lemma parseU32_eq_ok :
    parseU32 cs = .ok n ↔ (Decimal cs n ∨ ∃ ds, cs = '+' :: ds ∧ Decimal ds n) ∧ n < 2 ^ 32 :=
  fromStrRadix_ten_iff (by decide)

/-! ## Hexadecimal digits -/

/-- So many hexadecimal digits, which denote the number. -/
def Hex (width : ℕ) (cs : List Char) (n : ℕ) : Prop := cs.length = width ∧ Numeral 16 cs n

variable {width m : ℕ} {cs' : List Char}

lemma Hex.byteLen (h : Hex width cs n) : byteLen cs = width := by
  obtain ⟨hlen, -, ds, hds, -⟩ := h
  rw [byteLen_of_digits hds, hlen]

lemma Hex.lt (h : Hex width cs n) : n < 16 ^ width := by
  obtain ⟨rfl, -, ds, hds, rfl⟩ := h
  rw [hds.length_eq, ← List.length_reverse]
  refine Nat.ofDigits_lt_base_pow_length (by decide) fun d hd => ?_
  exact lt_of_mem_digits hds d (List.mem_reverse.mp hd)

/-- No digit is a separator or a sign. -/
lemma Hex.not_mem (h : Hex width cs n) {c : Char} (hc : toDigit 16 c = none) : c ∉ cs := by
  obtain ⟨-, -, ds, hds, -⟩ := h
  induction hds with
  | nil => exact List.not_mem_nil
  | cons hdigit _ ih =>
      refine List.not_mem_cons_of_ne_of_not_mem ?_ ih
      rintro rfl
      rw [hc] at hdigit
      cases hdigit

/-- The lower-case letter of a digit. -/
lemma toLower_of_toDigit {c : Char} {d : ℕ} (h : toDigit 16 c = some d) :
    c.toLower = Nat.digitChar d := by
  have hall : ∀ n < 128, ∀ d < 16, toDigit 16 (Char.ofNat n) = some d →
      (Char.ofNat n).toLower = Nat.digitChar d := by decide +kernel
  have hrange : c.toNat < 128 := by
    have hsize := Char.utf8Size_eq_one_iff.mp (utf8Size_of_toDigit h)
    exact Nat.lt_succ_of_le (UInt32.le_iff_toNat_le.mp hsize)
  have hc : Char.ofNat c.toNat = c := Char.ofNat_toNat c
  rw [← hc]
  exact hall c.toNat hrange d (toDigit_lt h) (by rwa [hc])

lemma toDigit_digitChar : ∀ d < 16, toDigit 16 (Nat.digitChar d) = some d := by decide

lemma filterMap_digitChar {ds : List ℕ} (h : ∀ d ∈ ds, d < 16) :
    (ds.map Nat.digitChar).filterMap (toDigit 16) = ds := by
  induction ds with
  | nil => rfl
  | cons d ds ih =>
      obtain ⟨hd, hds⟩ := List.forall_mem_cons.mp h
      rw [List.map_cons, List.filterMap_cons_some (toDigit_digitChar d hd), ih hds]

lemma map_toLower_of_digits {ds : List ℕ}
    (h : List.Forall₂ (fun c d => toDigit 16 c = some d) cs ds) :
    cs.map Char.toLower = ds.map Nat.digitChar := by
  induction h with
  | nil => rfl
  | cons hdigit _ ih => rw [List.map_cons, List.map_cons, toLower_of_toDigit hdigit, ih]

/-- **Numbers of the same width** are the same if their digits are, ignoring case. -/
theorem Hex.eq_iff (h : Hex width cs n) (h' : Hex width cs' m) :
    n = m ↔ cs.map Char.toLower = cs'.map Char.toLower := by
  obtain ⟨hlen, -, ds, hds, rfl⟩ := h
  obtain ⟨hlen', -, es, hes, rfl⟩ := h'
  have hwidth : ds.reverse.length = es.reverse.length := by
    rw [List.length_reverse, List.length_reverse, ← hds.length_eq, ← hes.length_eq, hlen, hlen']
  have hlt : ∀ d ∈ ds.reverse, d < 16 := fun d hd =>
    lt_of_mem_digits hds d (List.mem_reverse.mp hd)
  have hlt' : ∀ e ∈ es.reverse, e < 16 := fun e he =>
    lt_of_mem_digits hes e (List.mem_reverse.mp he)
  rw [map_toLower_of_digits hds, map_toLower_of_digits hes]
  constructor
  · intro heq
    have hrev := Nat.ofDigits_inj_of_len_eq (by decide) hwidth hlt hlt' heq
    rw [List.reverse_injective hrev]
  · intro heq
    rw [← filterMap_digitChar (lt_of_mem_digits hds), heq,
      filterMap_digitChar (lt_of_mem_digits hes)]

/-- The digits that are written for a number denote it. -/
lemma numeral_toDigits (n : ℕ) : Numeral 16 (Nat.toDigits 16 n) n := by
  induction n using Nat.strong_induction_on with
  | h n ih =>
      rw [Nat.toDigits_eq_if (by decide)]
      split_ifs with hlt
      · exact ⟨by simp, [n], .cons (toDigit_digitChar n hlt) .nil, by simp⟩
      · obtain ⟨-, ds, hds, hn⟩ := ih (n / 16) (by omega)
        have hlast := toDigit_digitChar (n % 16) (Nat.mod_lt n (by decide))
        refine ⟨by simp, ds ++ [n % 16], List.rel_append hds (.cons hlast .nil), ?_⟩
        rw [List.reverse_append, List.reverse_singleton, List.singleton_append, Nat.ofDigits_cons,
          hn]
        exact Nat.mod_add_div n 16

lemma Numeral.pad (h : Numeral 16 cs n) (k : ℕ) : Numeral 16 (List.replicate k '0' ++ cs) n := by
  induction k with
  | zero => exact h
  | succ k ih =>
      obtain ⟨-, ds, hds, hn⟩ := ih
      refine ⟨by simp [List.replicate_succ], 0 :: ds, ?_, ?_⟩
      · rw [List.replicate_succ, List.cons_append]
        exact .cons (by decide) hds
      · rw [ofDigits_cons_reverse, hn]
        omega

/-- **A padded number** takes the width that it is padded to. -/
lemma hex_hexPadded (hwidth : 0 < width) (h : n < 16 ^ width) :
    Hex width (hexPadded width n).toList n := by
  have hlen : (Nat.toDigits 16 n).length ≤ width :=
    (Nat.length_toDigits_le_iff (by decide) hwidth).mpr h
  rw [hexPadded, String.toList_ofList]
  refine ⟨?_, (numeral_toDigits n).pad _⟩
  rw [List.length_leftpad, max_eq_left hlen]

/-- The digits that `from_str_radix` reads in so many bytes are as many, or one less after a plus
sign. -/
lemma fromStrRadix_hex_iff (hwidth : 0 < width) :
    byteLen cs = width ∧ fromStrRadix 16 (16 ^ width) cs = .ok n ↔
      Hex width cs n ∨ ∃ ds, cs = '+' :: ds ∧ Hex (width - 1) ds n := by
  rw [fromStrRadix_iff (by decide) (Nat.pow_pos (by decide))]
  constructor
  · rintro ⟨hlen, h | ⟨ds, rfl, h⟩, -⟩
    · obtain ⟨hne, ds, hds, hn⟩ := h
      rw [byteLen_of_digits hds] at hlen
      exact .inl ⟨hlen, hne, ds, hds, hn⟩
    · refine .inr ⟨ds, rfl, ?_, h⟩
      obtain ⟨-, es, hes, -⟩ := h
      have hsum : byteLen ('+' :: ds) = 1 + byteLen ds := by simp [byteLen]; decide
      have := byteLen_of_digits hes
      omega
  · rintro (h | ⟨ds, rfl, h⟩)
    · exact ⟨h.byteLen, .inl h.2, h.lt⟩
    · have hsum : byteLen ('+' :: ds) = 1 + byteLen ds := by simp [byteLen]; decide
      have hds := h.byteLen
      refine ⟨by omega, .inr ⟨ds, rfl, h.2⟩, h.lt.trans_le ?_⟩
      exact Nat.pow_le_pow_right (by decide) (Nat.sub_le width 1)

end Chalybs
