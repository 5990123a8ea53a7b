import Chalybs.Core.Basics
import Mathlib.Data.List.DropRight
import Mathlib.Data.List.TakeWhile

/-!
# White space, separators and decimal numbers

What the text functions of the standard library compute, for the callers of them.

* `trim_eq_self_iff`, `trim_trim` — what `trim` leaves as it is.
* `splitWhitespace_word`, `splitWhitespace_trim` — the words of a text.
* `splitOnce_append`, `eq_of_splitOnce` — a text and its parts around the first separator.
* `Decimal` — a text of digits and the number that it denotes; `decimal_toString` says that numbers
  are written so.
-/

namespace Chalybs

/-! ## White space around a text -/

section

variable {s : List Char}

lemma dropWhile_eq_self_iff_head? {p : Char → Bool} :
    s.dropWhile p = s ↔ ∀ c ∈ s.head?, p c = false := by
  rw [List.dropWhile_eq_self_iff]
  cases s with
  | nil => simp
  | cons c cs => simp

lemma head?_dropWhile {p : Char → Bool} : ∀ c ∈ (s.dropWhile p).head?, p c = false :=
  dropWhile_eq_self_iff_head?.mp (List.dropWhile_idempotent _ _)

/-- A text is trimmed if there is no white space at its ends. -/
lemma trim_eq_self_iff : trim s = s ↔
    (∀ c ∈ s.head?, isWhitespace c = false) ∧ ∀ c ∈ s.getLast?, isWhitespace c = false := by
  rw [← List.head?_reverse, ← dropWhile_eq_self_iff_head?, ← dropWhile_eq_self_iff_head?]
  have hright : (s.reverse.dropWhile isWhitespace).reverse = s ↔
      s.reverse.dropWhile isWhitespace = s.reverse := List.reverse_eq_iff
  constructor
  · intro h
    -- what is taken away on the left is not put back on the right
    have hshort : (trim s).length ≤ (s.dropWhile isWhitespace).length := by
      rw [trim, List.length_reverse]
      exact (List.dropWhile_suffix _).length_le.trans_eq List.length_reverse
    rw [h] at hshort
    have hleft : s.dropWhile isWhitespace = s := (List.dropWhile_suffix _).eq_of_length_le hshort
    rw [trim, hleft] at h
    exact ⟨hleft, hright.mp h⟩
  · rintro ⟨hleft, hlast⟩
    rw [trim, hleft]
    exact hright.mpr hlast

lemma trim_trim (s : List Char) : trim (trim s) = trim s := by
  refine trim_eq_self_iff.mpr ⟨fun c hc => ?_, fun c hc => ?_⟩
  · obtain ⟨cs, hcs⟩ := List.head?_eq_some_iff.mp hc
    obtain ⟨rest, hrest⟩ : trim s <+: s.dropWhile isWhitespace := List.rdropWhile_prefix _ _
    refine head?_dropWhile (s := s) c ?_
    rw [← hrest, hcs]
    rfl
  · rw [trim, ← List.head?_reverse, List.reverse_reverse] at hc
    exact head?_dropWhile c hc

lemma mem_of_mem_trim {c : Char} (h : c ∈ trim s) : c ∈ s := by
  have hleft : c ∈ s.dropWhile isWhitespace :=
    List.mem_reverse.mp ((List.dropWhile_suffix _).mem (List.mem_reverse.mp h))
  exact (List.dropWhile_suffix _).mem hleft

end

/-! ## The words of a text -/

section

variable {s word : List Char}

lemma splitWhitespace_cons {c : Char} (hc : isWhitespace c = true) :
    splitWhitespace (c :: s) = splitWhitespace s := by
  simp [splitWhitespace, List.splitOnP_cons_eq_if_modifyHead, hc]

/-- A word with white space after it. -/
lemma splitWhitespace_word {sep : Char} (hsep : isWhitespace sep = true) (hword : word ≠ [])
    (hplain : ∀ c ∈ word, isWhitespace c = false) :
    splitWhitespace (word ++ sep :: s) = word :: splitWhitespace s := by
  rw [splitWhitespace, List.splitOnP_append_cons_of_forall_mem hplain sep hsep, List.filter_cons]
  simp [hword, splitWhitespace]

lemma splitWhitespace_concat {c : Char} (hc : isWhitespace c = true) :
    splitWhitespace (s ++ [c]) = splitWhitespace s := by
  rw [splitWhitespace, List.splitOnP_append_cons s [] hc, List.filter_append]
  simp [splitWhitespace]

lemma splitWhitespace_dropWhile :
    splitWhitespace (s.dropWhile isWhitespace) = splitWhitespace s := by
  induction s with
  | nil => rfl
  | cons c cs ih =>
      cases hc : isWhitespace c with
      | true => rw [List.dropWhile_cons_of_pos hc, ih, splitWhitespace_cons hc]
      | false => rw [List.dropWhile_cons_of_neg (by simp [hc])]

lemma splitWhitespace_rdropWhile :
    splitWhitespace (s.rdropWhile isWhitespace) = splitWhitespace s := by
  induction s using List.reverseRecOn with
  | nil => rfl
  | append_singleton cs c ih =>
      cases hc : isWhitespace c with
      | true => rw [List.rdropWhile_concat_pos _ _ _ hc, ih, splitWhitespace_concat hc]
      | false => rw [List.rdropWhile_concat_neg _ _ _ (by simp [hc])]

/-- White space around a text does not change its words. -/
lemma splitWhitespace_trim (s : List Char) : splitWhitespace (trim s) = splitWhitespace s := by
  show splitWhitespace ((s.dropWhile isWhitespace).rdropWhile isWhitespace) = _
  rw [splitWhitespace_rdropWhile, splitWhitespace_dropWhile]

/-- The words of a text have no white space in them. -/
lemma not_isWhitespace_of_mem (h : word ∈ splitWhitespace s) :
    word ≠ [] ∧ ∀ c ∈ word, isWhitespace c = false := by
  obtain ⟨hmem, hne⟩ := List.mem_filter.mp h
  refine ⟨by simpa using hne, ?_⟩
  clear h hne
  induction s generalizing word with
  | nil =>
      rw [List.splitOnP_nil, List.mem_singleton] at hmem
      simp [hmem]
  | cons c cs ih =>
      rw [List.splitOnP_cons_eq_if_modifyHead] at hmem
      split_ifs at hmem with hc
      · rcases List.mem_cons.mp hmem with rfl | hrest
        · simp
        · exact ih hrest
      · obtain ⟨first, rest, hsplit⟩ := List.exists_cons_of_ne_nil
          (List.splitOnP_ne_nil isWhitespace cs)
        rw [hsplit] at hmem ih
        rcases List.mem_cons.mp hmem with rfl | hrest
        · exact List.forall_mem_cons.mpr ⟨by simpa using hc, ih List.mem_cons_self⟩
        · exact ih (List.mem_cons_of_mem _ hrest)

/-- A text begins with itself as a word exactly if it is a word. -/
lemma head?_splitWhitespace_self :
    (splitWhitespace s).head? = some s ↔ s ≠ [] ∧ ∀ c ∈ s, isWhitespace c = false := by
  constructor
  · intro h
    obtain ⟨rest, hrest⟩ := List.head?_eq_some_iff.mp h
    exact not_isWhitespace_of_mem (hrest ▸ List.mem_cons_self)
  · rintro ⟨hne, hplain⟩
    rw [splitWhitespace, List.splitOnP_eq_singleton hplain]
    simp [hne]

end

/-! ## The first separator -/

section

variable {sep : Char} {key value part : List Char}

lemma splitOnce_append (h : sep ∉ key) :
    splitOnce sep (key ++ sep :: value) = some (key, value) := by
  have hkey : ∀ c ∈ key, (c != sep) = true := fun c hc => by
    simpa using fun heq : c = sep => h (heq ▸ hc)
  rw [splitOnce, List.dropWhile_append_of_pos hkey, List.takeWhile_append_of_pos hkey]
  simp

lemma splitOnce_of_not_mem (h : sep ∉ part) : splitOnce sep part = none := by
  have hnil : (part.dropWhile fun c => c != sep) = [] := by
    refine List.dropWhile_eq_nil_iff.mpr fun c hc => ?_
    simpa using fun heq : c = sep => h (heq ▸ hc)
  rw [splitOnce, hnil]

lemma eq_of_splitOnce (h : splitOnce sep part = some (key, value)) :
    part = key ++ sep :: value := by
  rw [splitOnce] at h
  cases hdrop : part.dropWhile fun c => c != sep with
  | nil =>
      rw [hdrop] at h
      cases h
  | cons c rest =>
      rw [hdrop] at h
      obtain ⟨rfl, rfl⟩ := Prod.mk.inj (Option.some.inj h)
      have hc : c = sep := by
        have hhead := List.head_dropWhile_not (fun c => c != sep) (l := part) (by simp [hdrop])
        simpa [hdrop] using hhead
      have happend := List.takeWhile_append_dropWhile (p := fun c => c != sep) (l := part)
      rw [hdrop, hc] at happend
      exact happend.symm

/-- A text has no separator, or it is cut at the first one. -/
lemma exists_first_separator (sep : Char) (part : List Char) :
    sep ∉ part ∨ ∃ key value, part = key ++ sep :: value ∧ sep ∉ key := by
  by_cases hmem : sep ∈ part
  · obtain ⟨key, value, rfl, hkey⟩ := List.eq_append_cons_of_mem hmem
    exact .inr ⟨key, value, rfl, hkey⟩
  · exact .inl hmem

end

/-! ## Decimal numbers -/

/-- The text consists of digits, at least one, which denote the number. -/
def Decimal (cs : List Char) (n : ℕ) : Prop :=
  cs ≠ [] ∧ (∀ c ∈ cs, c.isDigit) ∧ Nat.ofDigitChars 10 cs 0 = n

section

variable {cs : List Char} {n : ℕ}

lemma Decimal.unique {n' : ℕ} (h : Decimal cs n) (h' : Decimal cs n') : n = n' :=
  h.2.2.symm.trans h'.2.2

/-- The digits that `to_string` writes denote the number. -/
lemma decimal_toString (n : ℕ) : Decimal (toString n).toList n := by
  rw [Nat.toString_eq_ofList_toDigits, String.toList_ofList]
  refine ⟨Nat.toDigits_ne_nil, fun c hc => ?_, Nat.ofDigitChars_ten_toDigits⟩
  exact Nat.isDigit_of_mem_toDigits (by decide) (by decide) hc

/-- A character that is no digit does not occur in a number. -/
lemma Decimal.not_mem (h : Decimal cs n) {c : Char} (hc : c.isDigit = false) : c ∉ cs := by
  intro hmem
  have hdigit := h.2.1 c hmem
  rw [hc] at hdigit
  cases hdigit

lemma toDigit_ten (c : Char) :
    toDigit 10 c = if c.isDigit then some (c.toNat - '0'.toNat) else none := by
  by_cases hdigit : '0' ≤ c ∧ c ≤ '9'
  · have hle : c.toNat ≤ '9'.toNat := hdigit.2
    have hnine : '9'.toNat - '0'.toNat < 10 := by decide
    rw [toDigit, if_pos hdigit, if_pos (Char.isDigit_iff_toNat.mpr hdigit), Option.bind_some,
      if_pos (by omega)]
  · rw [toDigit, if_neg hdigit, if_neg (fun h => hdigit (Char.isDigit_iff_toNat.mp h))]
    -- a letter stands for ten at least
    split_ifs <;> simp

end

end Chalybs
