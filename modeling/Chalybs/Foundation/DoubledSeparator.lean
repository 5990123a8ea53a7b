import Mathlib.Algebra.Order.BigOperators.Group.List
import Mathlib.Algebra.Order.Ring.Nat
import Mathlib.Data.List.Basic
import Mathlib.Tactic.Common

/-!
# Parts with doubled separators

A text is split at its separators, where two of them in a row stand for the separator itself.  The
parts are joined with separators after those inside them have been doubled.

* `splitDoubled`, `doubleSep` — the reader, and what the writer does to a part.
* `splitDoubled_join` — **the parts are read back** if none but the first begins with a separator.
* `length_of_splitDoubled` — the length of a text from its parts.
* `splitDoubled_join_iff` — when parts are read back that are joined as they are.
-/

namespace Foundation

variable {α : Type*} [DecidableEq α] {sep c : α} {cs : List α} {parts : List (List α)}

/-- Splitting at single separators; two separators stand for one. -/
def splitDoubled (sep : α) : List α → List (List α)
  | [] => [[]]
  | [c] => if c = sep then [[], []] else [[c]]
  | c :: d :: cs =>
      if c = sep then
        if d = sep then (splitDoubled sep cs).modifyHead (sep :: ·)
        else [] :: splitDoubled sep (d :: cs)
      else (splitDoubled sep (d :: cs)).modifyHead (c :: ·)

/-- The part with its separators doubled. -/
def doubleSep (sep : α) (part : List α) : List α :=
  part.flatMap fun c => if c = sep then [sep, sep] else [c]

/-! ## One character -/

lemma splitDoubled_char (hc : c ≠ sep) (cs : List α) :
    splitDoubled sep (c :: cs) = (splitDoubled sep cs).modifyHead (c :: ·) := by
  cases cs with
  | nil => simp [splitDoubled, hc]
  | cons d cs => rw [splitDoubled, if_neg hc]

lemma splitDoubled_double (cs : List α) :
    splitDoubled sep (sep :: sep :: cs) = (splitDoubled sep cs).modifyHead (sep :: ·) := by
  rw [splitDoubled, if_pos rfl, if_pos rfl]

lemma splitDoubled_sep (h : cs.head? ≠ some sep) :
    splitDoubled sep (sep :: cs) = [] :: splitDoubled sep cs := by
  cases cs with
  | nil => simp [splitDoubled]
  | cons d cs =>
      have hd : d ≠ sep := by simpa using h
      rw [splitDoubled, if_pos rfl, if_neg hd]

lemma doubleSep_sep (part : List α) :
    doubleSep sep (sep :: part) = sep :: sep :: doubleSep sep part := by
  rw [doubleSep, List.flatMap_cons, if_pos rfl]
  rfl

lemma doubleSep_char (hc : c ≠ sep) (part : List α) :
    doubleSep sep (c :: part) = c :: doubleSep sep part := by
  rw [doubleSep, List.flatMap_cons, if_neg hc]
  rfl

/-! ## The round trip -/

lemma splitDoubled_doubleSep (part : List α) : splitDoubled sep (doubleSep sep part) = [part] := by
  induction part with
  | nil => rfl
  | cons c part ih =>
      by_cases hc : c = sep
      · rw [hc, doubleSep_sep, splitDoubled_double, ih]
        rfl
      · rw [doubleSep_char hc, splitDoubled_char hc, ih]
        rfl

lemma splitDoubled_doubleSep_append (part : List α) (h : cs.head? ≠ some sep) :
    splitDoubled sep (doubleSep sep part ++ sep :: cs) = part :: splitDoubled sep cs := by
  induction part with
  | nil => exact splitDoubled_sep h
  | cons c part ih =>
      by_cases hc : c = sep
      · rw [hc, doubleSep_sep, List.cons_append, List.cons_append, splitDoubled_double, ih]
        rfl
      · rw [doubleSep_char hc, List.cons_append, splitDoubled_char hc, ih]
        rfl

/-- A part that has a first character, which is not the separator, begins with it when it is
written. -/
lemma head?_join (parts : List (List α)) {part : List α} (hpart : part ≠ [])
    (hhead : part.head? ≠ some sep) :
    ([sep].intercalate ((part :: parts).map (doubleSep sep))).head? ≠ some sep := by
  cases part with
  | nil => exact absurd rfl hpart
  | cons c part =>
      have hc : c ≠ sep := by simpa using hhead
      cases parts with
      | nil => simp [doubleSep_char hc, hc]
      | cons next parts => simp [doubleSep_char hc, hc, List.intercalate_cons_cons]

/-- **The parts are read back**, if those after the first are not empty and do not begin with the
separator. -/
lemma splitDoubled_join (hne : parts ≠ [])
    (hheads : ∀ part ∈ parts.tail, part ≠ [] ∧ part.head? ≠ some sep) :
    splitDoubled sep ([sep].intercalate (parts.map (doubleSep sep))) = parts := by
  induction parts with
  | nil => exact absurd rfl hne
  | cons part parts ih =>
      cases parts with
      | nil => simpa using splitDoubled_doubleSep part
      | cons next parts =>
          obtain ⟨hnext, hhead⟩ := hheads next List.mem_cons_self
          have hrest := ih (List.cons_ne_nil _ _) fun p hp => hheads p (List.mem_cons_of_mem _ hp)
          rw [List.map_cons, List.map_cons, List.intercalate_cons_cons, ← List.map_cons,
            List.append_assoc, List.singleton_append,
            splitDoubled_doubleSep_append part (head?_join parts hnext hhead), hrest]

/-! ## Parts that are joined as they are -/

lemma doubleSep_of_not_mem {part : List α} (h : sep ∉ part) : doubleSep sep part = part := by
  induction part with
  | nil => rfl
  | cons c part ih =>
      rw [List.mem_cons, not_or] at h
      rw [doubleSep_char (Ne.symm h.1), ih h.2]

lemma splitDoubled_ne_nil (sep : α) (cs : List α) : splitDoubled sep cs ≠ [] := by
  induction cs using splitDoubled.induct sep with
  | case1 => simp [splitDoubled]
  | case2 => simp [splitDoubled]
  | case3 c hc => simp [splitDoubled, hc]
  | case4 cs ih => simpa [splitDoubled_double] using ih
  | case5 d cs hd ih => simp [splitDoubled, hd]
  | case6 c d cs hc ih => simpa [splitDoubled_char hc] using ih

/-- What a part takes in a text, with a separator after it. -/
def written (sep : α) (part : List α) : ℕ := part.length + part.count sep + 1

lemma sum_written_modifyHead (hne : parts ≠ []) (c : α) :
    ((parts.modifyHead (c :: ·)).map (written sep)).sum =
      (parts.map (written sep)).sum + if c = sep then 2 else 1 := by
  obtain ⟨part, rest, rfl⟩ := List.exists_cons_of_ne_nil hne
  by_cases hc : c = sep <;> simp [written, hc] <;> omega

/-- **The length of a text** from its parts. -/
lemma length_of_splitDoubled (sep : α) (cs : List α) :
    ((splitDoubled sep cs).map (written sep)).sum = cs.length + 1 := by
  induction cs using splitDoubled.induct sep with
  | case1 => simp [splitDoubled, written]
  | case2 => simp [splitDoubled, written]
  | case3 c hc => simp [splitDoubled, written, hc]
  | case4 cs ih =>
      rw [splitDoubled_double, sum_written_modifyHead (splitDoubled_ne_nil _ _), ih, if_pos rfl]
      rfl
  | case5 d cs hd ih =>
      rw [splitDoubled_sep (by simpa using hd), List.map_cons, List.sum_cons, ih]
      simp [written]
      omega
  | case6 c d cs hc ih =>
      rw [splitDoubled_char hc, sum_written_modifyHead (splitDoubled_ne_nil _ _), ih, if_neg hc]
      rfl

omit [DecidableEq α] in
/-- The length of a text in which the parts are joined as they are. -/
lemma length_join (hne : parts ≠ []) :
    ([sep].intercalate parts).length + 1 = (parts.map fun part => part.length + 1).sum := by
  induction parts with
  | nil => exact absurd rfl hne
  | cons part parts ih =>
      cases parts with
      | nil => simp
      | cons next parts =>
          have hrest := ih (List.cons_ne_nil _ _)
          rw [List.intercalate_cons_cons, List.map_cons, List.sum_cons, ← hrest]
          simp only [List.length_append, List.length_singleton]
          omega

/-- **Parts that are joined as they are** are read back exactly when no separator is in them. -/
lemma splitDoubled_join_iff (hne : parts ≠ []) (hparts : ∀ part ∈ parts, part ≠ []) :
    splitDoubled sep ([sep].intercalate parts) = parts ↔ ∀ part ∈ parts, sep ∉ part := by
  constructor
  · intro hread
    have hlength := length_of_splitDoubled sep ([sep].intercalate parts)
    rw [hread, length_join hne] at hlength
    have hsum : (parts.map (written sep)).sum =
        (parts.map fun part => part.length + 1).sum + (parts.map (List.count sep)).sum := by
      rw [← List.sum_map_add]
      refine congrArg List.sum (List.map_congr_left fun part _ => ?_)
      rw [written]
      omega
    have hzero : (parts.map (List.count sep)).sum = 0 := by omega
    intro part hpart hmem
    have hle := List.single_le_sum (by simp) _ (List.mem_map_of_mem (f := List.count sep) hpart)
    have hpos := List.count_pos_iff.mpr hmem
    omega
  · intro hnone
    have hsame : parts.map (doubleSep sep) = parts := by
      refine (List.map_congr_left fun part hpart => ?_).trans (List.map_id _)
      exact doubleSep_of_not_mem (hnone part hpart)
    have hread := splitDoubled_join hne fun part hpart => by
      have hmem := List.mem_of_mem_tail hpart
      exact ⟨hparts part hmem, fun hhead => hnone part hmem (List.mem_of_mem_head? hhead)⟩
    rwa [hsame] at hread

end Foundation
