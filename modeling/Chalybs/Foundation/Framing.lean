import Mathlib.Data.List.Flatten
import Mathlib.Tactic.Common

/-!
# Lines cut out of a stream that arrives in parts

A stream of symbols in which a separator ends each line, received in parts that need not end where
a line ends.  What is received after the last separator is kept for the next part.

* `cutLines` — the lines that are complete, and what is left.
* `frame` — the stream that carries some lines; `cutLines_frame` takes it apart again.
* `cutLines_append` — it makes no difference where the stream is cut.
* `cutLines_flatMap` — the lines of a stream that is encoded symbol by symbol.
* `CutsText` — an encoded stream is cut between encoded symbols; `cutsText_iff` says that this is
  when every part is itself the encoding of something.
-/

namespace Foundation

variable {α β : Type*}

/-! ## Lines -/

section

variable [DecidableEq α]

/-- The lines that a separator ends, without it, and what follows the last of them. -/
def cutLines (sep : α) : List α → List (List α) × List α
  | [] => ([], [])
  | c :: cs =>
      if c = sep then ([] :: (cutLines sep cs).1, (cutLines sep cs).2)
      else
        match (cutLines sep cs).1 with
        | [] => ([], c :: (cutLines sep cs).2)
        | line :: lines => ((c :: line) :: lines, (cutLines sep cs).2)

/-- The stream that carries the lines. -/
def frame (sep : α) (lines : List (List α)) : List α := lines.flatMap fun line => line ++ [sep]

variable {sep : α} {s line : List α}

/-- What is left has no separator in it. -/
lemma not_mem_cutLines_snd (sep : α) (s : List α) : sep ∉ (cutLines sep s).2 := by
  induction s with
  | nil => exact List.not_mem_nil
  | cons c cs ih =>
      rw [cutLines]
      split_ifs with hc
      · exact ih
      · split
        · exact List.not_mem_cons_of_ne_of_not_mem (Ne.symm hc) ih
        · exact ih

lemma cutLines_of_not_mem (h : sep ∉ s) : cutLines sep s = ([], s) := by
  induction s with
  | nil => rfl
  | cons c cs ih =>
      rw [List.mem_cons, not_or] at h
      rw [cutLines, if_neg (Ne.symm h.1), ih h.2]

/-- The first line is what comes before the first separator. -/
lemma cutLines_line (h : sep ∉ line) :
    cutLines sep (line ++ sep :: s) = (line :: (cutLines sep s).1, (cutLines sep s).2) := by
  induction line with
  | nil => rw [List.nil_append, cutLines, if_pos rfl]
  | cons c cs ih =>
      rw [List.mem_cons, not_or] at h
      rw [List.cons_append, cutLines, if_neg (Ne.symm h.1), ih h.2]

/-- **Where the stream is cut makes no difference**: what is left of the first part is put before
the second. -/
theorem cutLines_append (sep : α) (a b : List α) :
    cutLines sep (a ++ b) =
      ((cutLines sep a).1 ++ (cutLines sep ((cutLines sep a).2 ++ b)).1,
        (cutLines sep ((cutLines sep a).2 ++ b)).2) := by
  induction a with
  | nil => rfl
  | cons c cs ih =>
      rw [List.cons_append, cutLines, cutLines, ih]
      split_ifs with hc
      · rfl
      · cases hlines : (cutLines sep cs).1 with
        | nil => rw [List.nil_append, List.cons_append, cutLines, if_neg hc, List.nil_append]
        | cons line lines => rfl

/-- What has no separator in it belongs to the first line of what follows, -/
lemma cutLines_front_cons {lines : List (List α)} {front : List α} (h : sep ∉ front)
    (hs : (cutLines sep s).1 = line :: lines) :
    cutLines sep (front ++ s) = ((front ++ line) :: lines, (cutLines sep s).2) := by
  induction front with
  | nil => rw [List.nil_append, List.nil_append, ← hs]
  | cons c cs ih =>
      rw [List.mem_cons, not_or] at h
      rw [List.cons_append, cutLines, if_neg (Ne.symm h.1), ih h.2]
      rfl

/-- or to what is left of it, if there is no line. -/
lemma cutLines_front_nil {front : List α} (h : sep ∉ front) (hs : (cutLines sep s).1 = []) :
    cutLines sep (front ++ s) = ([], front ++ (cutLines sep s).2) := by
  induction front with
  | nil => rw [List.nil_append, List.nil_append, ← hs]
  | cons c cs ih =>
      rw [List.mem_cons, not_or] at h
      rw [List.cons_append, cutLines, if_neg (Ne.symm h.1), ih h.2]
      rfl

/-- There is a line as soon as there is a separator. -/
lemma cutLines_fst_eq_nil_iff : (cutLines sep s).1 = [] ↔ sep ∉ s := by
  constructor
  · intro h hmem
    obtain ⟨front, back, rfl, hfront⟩ := List.eq_append_cons_of_mem hmem
    rw [cutLines_line hfront] at h
    exact List.cons_ne_nil _ _ h
  · intro h
    rw [cutLines_of_not_mem h]

/-- Nothing is left of a stream that ends with a separator, or is empty. -/
lemma cutLines_snd_eq_nil_iff : (cutLines sep s).2 = [] ↔ s = [] ∨ s.getLast? = some sep := by
  rcases List.eq_nil_or_concat s with rfl | ⟨front, last, rfl⟩
  · exact iff_of_true rfl (.inl rfl)
  · have hrest := not_mem_cutLines_snd sep front
    rw [List.concat_eq_append, List.getLast?_concat, cutLines_append]
    by_cases hlast : last = sep
    · subst hlast
      rw [cutLines_line hrest]
      simp [cutLines]
    · have hline : sep ∉ (cutLines sep front).2 ++ [last] := by
        rw [List.mem_append, List.mem_singleton, not_or]
        exact ⟨hrest, Ne.symm hlast⟩
      rw [cutLines_of_not_mem hline]
      simp [hlast]

/-- **The lines are those that were sent.** -/
theorem cutLines_frame {lines : List (List α)} (h : ∀ line ∈ lines, sep ∉ line) :
    cutLines sep (frame sep lines) = (lines, []) := by
  induction lines with
  | nil => rfl
  | cons line lines ih =>
      obtain ⟨hline, hlines⟩ := List.forall_mem_cons.mp h
      have hsplit : frame sep (line :: lines) = line ++ sep :: frame sep lines := by
        rw [frame, List.flatMap_cons, List.append_assoc]
        rfl
      rw [hsplit, cutLines_line hline, ih hlines]

end

/-! ## Encoded streams -/

/-- **The lines of an encoded stream** are the encoded lines, if the code of the separator occurs in
that of no other symbol. -/
theorem cutLines_flatMap [DecidableEq α] [DecidableEq β] {code : α → List β} {sep : α} {sep' : β}
    (hsep : code sep = [sep']) (hcode : ∀ c, c ≠ sep → sep' ∉ code c) (s : List α) :
    cutLines sep' (s.flatMap code) =
      ((cutLines sep s).1.map fun line => line.flatMap code, (cutLines sep s).2.flatMap code) := by
  induction s with
  | nil => rfl
  | cons c cs ih =>
      rw [List.flatMap_cons]
      by_cases hc : c = sep
      · subst hc
        rw [hsep, List.singleton_append, cutLines, cutLines, if_pos rfl, if_pos rfl, ih]
        rfl
      · rw [cutLines, if_neg hc]
        cases hlines : (cutLines sep cs).1 with
        | nil =>
            rw [cutLines_front_nil (hcode c hc) (by rw [ih, hlines]; rfl), ih]
            rfl
        | cons line lines =>
            rw [cutLines_front_cons (hcode c hc) (by rw [ih, hlines]; rfl), ih]
            rfl

/-- The parts are the encodings of parts of the text. -/
def CutsText (encode : List α → List β) (parts : List (List β)) (text : List α) : Prop :=
  ∃ texts : List (List α), texts.flatten = text ∧ parts = texts.map encode

section

variable {encode : List α → List β}

lemma encode_flatten (hnil : encode [] = [])
    (happend : ∀ a b, encode (a ++ b) = encode a ++ encode b)
    (texts : List (List α)) : encode texts.flatten = (texts.map encode).flatten := by
  induction texts with
  | nil => exact hnil
  | cons text texts ih => rw [List.flatten_cons, happend, ih, List.map_cons, List.flatten_cons]

/-- A stream is cut between encoded symbols when every part is the encoding of something. -/
lemma cutsText_iff (hnil : encode [] = []) (happend : ∀ a b, encode (a ++ b) = encode a ++ encode b)
    (hinj : Function.Injective encode) {parts : List (List β)} {text : List α}
    (hparts : parts.flatten = encode text) :
    CutsText encode parts text ↔ ∀ part ∈ parts, ∃ t, part = encode t := by
  constructor
  · rintro ⟨texts, -, rfl⟩ part hpart
    obtain ⟨t, -, rfl⟩ := List.mem_map.mp hpart
    exact ⟨t, rfl⟩
  · intro h
    obtain ⟨texts, rfl⟩ : ∃ texts : List (List α), parts = texts.map encode := by
      clear hparts
      induction parts with
      | nil => exact ⟨[], rfl⟩
      | cons part parts ih =>
          obtain ⟨⟨t, rfl⟩, hparts⟩ := List.forall_mem_cons.mp h
          obtain ⟨texts, rfl⟩ := ih hparts
          exact ⟨t :: texts, rfl⟩
    refine ⟨texts, hinj ?_, rfl⟩
    rw [encode_flatten hnil happend, hparts]

end

end Foundation
