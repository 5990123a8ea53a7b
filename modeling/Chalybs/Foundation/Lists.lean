import Mathlib.Data.List.Basic
import Mathlib.Data.List.DropRight
import Mathlib.Data.List.Forall2
import Mathlib.Data.List.Nodup

/-!
# Lists

* `filterMap_eq_filterMap_iff` — a selection that keeps less than another one gives a different
  list as soon as it misses anything; `filterMap_eq_iff_forall₂` — one that is as long as it can be.
* `perm_flatMap_filter` — buckets taken one after the other hold every element once.
* `exists_forall₂`, `exists_of_forall₂` — partners for all elements of a list, and for one.
* `Partitions` — disjoint lists that make up another one as sets.
* `splitOn_eq_iff` — the parts that a text is split into; `splitOn_append_last` — the last of them.
* `mem_of_mem_rtake`, `rtake_append_of_length` — the last elements of a list.
-/

namespace Foundation

variable {α β : Type*}

/-- A selection that misses something of another one gives a shorter list. -/
lemma length_filterMap_le_of_missing {f g : α → Option β} {xs : List α}
    (h : ∀ x ∈ xs, f x = none ∨ f x = g x) :
    (xs.filterMap f).length ≤ (xs.filterMap g).length := by
  induction xs with
  | nil => simp
  | cons x xs ih =>
      have ih := ih fun y hy => h y (List.mem_cons_of_mem _ hy)
      rcases h x List.mem_cons_self with hx | hx
      · cases hg : g x with
        | none => simpa [hx, hg] using ih
        | some b => simp only [List.filterMap_cons, hx, hg, List.length_cons]; omega
      · cases hg : g x with
        | none => simpa [hx, hg] using ih
        | some b => simpa [hx, hg] using ih

/-- **Two selections of which one may miss elements** give the same list exactly when it misses
none. -/
theorem filterMap_eq_filterMap_iff {f g : α → Option β} {xs : List α}
    (h : ∀ x ∈ xs, f x = none ∨ f x = g x) :
    xs.filterMap f = xs.filterMap g ↔ ∀ x ∈ xs, f x = g x := by
  constructor
  · intro heq
    induction xs with
    | nil => simp
    | cons x xs ih =>
        have hrest : ∀ y ∈ xs, f y = none ∨ f y = g y :=
          fun y hy => h y (List.mem_cons_of_mem _ hy)
        have hle := length_filterMap_le_of_missing hrest
        have hx : f x = g x := by
          rcases h x List.mem_cons_self with hx | hx
          · cases hg : g x with
            | none => exact hx
            | some b =>
                -- the first list would be shorter
                have hlength := congrArg List.length heq
                simp only [List.filterMap_cons, hx, hg, List.length_cons] at hlength
                omega
          · exact hx
        have htail : xs.filterMap f = xs.filterMap g := by
          cases hg : g x with
          | none => simpa [hx, hg] using heq
          | some b => simpa [hx, hg] using heq
        exact List.forall_mem_cons.mpr ⟨hx, ih hrest htail⟩
  · exact List.filterMap_congr

/-- **A selection** that is as long as it can be takes every element. -/
theorem filterMap_eq_iff_forall₂ {f : α → Option β} {xs : List α} {ys : List β}
    (h : xs.length ≤ ys.length) :
    xs.filterMap f = ys ↔ List.Forall₂ (fun x y => f x = some y) xs ys := by
  constructor
  · intro heq
    induction xs generalizing ys with
    | nil =>
        obtain rfl : [] = ys := heq
        exact .nil
    | cons x xs ih =>
        cases hx : f x with
        | none =>
            have hle := List.length_filterMap_le f xs
            rw [List.filterMap_cons_none hx] at heq
            rw [heq] at hle
            rw [List.length_cons] at h
            omega
        | some y =>
            rw [List.filterMap_cons_some hx] at heq
            subst heq
            exact .cons hx (ih (Nat.le_of_succ_le_succ h) rfl)
  · intro hall
    induction hall with
    | nil => rfl
    | cons hx _ ih => rw [List.filterMap_cons_some hx, ih (Nat.le_of_succ_le_succ h)]

/-- **Buckets taken one after the other** hold every element of the list once, if every key has its
bucket and no bucket is taken twice. -/
theorem perm_flatMap_filter {κ : Type*} [DecidableEq κ] {key : α → κ} {cs : List κ} {xs : List α}
    (hnodup : cs.Nodup) (h : ∀ x ∈ xs, key x ∈ cs) :
    (cs.flatMap fun c => xs.filter fun x => decide (key x = c)).Perm xs := by
  induction cs generalizing xs with
  | nil =>
      have hnil : xs = [] := List.eq_nil_iff_forall_not_mem.mpr fun x hx => by simpa using h x hx
      simp [hnil]
  | cons c cs ih =>
      obtain ⟨hc, hnodup⟩ := List.nodup_cons.mp hnodup
      -- the later buckets are those of the elements that are not in the first
      have hrest : ∀ c' ∈ cs, (xs.filter fun x => decide (key x = c')) =
          (xs.filter fun x => !decide (key x = c)).filter fun x => decide (key x = c') := by
        intro c' hc'
        rw [List.filter_filter]
        refine List.filter_congr fun x _ => ?_
        have hne : c' ≠ c := fun heq => hc (heq ▸ hc')
        by_cases hx : key x = c'
        · simp [hx, hne]
        · simp [hx]
      rw [List.flatMap_cons, List.flatMap_congr hrest]
      refine (List.Perm.append_left _ (ih hnodup ?_)).trans
        (List.filter_append_perm (fun x => decide (key x = c)) xs)
      intro x hx
      obtain ⟨hx, hne⟩ := List.mem_filter.mp hx
      exact (List.mem_cons.mp (h x hx)).resolve_left (by simpa using hne)

/-! ## Partners -/

section

variable {R : α → β → Prop} {xs : List α}

lemma exists_forall₂ (h : ∀ x ∈ xs, ∃ y, R x y) : ∃ ys, List.Forall₂ R xs ys := by
  induction xs with
  | nil => exact ⟨[], .nil⟩
  | cons x xs ih =>
      obtain ⟨hx, hxs⟩ := List.forall_mem_cons.mp h
      obtain ⟨y, hy⟩ := hx
      obtain ⟨ys, hys⟩ := ih hxs
      exact ⟨y :: ys, .cons hy hys⟩

lemma exists_of_forall₂ {ys : List β} (h : List.Forall₂ R xs ys) {x : α} (hx : x ∈ xs) :
    ∃ y, R x y := by
  induction h with
  | nil => exact absurd hx List.not_mem_nil
  | cons hxy _ ih =>
      rcases List.mem_cons.mp hx with rfl | hx
      · exact ⟨_, hxy⟩
      · exact ih hx

end

/-! ## Partitions -/

/-- The parts are disjoint and without repetitions, and together they have the members of the
whole. -/
structure Partitions (parts : List (List α)) (whole : List α) : Prop where
  disjoint : parts.Pairwise List.Disjoint
  nodup : ∀ part ∈ parts, part.Nodup
  mem_iff : ∀ x, x ∈ whole ↔ ∃ part ∈ parts, x ∈ part

section

variable {parts : List (List α)} {whole : List α}

/-- The parts in one list name every member once. -/
lemma Partitions.nodup_flatten (h : Partitions parts whole) : parts.flatten.Nodup :=
  List.nodup_flatten.mpr ⟨h.nodup, h.disjoint⟩

lemma Partitions.mem_flatten (h : Partitions parts whole) {x : α} :
    x ∈ parts.flatten ↔ x ∈ whole := by
  rw [h.mem_iff, List.mem_flatten]

/-- Disjoint cells that cover the whole, cut down to it, partition it. -/
lemma Partitions.of_cells {γ : Type*} {cells : List γ} {cell cut : γ → List α}
    (hdisjoint : cells.Pairwise fun a b => (cell a).Disjoint (cell b))
    (hcover : ∀ x ∈ whole, ∃ c ∈ cells, x ∈ cell c) (hnodup : ∀ c ∈ cells, (cut c).Nodup)
    (hcut : ∀ c ∈ cells, ∀ x, x ∈ cut c ↔ x ∈ cell c ∧ x ∈ whole) :
    Partitions (cells.map cut) whole where
  disjoint := by
    rw [List.pairwise_map]
    refine hdisjoint.imp_of_mem fun {a b} ha hb hab x hxa hxb => ?_
    exact hab ((hcut a ha x).mp hxa).1 ((hcut b hb x).mp hxb).1
  nodup part hpart := by
    obtain ⟨c, hc, rfl⟩ := List.mem_map.mp hpart
    exact hnodup c hc
  mem_iff x := by
    constructor
    · intro hx
      obtain ⟨c, hc, hxc⟩ := hcover x hx
      exact ⟨cut c, List.mem_map_of_mem hc, (hcut c hc x).mpr ⟨hxc, hx⟩⟩
    · rintro ⟨part, hpart, hx⟩
      obtain ⟨c, hc, rfl⟩ := List.mem_map.mp hpart
      exact ((hcut c hc x).mp hx).2

end

/-! ## Splitting -/

section

variable [BEq α] [LawfulBEq α] {sep : α} {xs ys : List α}

lemma not_mem_of_mem_splitOn {part : List α} (h : part ∈ xs.splitOn sep) : sep ∉ part := by
  induction xs generalizing part with
  | nil =>
      rw [List.splitOn_nil, List.mem_singleton] at h
      simp [h]
  | cons x xs ih =>
      rw [List.splitOn_cons_eq_if_modifyHead] at h
      split_ifs at h with hx
      · rcases List.mem_cons.mp h with rfl | h
        · exact List.not_mem_nil
        · exact ih h
      · obtain ⟨first, rest, hsplit⟩ := List.exists_cons_of_ne_nil (List.splitOn_ne_nil sep xs)
        rw [hsplit] at h ih
        rcases List.mem_cons.mp h with rfl | h
        · refine List.not_mem_cons_of_ne_of_not_mem ?_ (ih List.mem_cons_self)
          rintro rfl
          simp at hx
        · exact ih (List.mem_cons_of_mem _ h)

/-- **The parts of a text** are those without a separator that it is joined from. -/
theorem splitOn_eq_iff {parts : List (List α)} (hne : parts ≠ []) :
    xs.splitOn sep = parts ↔ xs = [sep].intercalate parts ∧ ∀ part ∈ parts, sep ∉ part := by
  constructor
  · rintro rfl
    exact ⟨(List.intercalate_splitOn sep).symm, fun _ hpart => not_mem_of_mem_splitOn hpart⟩
  · rintro ⟨rfl, hparts⟩
    exact List.splitOn_intercalate sep hparts hne

/-- What comes after a separator, and has none in it, is the last part. -/
lemma splitOn_append_last (h : sep ∉ ys) :
    (xs ++ sep :: ys).splitOn sep = xs.splitOn sep ++ [ys] := by
  rw [List.splitOn_append_cons_self, List.splitOn_eq_singleton h]

end

/-! ## The last elements -/

lemma mem_of_mem_rtake {l l' : List α} {n : ℕ} {x : α} (h : n ≤ l'.length)
    (hx : x ∈ (l ++ l').rtake n) : x ∈ l' := by
  rw [List.rtake, List.length_append, List.drop_append, List.drop_eq_nil_of_le (by omega),
    List.nil_append] at hx
  exact List.mem_of_mem_drop hx

lemma rtake_append_of_length {l l' : List α} {n : ℕ} (h : l'.length = n) :
    (l ++ l').rtake n = l' := by
  rw [List.rtake, List.length_append, h, Nat.add_sub_cancel, List.drop_left]

end Foundation
