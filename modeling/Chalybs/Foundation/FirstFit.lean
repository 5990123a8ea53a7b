import Mathlib.Data.List.Sort
import Mathlib.Order.Bounds.Defs

/-!
# Handing out the smallest free numbers

Requests are served in order, each with the smallest number that is not in use.  What they get is
the list of the free numbers from its start, and a request that is repeated is served once.

* `freeBetween` — the free numbers of a range, in increasing order.
* `freeBetween_eq_cons`, `freeBetween_eq_nil` — what a search for the next free number has found.
* `isLeast_getElem` — every number is the smallest that the earlier requests have left.
* `Earlier`, `pairwise_earlier_eraseDups` — the order in which the requests are served.
-/

namespace Foundation

/-! ## The free numbers -/

/-- The numbers from `lo` on and below `hi` that are not in use. -/
def freeBetween (used : List ℕ) (lo hi : ℕ) : List ℕ :=
  (List.range' lo (hi - lo)).filter fun n => !used.contains n

variable {used : List ℕ} {lo hi n : ℕ}

lemma mem_freeBetween : n ∈ freeBetween used lo hi ↔ lo ≤ n ∧ n < hi ∧ n ∉ used := by
  simp only [freeBetween, List.mem_filter, List.mem_range'_1, Bool.not_eq_true',
    List.contains_eq_mem, decide_eq_false_iff_not]
  constructor
  · rintro ⟨⟨hlo, hhi⟩, hfree⟩
    exact ⟨hlo, by omega, hfree⟩
  · rintro ⟨hlo, hhi, hfree⟩
    exact ⟨⟨hlo, by omega⟩, hfree⟩

lemma pairwise_freeBetween (used : List ℕ) (lo hi : ℕ) :
    (freeBetween used lo hi).Pairwise (· < ·) := by
  have hrange : (List.range' lo (hi - lo)).Pairwise (· < ·) := List.pairwise_lt_range'
  exact hrange.filter _

/-- Two increasing lists with the same numbers are the same. -/
lemma eq_of_mem_iff {xs ys : List ℕ} (hxs : xs.Pairwise (· < ·)) (hys : ys.Pairwise (· < ·))
    (h : ∀ n, n ∈ xs ↔ n ∈ ys) : xs = ys := by
  have hnodup : ∀ {zs : List ℕ}, zs.Pairwise (· < ·) → zs.Nodup := fun hzs => hzs.imp Nat.ne_of_lt
  have hperm : xs.Perm ys := (List.perm_ext_iff_of_nodup (hnodup hxs) (hnodup hys)).mpr h
  exact hperm.eq_of_pairwise (fun _ _ _ _ hab hba => absurd hab hba.asymm) hxs hys

/-- A number is the first free one, and the others are what is left from there on. -/
lemma freeBetween_eq_cons (hlo : lo ≤ n) (hhi : n < hi) (hfree : n ∉ used)
    (hused : ∀ k, lo ≤ k → k < n → k ∈ used) :
    freeBetween used lo hi = n :: freeBetween (n :: used) (n + 1) hi := by
  refine eq_of_mem_iff (pairwise_freeBetween _ _ _) ?_ fun k => ?_
  · refine List.pairwise_cons.mpr ⟨fun k hk => ?_, pairwise_freeBetween _ _ _⟩
    exact (mem_freeBetween.mp hk).1
  · simp only [List.mem_cons, mem_freeBetween, not_or]
    constructor
    · rintro ⟨hk, hkhi, hkfree⟩
      by_cases heq : k = n
      · exact .inl heq
      · have hlt : ¬ k < n := fun hlt => hkfree (hused k hk hlt)
        exact .inr ⟨by omega, hkhi, heq, hkfree⟩
    · rintro (rfl | ⟨hk, hkhi, -, hkfree⟩)
      · exact ⟨hlo, hhi, hfree⟩
      · exact ⟨by omega, hkhi, hkfree⟩

lemma freeBetween_eq_nil (h : ∀ k, lo ≤ k → k < hi → k ∈ used) : freeBetween used lo hi = [] := by
  refine List.eq_nil_iff_forall_not_mem.mpr fun k hk => ?_
  obtain ⟨hlo, hhi, hfree⟩ := mem_freeBetween.mp hk
  exact hfree (h k hlo hhi)

/-- The free numbers of a range are those below a bound and those from there on. -/
lemma freeBetween_append {mid : ℕ} (hlo : lo ≤ mid) (hhi : mid ≤ hi) :
    freeBetween used lo hi = freeBetween used lo mid ++ freeBetween used mid hi := by
  have hrange : List.range' lo (hi - lo) =
      List.range' lo (mid - lo) ++ List.range' mid (hi - mid) := by
    obtain ⟨m, rfl⟩ := Nat.exists_eq_add_of_le hlo
    obtain ⟨n, rfl⟩ := Nat.exists_eq_add_of_le hhi
    rw [Nat.add_sub_cancel_left, Nat.add_sub_cancel_left, List.range'_append_1]
    congr 1
    omega
  rw [freeBetween, hrange, List.filter_append]
  rfl

/-- **The number at a position** is the smallest that the positions before it have left. -/
lemma isLeast_getElem {l : List ℕ} (h : l.Pairwise (· < ·)) {i : ℕ} (hi : i < l.length) :
    IsLeast {n | n ∈ l ∧ ∀ j, (hj : j < i) → l[j] ≠ n} l[i] := by
  rw [List.pairwise_iff_getElem] at h
  refine ⟨⟨List.getElem_mem hi, fun j hj => (h j i _ hi hj).ne⟩, ?_⟩
  rintro n ⟨hn, hbefore⟩
  obtain ⟨k, hk, rfl⟩ := List.getElem_of_mem hn
  by_contra hlt
  by_cases hki : k < i
  · exact hbefore k hki rfl
  · rcases Nat.lt_or_eq_of_le (Nat.le_of_not_lt hki) with hik | rfl
    · exact hlt (h i k hi hk hik).le
    · exact hlt le_rfl

/-! ## The order of the requests -/

variable {α : Type*}

/-- `x` comes before every `y`, which is another element. -/
def Earlier (xs : List α) (x y : α) : Prop :=
  ∃ before after, xs = before ++ x :: after ∧ y ∉ before ∧ y ≠ x

/-- Elements that are taken out of the list change nothing for the others. -/
lemma Earlier.of_filter {xs : List α} {p : α → Bool} {x y : α} (h : Earlier (xs.filter p) x y)
    (hy : p y = true) : Earlier xs x y := by
  obtain ⟨before, after, heq, hbefore, hne⟩ := h
  obtain ⟨front, back, rfl, rfl, hback⟩ := List.filter_eq_append_iff.mp heq
  obtain ⟨skipped, rest, rfl, hskipped, -, -⟩ := List.filter_eq_cons_iff.mp hback
  refine ⟨front ++ skipped, rest, by simp, ?_, hne⟩
  simp only [List.mem_append, not_or]
  exact ⟨fun hfront => hbefore (List.mem_filter.mpr ⟨hfront, hy⟩), fun hmem => hskipped y hmem hy⟩

lemma Earlier.cons {xs : List α} {a x y : α} (h : Earlier xs x y) (hy : y ≠ a) :
    Earlier (a :: xs) x y := by
  obtain ⟨before, after, rfl, hbefore, hne⟩ := h
  exact ⟨a :: before, after, rfl, by simp [hy, hbefore], hne⟩

variable [DecidableEq α]

/-- **Each element once**, in the order of the first occurrences. -/
lemma pairwise_earlier_eraseDups (xs : List α) : xs.eraseDups.Pairwise (Earlier xs) := by
  induction h : xs.length using Nat.strong_induction_on generalizing xs with
  | _ n ih =>
      cases xs with
      | nil => simp
      | cons a xs =>
          rw [List.eraseDups_cons, List.pairwise_cons]
          have hlength : (xs.filter fun b => !b == a).length < n := by
            rw [← h, List.length_cons]
            exact Nat.lt_succ_of_le (List.length_filter_le _ _)
          have hne : ∀ y ∈ (xs.filter fun b => !b == a).eraseDups, y ≠ a := by
            intro y hy
            simpa using (List.mem_filter.mp (List.mem_eraseDups.mp hy)).2
          constructor
          · intro y hy
            exact ⟨[], xs, rfl, List.not_mem_nil, hne y hy⟩
          · refine (ih _ hlength _ rfl).imp_of_mem ?_
            intro x y _ hy hxy
            exact (hxy.of_filter (by simpa using hne y hy)).cons (hne y hy)

lemma nodup_eraseDups (xs : List α) : xs.eraseDups.Nodup := by
  refine (pairwise_earlier_eraseDups xs).imp ?_
  rintro x y ⟨_, _, _, _, hne⟩
  exact hne.symm

end Foundation
