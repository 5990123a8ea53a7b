import Mathlib.Data.List.Basic

/-!
# A loop that removes elements of the vector it walks over

An index goes up past every element that stays; an element that does not is removed, and the index
then points to the one after it.

* `sweepFrom`, `sweep` — the loop.
* `retain` — the same in one pass from left to right; `sweep_eq_retain` says that no element is
  missed or visited twice.
* `retain_eq` — what is left when the visits depend on nothing but the element.
-/

namespace Foundation

variable {α σ : Type*}

/-- The loop from index `i`.  A visit says whether the element stays, and what becomes of it. -/
def sweepFrom (visit : α → σ → Bool × α × σ) (i : ℕ) (xs : List α) (s : σ) : List α × σ :=
  if h : i < xs.length then
    let (stays, x, s) := visit xs[i] s
    if stays then sweepFrom visit (i + 1) (xs.set i x) s
    else sweepFrom visit i (xs.eraseIdx i) s
  else (xs, s)
termination_by xs.length - i
decreasing_by
  · rw [List.length_set]
    omega
  · rw [List.length_eraseIdx_of_lt h]
    omega

/-- The loop. -/
def sweep (visit : α → σ → Bool × α × σ) : List α → σ → List α × σ := sweepFrom visit 0

/-- Every element is visited once, from left to right. -/
def retain (visit : α → σ → Bool × α × σ) : List α → σ → List α × σ
  | [], s => ([], s)
  | x :: xs, s =>
      let (stays, x, s) := visit x s
      let (ys, s) := retain visit xs s
      (if stays then x :: ys else ys, s)

variable {visit : α → σ → Bool × α × σ}

/-- The loop is done with the elements before the index, and visits those after it. -/
lemma sweepFrom_append (pre rest : List α) (s : σ) :
    sweepFrom visit pre.length (pre ++ rest) s =
      (pre ++ (retain visit rest s).1, (retain visit rest s).2) := by
  induction rest generalizing pre s with
  | nil =>
      rw [sweepFrom, dif_neg (by simp)]
      simp [retain]
  | cons x rest ih =>
      have hlt : pre.length < (pre ++ x :: rest).length := by simp
      have hget : (pre ++ x :: rest)[pre.length] = x := by simp
      rw [sweepFrom, dif_pos hlt, hget, retain]
      cases hvisit : visit x s with
      | mk stays r =>
          obtain ⟨x', s'⟩ := r
          simp only
          cases stays with
          | true =>
              have hset : (pre ++ x :: rest).set pre.length x' = (pre ++ [x']) ++ rest := by
                simp
              have hnext := ih (pre ++ [x']) s'
              rw [List.length_append, List.length_singleton] at hnext
              rw [if_pos rfl, if_pos rfl, hset, hnext, List.append_assoc]
              rfl
          | false =>
              have herase : (pre ++ x :: rest).eraseIdx pre.length = pre ++ rest := by
                rw [List.eraseIdx_append_of_length_le (Nat.le_refl _), Nat.sub_self,
                  List.eraseIdx_cons_zero]
              rw [if_neg (by simp), if_neg (by simp), herase]
              exact ih pre s'

/-- **The loop visits every element once**, from left to right. -/
theorem sweep_eq_retain (xs : List α) (s : σ) : sweep visit xs s = retain visit xs s :=
  sweepFrom_append [] xs s

/-- **Those that stay** keep their order.  The visits read and write the state, but what becomes of
an element depends on nothing else. -/
theorem retain_eq {stays : α → Bool} {next : α → α} {step : σ → α → σ}
    (hvisit : ∀ x s, visit x s = (stays x, next x, step s x)) (xs : List α) (s : σ) :
    retain visit xs s = ((xs.filter stays).map next, xs.foldl step s) := by
  induction xs generalizing s with
  | nil => rfl
  | cons x xs ih =>
      simp only [retain, hvisit, ih]
      cases hstays : stays x with
      | true => simp [hstays]
      | false => simp [hstays]

end Foundation
