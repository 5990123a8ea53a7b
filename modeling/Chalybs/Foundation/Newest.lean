import Mathlib.Data.List.DropRight
import Mathlib.Tactic.Common

/-!
# The newest entries of a log

A log that grows at its end and keeps so many of its newest entries, which is `List.rtake`, and
portions of what it keeps.

* `rtake_rtake_append` — what is kept does not depend on what was dropped before.
* `portion` — the entries from one position to another; `map_snd_portion` reads off their numbers.
-/

namespace Foundation

variable {α : Type*}

lemma length_rtake (n : ℕ) (xs : List α) : (xs.rtake n).length = min n xs.length := by
  rw [List.rtake, List.length_drop]
  omega

lemma rtake_suffix (n : ℕ) (xs : List α) : xs.rtake n <:+ xs :=
  List.drop_suffix _ xs

lemma rtake_of_length_le {n : ℕ} {xs : List α} (h : xs.length ≤ n) : xs.rtake n = xs := by
  rw [List.rtake, Nat.sub_eq_zero_of_le h, List.drop_zero]

/-- **The newest entries** of a log that has dropped some of the others are those of the whole
log. -/
theorem rtake_rtake_append (n : ℕ) (xs ys : List α) :
    (xs.rtake n ++ ys).rtake n = (xs ++ ys).rtake n := by
  have hdrop : xs.rtake n ++ ys = (xs ++ ys).drop (xs.length - n) := by
    rw [List.rtake, List.drop_append_of_le_length (Nat.sub_le _ _)]
  rw [hdrop, List.rtake, List.drop_drop, List.rtake]
  congr 1
  simp only [List.length_drop, List.length_append]
  omega

/-- The entries from `start` up to `stop`. -/
def portion (start stop : ℕ) (xs : List α) : List α := (xs.take stop).drop start

/-- A portion of a numbered log has the numbers from its first on. -/
lemma map_snd_portion {start stop : ℕ} {xs : List α} (h : stop ≤ xs.length) (k : ℕ) :
    (portion start stop (xs.zipIdx k)).map Prod.snd = List.range' (k + start) (stop - start) := by
  rw [portion, List.map_drop, List.map_take, List.zipIdx_map_snd, List.take_range'_of_length_ge h,
    List.drop_range', Nat.mul_one]

end Foundation
