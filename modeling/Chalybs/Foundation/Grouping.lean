import Mathlib.Data.List.Basic
import Mathlib.Data.List.Induction
import Mathlib.Data.List.Nodup

/-!
# Grouping a list by a partial key

`groupOn key xs` collects the elements of `xs` that have a key into one bucket for each key, the
way a program fills a map of vectors with `entry(key).or_default().push(x)`.  The fact that
callers need is `mem_groupOn`: the bucket of `k` is exactly the sublist of the elements with key
`k`, and only keys that occur have a bucket.  The order of the buckets carries no meaning.

`lastOn key xs k` is what a map filled by `insert(key(x), x)` holds for `k`.
-/

namespace Foundation

variable {α κ : Type*} [DecidableEq κ]

/-- Append `x` to the bucket of `k`, opening the bucket when there is none. -/
def pushGroup (k : κ) (x : α) : List (κ × List α) → List (κ × List α)
  | [] => [(k, [x])]
  | (k', xs) :: gs => if k' = k then (k', xs ++ [x]) :: gs else (k', xs) :: pushGroup k x gs

/-- The bucket of `k`, if there is one. -/
def findGroup (gs : List (κ × List α)) (k : κ) : Option (List α) :=
  (gs.find? fun g => decide (g.1 = k)).map Prod.snd

/-- Group the elements that have a key; the others are left out. -/
def groupOn (key : α → Option κ) (xs : List α) : List (κ × List α) :=
  xs.foldl (fun gs x => match key x with
    | some k => pushGroup k x gs
    | none => gs) []

/-- A list of buckets that holds, for each key, exactly the elements of `xs` with that key. -/
structure Groups (key : α → Option κ) (xs : List α) (gs : List (κ × List α)) : Prop where
  keys_nodup : (gs.map Prod.fst).Nodup
  mem_iff : ∀ k ms, (k, ms) ∈ gs ↔ ms ≠ [] ∧ ms = xs.filter fun x => decide (key x = some k)

lemma mem_keys_pushGroup (k k' : κ) (x : α) (gs : List (κ × List α)) :
    k' ∈ (pushGroup k x gs).map Prod.fst ↔ k' = k ∨ k' ∈ gs.map Prod.fst := by
  induction gs with
  | nil => simp [pushGroup]
  | cons g gs ih =>
      obtain ⟨k₀, xs⟩ := g
      by_cases h : k₀ = k
      · simp [pushGroup, h]
      · simp only [pushGroup, h, if_false, List.map_cons, List.mem_cons, ih]
        tauto

lemma nodup_keys_pushGroup (k : κ) (x : α) {gs : List (κ × List α)}
    (h : (gs.map Prod.fst).Nodup) : ((pushGroup k x gs).map Prod.fst).Nodup := by
  induction gs with
  | nil => simp [pushGroup]
  | cons g gs ih =>
      obtain ⟨k₀, xs⟩ := g
      simp only [List.map_cons, List.nodup_cons] at h
      by_cases hk : k₀ = k
      · simpa [pushGroup, hk] using h
      · simp only [pushGroup, hk, if_false, List.map_cons, List.nodup_cons]
        refine ⟨?_, ih h.2⟩
        rw [mem_keys_pushGroup]
        rintro (rfl | hmem)
        · exact hk rfl
        · exact h.1 hmem

/-- What `pushGroup` does to the buckets: the one of `k` gains `x` at its end, the others stay. -/
lemma mem_pushGroup {k k' : κ} {x : α} {ms : List α} {gs : List (κ × List α)}
    (h : (gs.map Prod.fst).Nodup) :
    (k', ms) ∈ pushGroup k x gs ↔
      if k' = k then
        (∃ xs, (k, xs) ∈ gs ∧ ms = xs ++ [x]) ∨ (k ∉ gs.map Prod.fst ∧ ms = [x])
      else (k', ms) ∈ gs := by
  induction gs with
  | nil =>
      by_cases hk : k' = k
      · simp [pushGroup, hk]
      · simp [pushGroup, hk]
  | cons g gs ih =>
      obtain ⟨k₀, ys⟩ := g
      simp only [List.map_cons, List.nodup_cons] at h
      have ih := ih h.2
      by_cases h₀ : k₀ = k
      · subst h₀
        have hno : ∀ zs, (k₀, zs) ∉ gs := fun zs hz => h.1 (List.mem_map.mpr ⟨_, hz, rfl⟩)
        by_cases hk : k' = k₀
        · subst hk
          simp [pushGroup, hno]
        · simp [pushGroup, hk]
      · by_cases hk : k' = k
        · subst hk
          rw [if_pos rfl] at ih ⊢
          have hne : ¬ k' = k₀ := fun h' => h₀ h'.symm
          simp only [pushGroup, h₀, if_false, List.mem_cons, Prod.mk.injEq, hne, false_and,
            false_or, ih, List.map_cons]
        · rw [if_neg hk] at ih ⊢
          simp only [pushGroup, h₀, if_false, List.mem_cons, ih]

lemma Groups.nil (key : α → Option κ) : Groups key [] [] :=
  ⟨List.nodup_nil, by simp⟩

/-- An element without a key changes no bucket. -/
lemma Groups.skip {key : α → Option κ} {xs : List α} {gs : List (κ × List α)} {x : α}
    (h : Groups key xs gs) (hx : key x = none) : Groups key (xs ++ [x]) gs := by
  refine ⟨h.keys_nodup, fun k ms => ?_⟩
  rw [h.mem_iff, List.filter_append]
  simp [hx]

/-- An element with key `k` goes to the end of the bucket of `k`. -/
lemma Groups.push {key : α → Option κ} {xs : List α} {gs : List (κ × List α)} {x : α} {k : κ}
    (h : Groups key xs gs) (hx : key x = some k) :
    Groups key (xs ++ [x]) (pushGroup k x gs) := by
  refine ⟨nodup_keys_pushGroup k x h.keys_nodup, fun k' ms => ?_⟩
  rw [mem_pushGroup h.keys_nodup, List.filter_append]
  by_cases hk : k' = k
  · subst hk
    have hkeys : k' ∈ gs.map Prod.fst ↔ (xs.filter fun y => decide (key y = some k')) ≠ [] := by
      simp only [List.mem_map, Prod.exists, exists_and_right, exists_eq_right, h.mem_iff]
      constructor
      · rintro ⟨zs, hz, hzs⟩
        exact hzs ▸ hz
      · intro hz
        exact ⟨_, hz, rfl⟩
    simp only [if_true, hkeys, h.mem_iff, List.filter_cons, hx, decide_true, List.filter_nil]
    constructor
    · rintro (⟨zs, ⟨-, rfl⟩, rfl⟩ | ⟨hnil, rfl⟩)
      · exact ⟨by simp, rfl⟩
      · rw [not_not] at hnil
        exact ⟨by simp, by simp [hnil]⟩
    · rintro ⟨-, rfl⟩
      by_cases hnil : (xs.filter fun y => decide (key y = some k')) = []
      · exact Or.inr ⟨by simp [hnil], by simp [hnil]⟩
      · exact Or.inl ⟨_, ⟨hnil, rfl⟩, rfl⟩
  · have hne : ¬ k = k' := fun h' => hk h'.symm
    rw [if_neg hk, h.mem_iff]
    simp [hx, hne]

theorem groups_groupOn (key : α → Option κ) (xs : List α) : Groups key xs (groupOn key xs) := by
  induction xs using List.reverseRecOn with
  | nil => exact Groups.nil key
  | append_singleton xs x ih =>
      rw [groupOn, List.foldl_append, ← groupOn]
      cases hx : key x with
      | none => simpa [hx] using ih.skip hx
      | some k => simpa [hx] using ih.push hx

/-- **The bucket of `k` is the sublist of the elements with key `k`.** -/
theorem mem_groupOn {key : α → Option κ} {xs : List α} {k : κ} {ms : List α} :
    (k, ms) ∈ groupOn key xs ↔ ms ≠ [] ∧ ms = xs.filter fun x => decide (key x = some k) :=
  (groups_groupOn key xs).mem_iff k ms

/-- Some bucket has an element with `P` and an element with `Q` exactly when two elements with the
same key do. -/
theorem exists_mixed_group (key : α → Option κ) (xs : List α) (P Q : α → Prop) :
    (∃ g ∈ groupOn key xs, (∃ x ∈ g.2, P x) ∧ ∃ y ∈ g.2, Q y) ↔
      ∃ x ∈ xs, ∃ y ∈ xs, ∃ k, key x = some k ∧ key y = some k ∧ P x ∧ Q y := by
  constructor
  · rintro ⟨⟨k, ms⟩, hg, ⟨x, hx, hP⟩, y, hy, hQ⟩
    obtain ⟨-, rfl⟩ := mem_groupOn.mp hg
    simp only [List.mem_filter, decide_eq_true_eq] at hx hy
    exact ⟨x, hx.1, y, hy.1, k, hx.2, hy.2, hP, hQ⟩
  · rintro ⟨x, hx, y, hy, k, hkx, hky, hP, hQ⟩
    have hmx : x ∈ xs.filter fun z => decide (key z = some k) := by simp [hx, hkx]
    have hmy : y ∈ xs.filter fun z => decide (key z = some k) := by simp [hy, hky]
    exact ⟨(k, _), mem_groupOn.mpr ⟨List.ne_nil_of_mem hmx, rfl⟩, ⟨x, hmx, hP⟩, y, hmy, hQ⟩

/-- The bucket of an element that has a key is found under that key. -/
theorem findGroup_groupOn {key : α → Option κ} {xs : List α} {x : α} {k : κ} (hx : x ∈ xs)
    (hk : key x = some k) :
    findGroup (groupOn key xs) k = some (xs.filter fun y => decide (key y = some k)) := by
  have hmem : (k, xs.filter fun y => decide (key y = some k)) ∈ groupOn key xs :=
    mem_groupOn.mpr ⟨List.ne_nil_of_mem (List.mem_filter.mpr ⟨hx, by simpa using hk⟩), rfl⟩
  have hsome : ((groupOn key xs).find? fun g => decide (g.1 = k)).isSome := by
    rw [List.find?_isSome]
    exact ⟨_, hmem, by simp⟩
  obtain ⟨⟨k', ms⟩, hfind⟩ := Option.isSome_iff_exists.mp hsome
  have hk' : k' = k := by simpa using List.find?_some hfind
  subst hk'
  obtain ⟨-, rfl⟩ := mem_groupOn.mp (List.mem_of_find?_eq_some hfind)
  rw [findGroup, hfind]
  rfl

/-! ## Lookup by key -/

variable {key : α → κ} {xs : List α} {x : α} {k : κ}

/-- When the keys are distinct, the first element with key `k` is the only one. -/
lemma find?_key_eq_some (h : (xs.map key).Nodup) :
    (xs.find? fun x => decide (key x = k)) = some x ↔ x ∈ xs ∧ key x = k := by
  constructor
  · intro hx
    exact ⟨List.mem_of_find?_eq_some hx, by simpa using List.find?_some hx⟩
  · rintro ⟨hx, rfl⟩
    have hsome : (xs.find? fun y => decide (key y = key x)).isSome := by
      rw [List.find?_isSome]
      exact ⟨x, hx, by simp⟩
    obtain ⟨y, hy⟩ := Option.isSome_iff_exists.mp hsome
    have hkey : key y = key x := by simpa using List.find?_some hy
    rw [hy, List.inj_on_of_nodup_map h (List.mem_of_find?_eq_some hy) hx hkey]

/-- What a map holds for `k` after `insert(key x, x)` for every `x` of the list in order. -/
def lastOn (key : α → κ) (xs : List α) (k : κ) : Option α :=
  xs.reverse.find? fun x => decide (key x = k)

lemma mem_of_lastOn (h : lastOn key xs k = some x) : x ∈ xs ∧ key x = k :=
  ⟨List.mem_reverse.mp (List.mem_of_find?_eq_some h), by simpa using List.find?_some h⟩

lemma lastOn_eq_some (h : (xs.map key).Nodup) :
    lastOn key xs k = some x ↔ x ∈ xs ∧ key x = k := by
  rw [lastOn, find?_key_eq_some (by simpa [List.map_reverse] using h), List.mem_reverse]

end Foundation
