import Mathlib.Data.List.Basic
import Mathlib.Order.BoundedOrder.Basic
import Mathlib.Order.Lattice
import Mathlib.Tactic.Common

/-!
# The first largest candidate of a scan

A loop that keeps the best candidate so far, and gives it up only for one with a strictly larger
score, ends with the first of those that have the largest score.  Which one that is depends on the
order of the candidates if several have it.

* `keepBest`, `firstBest` — a turn of the loop, and what it ends with.
* `Leads` — a candidate that no other one beats.
* `firstBest_eq_some` — the first candidate that leads.
* `firstBest_filterMap_perm_iff` — when the order does not matter.
-/

namespace Foundation

variable {α κ σ : Type*} [LinearOrder σ]

/-- One turn of the loop: a candidate with a strictly larger score replaces the best one so far. -/
def keepBest (best : Option κ × σ) (c : κ × σ) : Option κ × σ :=
  if best.2 < c.2 then (some c.1, c.2) else best

/-- **The loop** keeps what it starts with, or ends with the first of the largest candidates. -/
lemma foldl_keepBest (best : Option κ × σ) (cs : List (κ × σ)) :
    (cs.foldl keepBest best = best ∧ ∀ c ∈ cs, c.2 ≤ best.2) ∨
      ∃ before c after, cs = before ++ c :: after ∧ cs.foldl keepBest best = (some c.1, c.2) ∧
        best.2 < c.2 ∧ (∀ d ∈ before, d.2 < c.2) ∧ ∀ d ∈ after, d.2 ≤ c.2 := by
  induction cs generalizing best with
  | nil => exact .inl ⟨rfl, by simp⟩
  | cons c cs ih =>
      rw [List.foldl_cons, keepBest]
      split_ifs with hbetter
      · rcases ih (some c.1, c.2) with
          ⟨heq, hle⟩ | ⟨before, d, after, hcs, heq, hlt, hbefore, hafter⟩
        · exact .inr ⟨[], c, cs, rfl, heq, hbetter, by simp, hle⟩
        · refine .inr ⟨c :: before, d, after, by rw [hcs]; rfl, heq, hbetter.trans hlt, ?_, hafter⟩
          exact List.forall_mem_cons.mpr ⟨hlt, hbefore⟩
      · rcases ih best with
          ⟨heq, hle⟩ | ⟨before, d, after, hcs, heq, hlt, hbefore, hafter⟩
        · exact .inl ⟨heq, List.forall_mem_cons.mpr ⟨not_lt.mp hbetter, hle⟩⟩
        · refine .inr ⟨c :: before, d, after, by rw [hcs]; rfl, heq, hlt, ?_, hafter⟩
          exact List.forall_mem_cons.mpr ⟨(not_lt.mp hbetter).trans_lt hlt, hbefore⟩

variable [OrderBot σ]

/-- What the loop ends with if it starts without a candidate, at the lowest score. -/
def firstBest (cs : List (κ × σ)) : Option κ := (cs.foldl keepBest (none, ⊥)).1

/-- A candidate of the list with a score above the lowest, and as large as any other one. -/
structure Leads (cs : List (κ × σ)) (c : κ × σ) : Prop where
  mem : c ∈ cs
  pos : ⊥ < c.2
  le : ∀ d ∈ cs, d.2 ≤ c.2

/-- A candidate that leads, and the first one to do so. -/
def LeadsFirst (cs : List (κ × σ)) (c : κ × σ) : Prop :=
  ⊥ < c.2 ∧ ∃ before after, cs = before ++ c :: after ∧ (∀ d ∈ before, d.2 < c.2) ∧
    ∀ d ∈ after, d.2 ≤ c.2

variable {cs : List (κ × σ)} {c : κ × σ} {k : κ}

lemma LeadsFirst.leads (h : LeadsFirst cs c) : Leads cs c := by
  obtain ⟨hpos, before, after, rfl, hbefore, hafter⟩ := h
  refine ⟨by simp, hpos, fun d hd => ?_⟩
  rcases List.mem_append.mp hd with hd | hd
  · exact (hbefore d hd).le
  · rcases List.mem_cons.mp hd with rfl | hd
    · exact le_rfl
    · exact hafter d hd

/-- No candidate is found only if all have the lowest score. -/
lemma firstBest_eq_none : firstBest cs = none ↔ ∀ c ∈ cs, c.2 = ⊥ := by
  rcases foldl_keepBest ((none, ⊥) : Option κ × σ) cs with
    ⟨heq, hle⟩ | ⟨before, c, after, hcs, heq, hpos, -, -⟩
  · exact iff_of_true (by rw [firstBest, heq]) fun c hc => le_bot_iff.mp (hle c hc)
  · have hmem : c ∈ cs := by simp [hcs]
    exact iff_of_false (by simp [firstBest, heq]) fun hall => hpos.ne' (hall c hmem)

/-- **The candidate that is found** is the first one that leads. -/
theorem firstBest_eq_some : firstBest cs = some k ↔ ∃ c, LeadsFirst cs c ∧ c.1 = k := by
  constructor
  · intro h
    rcases foldl_keepBest ((none, ⊥) : Option κ × σ) cs with
      ⟨heq, -⟩ | ⟨before, c, after, hcs, heq, hpos, hbefore, hafter⟩
    · simp [firstBest, heq] at h
    · refine ⟨c, ⟨hpos, before, after, hcs, hbefore, hafter⟩, ?_⟩
      simpa [firstBest, heq] using h
  · rintro ⟨c, ⟨hpos, before, after, rfl, hbefore, hafter⟩, rfl⟩
    rw [firstBest, List.foldl_append, List.foldl_cons]
    have hstart : (before.foldl keepBest ((none, ⊥) : Option κ × σ)).2 < c.2 := by
      rcases foldl_keepBest ((none, ⊥) : Option κ × σ) before with
        ⟨heq, -⟩ | ⟨front, d, back, hfront, heq, -⟩
      · rwa [heq]
      · rw [heq]
        exact hbefore d (by simp [hfront])
    rw [keepBest, if_pos hstart]
    rcases foldl_keepBest (some c.1, c.2) after with ⟨heq, -⟩ | ⟨front, d, back, hback, -, hlt, -⟩
    · rw [heq]
    · exact absurd hlt (hafter d (by simp [hback])).not_gt

lemma exists_leads_of_firstBest (h : firstBest cs = some k) : ∃ c, Leads cs c ∧ c.1 = k := by
  obtain ⟨c, hc, rfl⟩ := firstBest_eq_some.mp h
  exact ⟨c, hc.leads, rfl⟩

lemma Leads.perm {cs' : List (κ × σ)} (h : Leads cs c) (hperm : cs.Perm cs') : Leads cs' c :=
  ⟨hperm.mem_iff.mp h.mem, h.pos, fun d hd => h.le d (hperm.mem_iff.mpr hd)⟩

/-- A candidate that leads is found if it comes first. -/
lemma firstBest_cons_of_leads (h : Leads (c :: cs) c) : firstBest (c :: cs) = some c.1 :=
  firstBest_eq_some.mpr
    ⟨c, ⟨h.pos, [], cs, rfl, by simp, fun d hd => h.le d (List.mem_cons_of_mem _ hd)⟩, rfl⟩

/-- Every candidate that leads is found for some order of the list. -/
lemma exists_perm_firstBest {f : α → Option (κ × σ)} {xs : List α}
    (h : Leads (xs.filterMap f) c) :
    ∃ xs', xs.Perm xs' ∧ firstBest (xs'.filterMap f) = some c.1 := by
  obtain ⟨x, hx, hfx⟩ := List.mem_filterMap.mp h.mem
  obtain ⟨before, after, rfl⟩ := List.append_of_mem hx
  have hperm : (before ++ x :: after).Perm (x :: (before ++ after)) := List.perm_middle
  refine ⟨_, hperm, ?_⟩
  have hlead := h.perm (hperm.filterMap f)
  rw [List.filterMap_cons_some hfx] at hlead ⊢
  exact firstBest_cons_of_leads hlead

/-- **The order does not matter** exactly when all candidates that lead have the same key. -/
theorem firstBest_filterMap_perm_iff {f : α → Option (κ × σ)} {xs : List α} :
    (∀ xs', xs.Perm xs' → firstBest (xs'.filterMap f) = firstBest (xs.filterMap f)) ↔
      ∀ c d, Leads (xs.filterMap f) c → Leads (xs.filterMap f) d → c.1 = d.1 := by
  constructor
  · intro hsame c d hc hd
    obtain ⟨xs₁, hperm₁, hfound₁⟩ := exists_perm_firstBest hc
    obtain ⟨xs₂, hperm₂, hfound₂⟩ := exists_perm_firstBest hd
    rw [hsame xs₁ hperm₁] at hfound₁
    rw [hsame xs₂ hperm₂] at hfound₂
    exact Option.some.inj (hfound₁.symm.trans hfound₂)
  · intro hkey xs' hperm
    have hperm' := hperm.filterMap f
    cases hfound : firstBest (xs.filterMap f) with
    | none =>
        rw [firstBest_eq_none] at hfound ⊢
        exact fun c hc => hfound c (hperm'.mem_iff.mpr hc)
    | some k =>
        obtain ⟨c, hc, rfl⟩ := exists_leads_of_firstBest hfound
        cases hfound' : firstBest (xs'.filterMap f) with
        | none =>
            have hbot := firstBest_eq_none.mp hfound' c (hperm'.mem_iff.mp hc.mem)
            exact absurd hbot hc.pos.ne'
        | some k' =>
            obtain ⟨d, hd, rfl⟩ := exists_leads_of_firstBest hfound'
            rw [hkey d c (hd.perm hperm'.symm) hc]

end Foundation
