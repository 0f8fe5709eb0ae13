import Mathlib.Algebra.BigOperators.Group.List.Basic
import Mathlib.Algebra.Order.Group.Defs
import Mathlib.Data.List.Infix
import Mathlib.Tactic.Abel

/-!
# Fitting a list into a budget

Every item of a list has a weight.  What fits into a budget is the longest prefix whose weights
add up to no more than the budget; a list that does not fit is cut off there and marked.
-/

namespace SakuraTools

section Weights

variable {α M : Type} [AddCommGroup M]

/-- The weight of a list. -/
def totalWeight (weight : α → M) (l : List α) : M := (l.map weight).sum

@[simp] lemma totalWeight_nil (weight : α → M) : totalWeight weight [] = 0 := rfl

@[simp] lemma totalWeight_cons (weight : α → M) (x : α) (l : List α) :
    totalWeight weight (x :: l) = weight x + totalWeight weight l := by
  rw [totalWeight, totalWeight, List.map_cons, List.sum_cons]

lemma totalWeight_append (weight : α → M) (l l' : List α) :
    totalWeight weight (l ++ l') = totalWeight weight l + totalWeight weight l' := by
  rw [totalWeight, totalWeight, totalWeight, List.map_append, List.sum_append]

end Weights

variable {α M : Type} [AddCommGroup M] [LinearOrder M]

/-- The items from the start of a list that fit into a budget. -/
def takeFitting (weight : α → M) : M → List α → List α
  | _, [] => []
  | budget, x :: l =>
    if weight x ≤ budget then x :: takeFitting weight (budget - weight x) l else []

/-- The list `p` is the longest prefix of `l` that fits into the budget. -/
structure LongestFitting (weight : α → M) (budget : M) (l p : List α) : Prop where
  isPrefix : p <+: l
  fits : totalWeight weight p ≤ budget
  longest : ∀ q, q <+: l → totalWeight weight q ≤ budget → q <+: p

/-- A list that fits, or what fits of it and a mark. -/
def elide (weight : α → M) (mark : α) (budget : M) (l : List α) : List α :=
  if totalWeight weight l ≤ budget then l else takeFitting weight budget l ++ [mark]

lemma takeFitting_isPrefix (weight : α → M) (budget : M) (l : List α) :
    takeFitting weight budget l <+: l := by
  induction l generalizing budget with
  | nil => exact List.prefix_rfl
  | cons x l ih =>
    rw [takeFitting]
    split
    · exact List.prefix_cons_inj x |>.mpr (ih _)
    · exact List.nil_prefix

variable {weight : α → M} {budget : M} {l q : List α}

@[simp] lemma elide_nil (mark : α) (hb : 0 ≤ budget) : elide weight mark budget [] = [] :=
  if_pos hb

lemma mem_elide {mark x : α} (hx : x ∈ elide weight mark budget l) : x ∈ l ∨ x = mark := by
  rw [elide] at hx
  split at hx
  next => exact .inl hx
  next =>
    rcases List.mem_append.mp hx with hx | hx
    · exact .inl ((takeFitting_isPrefix weight budget l).mem hx)
    · exact .inr (List.mem_singleton.mp hx)

variable [IsOrderedAddMonoid M]

lemma totalWeight_nonneg (hw : ∀ x, 0 ≤ weight x) (l : List α) : 0 ≤ totalWeight weight l := by
  induction l with
  | nil => exact le_rfl
  | cons x l ih =>
    rw [totalWeight_cons]
    exact add_nonneg (hw x) ih

lemma totalWeight_takeFitting_le (hb : 0 ≤ budget) (l : List α) :
    totalWeight weight (takeFitting weight budget l) ≤ budget := by
  induction l generalizing budget with
  | nil => exact hb
  | cons x l ih =>
    rw [takeFitting]
    split
    next hx =>
      have hrest := ih (sub_nonneg.mpr hx)
      rw [totalWeight_cons]
      exact le_sub_iff_add_le'.mp hrest
    next => exact hb

lemma isPrefix_takeFitting (hw : ∀ x, 0 ≤ weight x) (hq : q <+: l)
    (hfits : totalWeight weight q ≤ budget) : q <+: takeFitting weight budget l := by
  induction l generalizing budget q with
  | nil => exact hq
  | cons x l ih =>
    rcases q with _ | ⟨y, q⟩
    · exact List.nil_prefix
    · obtain ⟨rfl, hrest⟩ := List.cons_prefix_cons.mp hq
      rw [totalWeight_cons] at hfits
      have hy : weight y ≤ budget :=
        (le_add_of_nonneg_right (totalWeight_nonneg hw q)).trans hfits
      rw [takeFitting, if_pos hy]
      exact List.prefix_cons_inj y |>.mpr (ih hrest (le_sub_iff_add_le'.mpr hfits))

/-- What fits is the longest prefix that fits. -/
lemma longestFitting_takeFitting (hw : ∀ x, 0 ≤ weight x) (hb : 0 ≤ budget) (l : List α) :
    LongestFitting weight budget l (takeFitting weight budget l) :=
  ⟨takeFitting_isPrefix weight budget l, totalWeight_takeFitting_le hb l,
    fun _ hq hfits => isPrefix_takeFitting hw hq hfits⟩

/-! ## Cutting off -/

/-- The first item fits. -/
lemma elide_cons_of_le (mark : α) {x : α} (hx : weight x ≤ budget) (l : List α) :
    elide weight mark budget (x :: l) = x :: elide weight mark (budget - weight x) l := by
  have hiff : weight x + totalWeight weight l ≤ budget ↔
      totalWeight weight l ≤ budget - weight x := le_sub_iff_add_le'.symm
  unfold elide
  rw [totalWeight_cons, takeFitting, if_pos hx]
  by_cases hl : totalWeight weight l ≤ budget - weight x
  · rw [if_pos hl, if_pos (hiff.mpr hl)]
  · rw [if_neg hl, if_neg (mt hiff.mp hl), List.cons_append]

/-- The first item does not fit. -/
lemma elide_cons_of_lt (hw : ∀ x, 0 ≤ weight x) (mark : α) {x : α} (hx : budget < weight x)
    (l : List α) : elide weight mark budget (x :: l) = [mark] := by
  have htotal : ¬ weight x + totalWeight weight l ≤ budget := fun h =>
    absurd ((le_add_of_nonneg_right (totalWeight_nonneg hw l)).trans h) hx.not_ge
  rw [elide, totalWeight_cons, if_neg htotal, takeFitting, if_neg hx.not_ge, List.nil_append]

/-- With room for the mark, what is left fits. -/
lemma totalWeight_elide_le (hb : 0 ≤ budget) {mark : α} (hmark : 0 ≤ weight mark)
    (l : List α) : totalWeight weight (elide weight mark budget l) ≤ budget + weight mark := by
  rw [elide]
  split
  next hl => exact hl.trans (le_add_of_nonneg_right hmark)
  next =>
    rw [totalWeight_append, totalWeight_cons, totalWeight_nil, add_zero]
    exact add_le_add_left (totalWeight_takeFitting_le hb l) _

end SakuraTools
