import EventForge.Text.Basic
import Mathlib.Data.List.Nodup

/-!
# The order of texts

Comparison by code points is a linear order, so sorting gives a list that is in order and that
depends on the multiset of its entries only, as long as equal texts are the same entry.
-/

namespace EventForge.Text

@[simp] theorem le_nil_left (text : Text) : le [] text = true := by
  simp [le]

theorem le_cons_cons (first second : CodePoint) (firsts seconds : Text) :
    le (first :: firsts) (second :: seconds) = true ↔
      first.val < second.val ∨ first = second ∧ le firsts seconds = true := by
  simp [le, Fin.ext_iff]

theorem le_refl (text : Text) : le text text = true := by
  induction text with
  | nil => rfl
  | cons point rest ih => exact (le_cons_cons _ _ _ _).mpr (Or.inr ⟨rfl, ih⟩)

theorem le_total (first second : Text) : (le first second || le second first) = true := by
  induction first generalizing second with
  | nil => simp
  | cons firstPoint firsts ih =>
      cases second with
      | nil => simp
      | cons secondPoint seconds =>
          simp only [Bool.or_eq_true, le_cons_cons]
          rcases Nat.lt_trichotomy firstPoint.val secondPoint.val with less | same | more
          · exact Or.inl (Or.inl less)
          · have samePoint : firstPoint = secondPoint := Fin.ext same
            subst samePoint
            simpa using ih seconds
          · exact Or.inr (Or.inl more)

theorem le_trans (first second third : Text) (lower : le first second = true)
    (upper : le second third = true) : le first third = true := by
  induction first generalizing second third with
  | nil => simp
  | cons firstPoint firsts ih =>
      cases second with
      | nil => simp [le] at lower
      | cons secondPoint seconds =>
          cases third with
          | nil => simp [le] at upper
          | cons thirdPoint thirds =>
              rw [le_cons_cons] at lower upper ⊢
              rcases lower with less | ⟨rfl, lowerRest⟩
              · rcases upper with less' | ⟨rfl, _⟩
                · exact Or.inl (Nat.lt_trans less less')
                · exact Or.inl less
              · rcases upper with less' | ⟨rfl, upperRest⟩
                · exact Or.inl less'
                · exact Or.inr ⟨rfl, ih seconds thirds lowerRest upperRest⟩

theorem le_antisymm (first second : Text) (lower : le first second = true)
    (upper : le second first = true) : first = second := by
  induction first generalizing second with
  | nil =>
      cases second with
      | nil => rfl
      | cons point rest => simp [le] at upper
  | cons firstPoint firsts ih =>
      cases second with
      | nil => simp [le] at lower
      | cons secondPoint seconds =>
          rw [le_cons_cons] at lower upper
          rcases lower with less | ⟨rfl, lowerRest⟩
          · rcases upper with more | ⟨rfl, _⟩
            · exact absurd less (Nat.lt_asymm more)
            · exact absurd less (Nat.lt_irrefl _)
          · rcases upper with more | ⟨_, upperRest⟩
            · exact absurd more (Nat.lt_irrefl _)
            · rw [ih seconds lowerRest upperRest]

/-- Entries sorted by the text that a key gives them are in the order of these texts. -/
theorem sortBy_pairwise {Entry : Type} (key : Entry → Text) (entries : List Entry) :
    ((entries.mergeSort fun first second => le (key first) (key second)).map key).Pairwise
      fun first second => le first second = true := by
  rw [List.pairwise_map]
  exact List.pairwise_mergeSort
    (fun first second third => le_trans (key first) (key second) (key third))
    (fun first second => le_total (key first) (key second)) entries

/-- Sorting does not depend on the order in which entries with distinct keys are given. -/
theorem sortBy_eq_of_perm {Entry : Type} (key : Entry → Text) {first second : List Entry}
    (perm : first.Perm second) (distinct : (first.map key).Nodup) :
    (first.mergeSort fun one other => le (key one) (key other)) =
      second.mergeSort fun one other => le (key one) (key other) := by
  have sorted (entries : List Entry) :
      (entries.mergeSort fun one other => le (key one) (key other)).Pairwise
        fun one other => le (key one) (key other) = true :=
    List.pairwise_map.mp (sortBy_pairwise key entries)
  have firstPerm := List.mergeSort_perm first fun one other => le (key one) (key other)
  have secondPerm := List.mergeSort_perm second fun one other => le (key one) (key other)
  refine List.Perm.eq_of_pairwise ?_ (sorted first) (sorted second)
    (firstPerm.trans (perm.trans secondPerm.symm))
  intro one other member otherMember lower upper
  exact List.inj_on_of_nodup_map distinct (firstPerm.mem_iff.mp member)
    (perm.mem_iff.mpr (secondPerm.mem_iff.mp otherMember)) (le_antisymm _ _ lower upper)

end EventForge.Text
