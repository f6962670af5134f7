import Updater.Version.SemVer

/-! Version precedence as an order. Pre-release identifiers put numbers first, by value, and text
after; pre-releases compare identifier by identifier, a proper prefix first, and no pre-release is
greatest of all (`SemVer.comparePre_eq`). Versions compare by the three numbers in turn and then
the pre-release (`SemVer.precedence`). That is what `SemVer.compare` does to versions without
build metadata (`SemVer.compare_eq_precedence`), and on them it is a total order: reflexive,
antisymmetric and transitive. -/

namespace Updater

open Std

namespace PreIdent

theorem compare_swap (a b : PreIdent) : PreIdent.compare a b = (PreIdent.compare b a).swap := by
  cases a <;> cases b <;> simp only [PreIdent.compare, Ordering.swap_lt, Ordering.swap_gt]
  all_goals exact OrientedOrd.eq_swap

instance : OrientedCmp PreIdent.compare where
  eq_swap := compare_swap _ _

instance : TransCmp PreIdent.compare where
  isLE_trans {a b c} hab hbc := by
    cases a <;> cases b <;> cases c <;> simp only [PreIdent.compare] at hab hbc ⊢
    all_goals first | exact TransOrd.isLE_trans hab hbc | rfl | simp at hab hbc

instance : LawfulEqCmp PreIdent.compare where
  compare_self := ReflCmp.compare_self
  eq_of_compare {a b} h := by
    cases a <;> cases b <;> simp only [PreIdent.compare, reduceCtorEq] at h
    · rw [LawfulEqOrd.eq_of_compare h]
    · rw [LawfulEqOrd.eq_of_compare h]

end PreIdent

namespace SemVer

theorem compareLists_eq_compareLex {α : Type} (cmp : α → α → Ordering) :
    compareLists cmp = List.compareLex cmp := by
  funext as bs
  induction as generalizing bs with
  | nil => cases bs <;> rfl
  | cons a as ih =>
    cases bs with
    | nil => rfl
    | cons b bs => rw [compareLists, List.compareLex_cons_cons, ih]

theorem comparePre_eq :
    comparePre = compareLex (compareOn List.isEmpty) (List.compareLex PreIdent.compare) := by
  funext as bs
  cases as <;> cases bs <;> simp only [comparePre, compareLists_eq_compareLex] <;> rfl

instance : OrientedCmp comparePre := by
  rw [comparePre_eq]
  infer_instance

instance : TransCmp comparePre := by
  rw [comparePre_eq]
  infer_instance

instance : LawfulEqCmp comparePre where
  compare_self := ReflCmp.compare_self
  eq_of_compare {as bs} h := by
    rw [comparePre_eq, compareLex_eq_eq] at h
    exact LawfulEqCmp.eq_of_compare h.2

def byPre (a b : SemVer) : Ordering := comparePre a.pre b.pre

instance : OrientedCmp byPre where
  eq_swap {a b} := @OrientedCmp.eq_swap _ comparePre _ a.pre b.pre

instance : TransCmp byPre where
  isLE_trans {a b c} := @TransCmp.isLE_trans _ comparePre _ a.pre b.pre c.pre

def precedence : SemVer → SemVer → Ordering :=
  compareLex (compareOn major) <| compareLex (compareOn minor) <| compareLex (compareOn patch) byPre

instance : TransCmp precedence := by
  unfold precedence
  infer_instance

section BuildFree

variable {a b c : SemVer}

theorem compare_eq_precedence (ha : a.build = []) (hb : b.build = []) :
    SemVer.compare a b = precedence a b := by
  simp only [SemVer.compare, precedence, compareLex, compareOn, byPre, ha, hb, compareLists,
    Ordering.then_eq]

theorem compare_self_of_build (ha : a.build = []) : SemVer.compare a a = .eq := by
  rw [compare_eq_precedence ha ha]
  exact ReflCmp.compare_self

theorem compare_swap_of_build (ha : a.build = []) (hb : b.build = []) :
    SemVer.compare b a = (SemVer.compare a b).swap := by
  rw [compare_eq_precedence hb ha, compare_eq_precedence ha hb]
  exact OrientedCmp.eq_swap

theorem compare_trans_of_build (ha : a.build = []) (hb : b.build = []) (hc : c.build = [])
    (hab : SemVer.compare a b ≠ .gt) (hbc : SemVer.compare b c ≠ .gt) :
    SemVer.compare a c ≠ .gt := by
  rw [compare_eq_precedence ha hb] at hab
  rw [compare_eq_precedence hb hc] at hbc
  rw [compare_eq_precedence ha hc]
  exact Ordering.isLE_iff_ne_gt.mp
    (TransCmp.isLE_trans (Ordering.isLE_iff_ne_gt.mpr hab) (Ordering.isLE_iff_ne_gt.mpr hbc))

theorem eq_of_compare_eq (ha : a.build = []) (hb : b.build = [])
    (h : SemVer.compare a b = .eq) : a = b := by
  rw [compare_eq_precedence ha hb] at h
  simp only [precedence, compareLex_eq_eq, compareOn, byPre, LawfulEqCmp.compare_eq_iff_eq] at h
  obtain ⟨hmajor, hminor, hpatch, hpre⟩ := h
  cases a
  cases b
  simp_all

theorem eq_of_compare_ne_gt (ha : a.build = []) (hb : b.build = [])
    (hab : SemVer.compare a b ≠ .gt) (hba : SemVer.compare b a ≠ .gt) : a = b := by
  rw [compare_swap_of_build ha hb, ne_eq, Ordering.swap_eq_gt] at hba
  apply eq_of_compare_eq ha hb
  cases h : SemVer.compare a b
  · exact absurd h hba
  · rfl
  · exact absurd h hab

end BuildFree

end SemVer

end Updater
