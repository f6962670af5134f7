import Mathlib.Data.String.Basic
import Updater.Toml.Value

/-! Canonical values.

A value is canonical when the entries of each of its tables are sorted by key (`Value.canon`
sorts them). Every value of a document is canonical (`canon_toValue`), so two documents that
say the same thing have one value.

Sorting by key is a stable merge sort, so it commutes with keeping the entries that a test picks
(`filter_sortByName`) and leaves a sorted list alone (`sortByName_of_sorted`). -/

namespace Updater.Toml

/-! ## Sorting by key -/

def keyLE {α : Type} (a b : String × α) : Bool := decide (a.1 ≤ b.1)

theorem keyLE_trans {α : Type} (a b c : String × α) (hab : keyLE a b) (hbc : keyLE b c) :
    keyLE a c := by
  simp only [keyLE, decide_eq_true_eq] at *
  exact le_trans hab hbc

theorem keyLE_total {α : Type} (a b : String × α) : (keyLE a b || keyLE b a) = true := by
  simp only [keyLE, Bool.or_eq_true, decide_eq_true_eq]
  exact le_total _ _

theorem sortByName_eq_mergeSort {α : Type} (es : List (String × α)) :
    sortByName es = es.mergeSort keyLE := rfl

theorem sorted_sortByName {α : Type} (es : List (String × α)) :
    (sortByName es).Pairwise (fun a b => a.1 ≤ b.1) :=
  (List.pairwise_mergeSort keyLE_trans keyLE_total es).imp fun h => by simpa [keyLE] using h

theorem sortByName_of_sorted {α : Type} {es : List (String × α)}
    (h : es.Pairwise (fun a b => a.1 ≤ b.1)) : sortByName es = es :=
  List.mergeSort_of_pairwise (h.imp fun h => by simpa [keyLE] using h)

@[simp] theorem sortByName_sortByName {α : Type} (es : List (String × α)) :
    sortByName (sortByName es) = sortByName es :=
  sortByName_of_sorted (sorted_sortByName es)

@[simp] theorem mem_sortByName {α : Type} {e : String × α} {es : List (String × α)} :
    e ∈ sortByName es ↔ e ∈ es :=
  List.mem_mergeSort

theorem takeWhile_append_of_head {α : Type} (q : α → Bool) (A B : List α) (hA : ∀ x ∈ A, q x)
    (hB : ∀ x ∈ B.head?, q x = false) : (A ++ B).takeWhile q = A := by
  rw [List.takeWhile_append_of_pos hA]
  cases B with
  | nil => simp
  | cons b B => simp [hB b rfl]

theorem filter_mergeSort {α : Type} (p : String × α → Bool) (l : List (String × α)) :
    (l.mergeSort keyLE).filter p = (l.filter p).mergeSort keyLE := by
  induction l with
  | nil => simp
  | cons a l ih =>
    obtain ⟨l₁, l₂, h₁, h₂, h₃⟩ := List.mergeSort_cons keyLE_trans keyLE_total a l
    -- everything after `a` in the sorted list is at least `a`
    have hafter : ∀ b ∈ l₂, keyLE a b := by
      have hs := List.pairwise_mergeSort keyLE_trans keyLE_total (a :: l)
      rw [h₁] at hs
      exact fun b hb => List.rel_of_pairwise_cons (List.pairwise_append.mp hs).2.1 hb
    rw [h₁, List.filter_append, List.filter_cons]
    rw [h₂, List.filter_append] at ih
    by_cases hp : p a
    · obtain ⟨m₁, m₂, k₁, k₂, k₃⟩ := List.mergeSort_cons keyLE_trans keyLE_total a (l.filter p)
      have hafter' : ∀ b ∈ m₂, keyLE a b := by
        have hs := List.pairwise_mergeSort keyLE_trans keyLE_total (a :: l.filter p)
        rw [k₁] at hs
        exact fun b hb => List.rel_of_pairwise_cons (List.pairwise_append.mp hs).2.1 hb
      rw [List.filter_cons_of_pos hp, k₁]
      -- both splits put exactly the entries below `a` first
      have hsplit : l₁.filter p = m₁ := by
        have e₁ := takeWhile_append_of_head (fun b => !keyLE a b) (l₁.filter p) (l₂.filter p)
          (fun b hb => by simpa using h₃ b (List.mem_of_mem_filter hb))
          (fun b hb => by
            simpa using hafter b (List.mem_of_mem_filter (List.mem_of_mem_head? hb)))
        have e₂ := takeWhile_append_of_head (fun b => !keyLE a b) m₁ m₂
          (fun b hb => by simpa using k₃ b hb)
          (fun b hb => by simpa using hafter' b (List.mem_of_mem_head? hb))
        rw [← e₁, ← e₂, ih, k₂]
      have hrest : l₂.filter p = m₂ := by
        have := ih.trans k₂
        rw [hsplit] at this
        exact List.append_cancel_left this
      simp [hp, hsplit, hrest]
    · rw [List.filter_cons_of_neg hp, ← ih]
      simp [hp]

theorem filter_sortByName {α : Type} (p : String × α → Bool) (es : List (String × α)) :
    (sortByName es).filter p = sortByName (es.filter p) :=
  filter_mergeSort p es

/-! ## Canonical values -/

mutual

def Value.canon : Value → Value
  | .array items => .array (canonItems items)
  | .table es => .table (sortByName (canonEntries es))
  | v => v

def canonItems : List Value → List Value
  | [] => []
  | v :: rest => v.canon :: canonItems rest

def canonEntries : List (String × Value) → List (String × Value)
  | [] => []
  | (k, v) :: rest => (k, v.canon) :: canonEntries rest

end

theorem canonEntries_eq_map (es : List (String × Value)) :
    canonEntries es = es.map fun e => (e.1, e.2.canon) := by
  induction es with
  | nil => rfl
  | cons e es ih => simp [canonEntries, ih]

theorem canonEntries_sortByName (es : List (String × Value)) :
    canonEntries (sortByName es) = sortByName (canonEntries es) := by
  simp only [canonEntries_eq_map, sortByName_eq_mergeSort]
  exact List.map_mergeSort fun _ _ _ _ => rfl

mutual

theorem canon_toValue : (n : Node) → n.toValue.canon = n.toValue
  | .scalar v .. => by cases v <;> rfl
  | .array items .. => by
    simp only [Node.toValue, Value.canon, canonItems_nodesToValues items]
  | .inline es .. => by
    simp only [Node.toValue, Value.canon, canonEntries_sortByName, canonEntries_entriesToValues es,
      sortByName_sortByName]
  | .table es .. => by
    simp only [Node.toValue, Value.canon, canonEntries_sortByName, canonEntries_entriesToValues es,
      sortByName_sortByName]
  | .tables items _ => by
    simp only [Node.toValue, Value.canon, canonItems_nodesToValues items]

theorem canonItems_nodesToValues : (ns : List Node) → canonItems (nodesToValues ns) = nodesToValues ns
  | [] => rfl
  | n :: rest => by
    simp only [nodesToValues, canonItems, canon_toValue n, canonItems_nodesToValues rest]

theorem canonEntries_entriesToValues :
    (es : List (Key × Node)) → canonEntries (entriesToValues es) = entriesToValues es
  | [] => rfl
  | (k, n) :: rest => by
    simp only [entriesToValues, canonEntries, canon_toValue n, canonEntries_entriesToValues rest]

end

mutual

theorem canon_canon : (v : Value) → v.canon.canon = v.canon
  | .array items => by simp only [Value.canon, canonItems_canonItems items]
  | .table es => by
    simp only [Value.canon, canonEntries_sortByName, canonEntries_canonEntries es, sortByName_sortByName]
  | .string _ | .integer _ | .float _ | .boolean _ | .datetime _ => rfl

theorem canonItems_canonItems : (vs : List Value) → canonItems (canonItems vs) = canonItems vs
  | [] => rfl
  | v :: rest => by simp only [canonItems, canon_canon v, canonItems_canonItems rest]

theorem canonEntries_canonEntries :
    (es : List (String × Value)) → canonEntries (canonEntries es) = canonEntries es
  | [] => rfl
  | (k, v) :: rest => by simp only [canonEntries, canon_canon v, canonEntries_canonEntries rest]

end

theorem canon_table_entries {es : List (String × Value)} (h : (Value.table es).canon = .table es) :
    es.Pairwise (fun a b => a.1 ≤ b.1) ∧ ∀ e ∈ es, e.2.canon = e.2 := by
  have hes : sortByName (canonEntries es) = es := by
    simpa [Value.canon] using h
  refine ⟨hes ▸ sorted_sortByName _, fun e he => ?_⟩
  rw [← hes, mem_sortByName, canonEntries_eq_map, List.mem_map] at he
  obtain ⟨e', -, rfl⟩ := he
  exact canon_canon e'.2

end Updater.Toml
