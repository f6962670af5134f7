import Mathlib
import Updater.Result

/-! What a result keeps of its steps. A stream is kept as its tail: the one suffix of the text
with as many characters as the bound allows, nothing for an empty text (`trimLogTail_eq_some_iff`).
Characters are whole Unicode scalar values, so the cut never falls inside one. The duration of
an interrupted run adds the steps' durations as 64-bit words: it is their total modulo `2 ^ 64`,
the total itself while that fits in a word and wrapped around past it (`interrupted_result`). -/

namespace Updater

theorem drop_length_sub_eq_iff {α : Type} (l t : List α) (n : Nat) :
    l.drop (l.length - n) = t ↔ t <:+ l ∧ t.length = min n l.length := by
  constructor
  · rintro rfl
    exact ⟨List.drop_suffix _ _, by simp only [List.length_drop]; omega⟩
  · rintro ⟨hsuf, hlen⟩
    rw [List.suffix_iff_eq_drop.mp hsuf, hlen]
    congr 1
    omega

theorem exists_append_eq_iff_suffix (s t : String) :
    (∃ p, p ++ t = s) ↔ t.toList <:+ s.toList := by
  constructor
  · rintro ⟨p, rfl⟩
    exact ⟨p.toList, String.toList_append.symm⟩
  · rintro ⟨l, hl⟩
    refine ⟨String.ofList l, String.ext ?_⟩
    rw [String.toList_append, String.toList_ofList, hl]

theorem trimLogTail_eq_none_iff (s : String) (n : Nat) : trimLogTail s n = none ↔ s = "" := by
  by_cases hs : s = "" <;> simp [trimLogTail, hs]

theorem trimLogTail_eq_some_iff (s t : String) (n : Nat) :
    trimLogTail s n = some t ↔
      s ≠ "" ∧ (∃ p, p ++ t = s) ∧ t.length = min n s.length := by
  by_cases hs : s = ""
  · simp [trimLogTail, hs]
  -- on a non-empty text the tail is the drop on characters, which the list lemma describes
  have hkeep : trimLogTail s n = some (String.ofList (s.toList.drop (s.length - n))) := by
    simp [trimLogTail, hs, String.length_toList]
  rw [hkeep, Option.some.injEq, ← String.toList_inj, String.toList_ofList,
    ← String.length_toList, drop_length_sub_eq_iff, exists_append_eq_iff_suffix,
    ← String.length_toList (s := t)]
  simp [hs]

/-- The tail of a text: nothing exactly for the empty text, and otherwise the suffix holding
its last `n` characters, or the whole text when it has fewer. -/
theorem trimLogTail_keeps_end (s : String) (n : Nat) :
    (trimLogTail s n = none ↔ s = "") ∧
      ∀ t, trimLogTail s n = some t ↔
        s ≠ "" ∧ (∃ p, p ++ t = s) ∧ t.length = min n s.length :=
  ⟨trimLogTail_eq_none_iff s n, fun t => trimLogTail_eq_some_iff s t n⟩

example : trimLogTail "✓✓✓✗" 2 = some "✓✗" := by decide

theorem toNat_foldl_add_durations (acc : UInt64) (steps : List StepResult) :
    (steps.foldl (fun total s => total + s.durationMs.toUInt64) acc).toNat =
      (acc.toNat + (steps.map StepResult.durationMs).sum) % 2 ^ 64 := by
  induction steps generalizing acc with
  | nil => simp [Nat.mod_eq_of_lt acc.toNat_lt]
  | cons s steps ih =>
    rw [List.foldl_cons, ih, UInt64.toNat_add, List.map_cons, List.sum_cons]
    simp only [Nat.toUInt64_eq, UInt64.toNat_ofNat']
    omega

theorem interrupted_durationMs (root : String) (steps : List StepResult) :
    (RunResult.interrupted root steps).durationMs =
      (steps.map StepResult.durationMs).sum % 2 ^ 64 := by
  simp [RunResult.interrupted, toNat_foldl_add_durations]

/-- An interrupted run is an error of mode other with reason `interrupted`, no versions and the
given steps, and it exits with 1. Its duration is the steps' total modulo `2 ^ 64`: the total
while it is below `2 ^ 64`, and wrapped around, not held at the largest word, past it. -/
theorem interrupted_result (root : String) (steps : List StepResult) :
    RunResult.interrupted root steps =
      { status := .error, mode := .other, root := root, reason := some reasonInterrupted,
        before := {}, after := {}, steps := steps,
        durationMs := (steps.map StepResult.durationMs).sum % 2 ^ 64 } ∧
      (RunResult.interrupted root steps).exitCode = 1 := by
  refine ⟨?_, rfl⟩
  rw [← interrupted_durationMs root steps]
  rfl

/-- A step of the largest word and one of a millisecond: their total `2 ^ 64` wraps to zero,
where a saturating total would be the largest word. -/
theorem interrupted_total_wraps_to_zero :
    2 ^ 64 ≤ (List.map StepResult.durationMs
        [{ name := "a", command := "a", durationMs := 2 ^ 64 - 1 },
          { name := "b", command := "b", durationMs := 1 }]).sum ∧
      (RunResult.interrupted "/x" [{ name := "a", command := "a", durationMs := 2 ^ 64 - 1 },
        { name := "b", command := "b", durationMs := 1 }]).durationMs ≠ 2 ^ 64 - 1 := by
  refine ⟨by decide, ?_⟩
  rw [interrupted_durationMs]
  decide

end Updater
