import Mathlib.Data.List.DropRight
import Updater.Text.Blank

/-! Trimming as two list operations: blanks dropped from the front (`dropBlank`), then from the
back (`rdropWhile`). What is left starts with a character that is not blank, so trimming twice
is trimming once (`trimChars_trimChars`), and a character that is not blank shields whatever
stands before it from the back trim (`trimChars_append_cons`). -/

namespace Updater.Text

theorem trimChars_eq_rdropWhile (cs : List Char) :
    trimChars cs = (dropBlank cs).rdropWhile isBlank := rfl

theorem toList_trim (s : String) : (trim s).toList = trimChars s.toList := by
  simp [trim]

theorem dropBlank_trimChars (cs : List Char) : dropBlank (trimChars cs) = trimChars cs := by
  rw [trimChars_eq_rdropWhile cs]
  obtain ⟨rest, hrest⟩ := List.rdropWhile_prefix (p := isBlank) (l := dropBlank cs)
  cases ht : (dropBlank cs).rdropWhile isBlank with
  | nil => rfl
  | cons c t =>
    -- the back trim keeps a prefix, so `c` is where the front blanks end
    rw [ht, List.cons_append] at hrest
    have hd : cs.dropWhile isBlank = c :: (t ++ rest) := hrest.symm
    have hne : cs.dropWhile isBlank ≠ [] := by simp [hd]
    have hnot := List.head_dropWhile_not isBlank hne
    simp only [hd, List.head_cons] at hnot
    simp [dropBlank, hnot]

theorem trimChars_trimChars (cs : List Char) : trimChars (trimChars cs) = trimChars cs := by
  rw [trimChars_eq_rdropWhile (trimChars cs), dropBlank_trimChars, trimChars_eq_rdropWhile,
    List.rdropWhile_idempotent]

theorem rdropWhile_append_cons (l m : List Char) {x : Char} (hx : isBlank x = false) :
    (l ++ x :: m).rdropWhile isBlank = l ++ x :: m.rdropWhile isBlank := by
  simp only [List.rdropWhile, List.reverse_append, List.reverse_cons, List.append_assoc,
    List.cons_append, List.nil_append, List.dropWhile_append]
  split
  · next hm =>
    have hnil : m.reverse.dropWhile isBlank = [] := List.isEmpty_iff.mp hm
    simp [hx, hnil]
  · simp

theorem trimChars_append_cons {n : List Char} (m : List Char) {x : Char}
    (hn : trimChars n = n) (hne : n ≠ []) (hx : isBlank x = false) :
    trimChars (n ++ x :: m) = n ++ x :: m.rdropWhile isBlank := by
  have hfront : dropBlank n = n := by
    rw [← hn, dropBlank_trimChars]
  have hkeep : dropBlank (n ++ x :: m) = n ++ x :: m := by
    rw [dropBlank, List.dropWhile_append, ← dropBlank, hfront]
    simp [hne]
  rw [trimChars_eq_rdropWhile, hkeep, rdropWhile_append_cons _ _ hx]

end Updater.Text
