import Updater.Install.Manager
import Updater.Proofs.Trimming

/-! The package an install spec names. A spec is trimmed; a scoped name keeps its leading `@`, and
whatever follows the next `@` (a version, a range or a tag) is dropped. So the name read from a
spec is a prefix of the trimmed spec with no `@` after its first character, and a package name
with no blanks around it is read back from `<name>@<anything>` and from itself
(`packageNameOfSpec_names`). This is what makes the global install of `<name>@<tag>` and the
directory looked up for it agree on the package. -/

namespace Updater

open Text

/-- A package name: a plain one, not empty and without `@`, or a scoped one, `@` followed by
text without `@`. -/
def IsPackageName (n : String) : Prop :=
  (n ≠ "" ∧ '@' ∉ n.toList) ∨ ∃ rest, n.toList = '@' :: rest ∧ '@' ∉ rest

theorem toList_packageNameOfSpec (spec : String) :
    (packageNameOfSpec spec).toList =
      if (trimChars spec.toList).head? = some '@' then
        '@' :: ((trimChars spec.toList).drop 1).takeWhile (· != '@')
      else (trimChars spec.toList).takeWhile (· != '@') := by
  have htrim : ((spec.toList.dropWhile packageNameOfSpec.isBlank).reverse.dropWhile
      packageNameOfSpec.isBlank).reverse = trimChars spec.toList := rfl
  simp only [packageNameOfSpec, htrim, beq_iff_eq]
  split <;> simp

theorem packageNameOfSpec_prefix (spec : String) :
    (packageNameOfSpec spec).toList <+: trimChars spec.toList ∧
      '@' ∉ (packageNameOfSpec spec).toList.drop 1 := by
  rw [toList_packageNameOfSpec]
  split
  · next hat =>
    -- a scoped spec: its `@`, then the text up to the next `@`
    obtain ⟨body, hbody⟩ : ∃ body, trimChars spec.toList = '@' :: body := by
      cases h : trimChars spec.toList with
      | nil => simp [h] at hat
      | cons c body => simp only [h, List.head?_cons, Option.some.injEq] at hat; exact ⟨body, hat ▸ rfl⟩
    rw [hbody]
    refine ⟨(List.prefix_cons_inj '@').mpr (List.takeWhile_prefix _), ?_⟩
    intro hmem
    simpa using List.mem_takeWhile_imp hmem
  · refine ⟨List.takeWhile_prefix _, fun hmem => ?_⟩
    simpa using List.mem_takeWhile_imp (List.mem_of_mem_drop hmem)

theorem packageNameOfSpec_of_trimChars {spec n : String} {m : List Char} (hn : IsPackageName n)
    (hm : ∀ c ∈ m.head?, c = '@') (hspec : trimChars spec.toList = n.toList ++ m) :
    packageNameOfSpec spec = n := by
  -- what follows the name contributes nothing before its first `@`
  have hstop : m.takeWhile (· != '@') = [] := by
    cases m with
    | nil => rfl
    | cons c m => simp [hm c rfl]
  apply String.toList_injective
  rw [toList_packageNameOfSpec, hspec]
  rcases hn with ⟨hne, hplain⟩ | ⟨rest, hscope, hrest⟩
  · have hfree : ∀ c ∈ n.toList, (c != '@') = true := by
      intro c hc
      have hc' : c ≠ '@' := by
        rintro rfl
        exact hplain hc
      simpa using hc'
    have hhead : (n.toList ++ m).head? ≠ some '@' := by
      cases h : n.toList with
      | nil => exact absurd (String.toList_eq_nil_iff.mp h) hne
      | cons c cs =>
        have hc : c ≠ '@' := fun hc => hplain (by rw [h, hc]; exact List.mem_cons_self)
        simpa using hc
    rw [if_neg hhead, List.takeWhile_append_of_pos hfree, hstop, List.append_nil]
  · have hfree : ∀ c ∈ rest, (c != '@') = true := by
      intro c hc
      have hc' : c ≠ '@' := by
        rintro rfl
        exact hrest hc
      simpa using hc'
    rw [hscope, List.cons_append, List.head?_cons, if_pos rfl, List.drop_one, List.tail_cons,
      List.takeWhile_append_of_pos hfree, hstop, List.append_nil]

theorem IsPackageName.ne_nil {n : String} (hn : IsPackageName n) : n.toList ≠ [] := by
  rcases hn with ⟨hne, -⟩ | ⟨rest, hscope, -⟩
  · simpa using hne
  · simp [hscope]

/-- The package an install spec names: a package name `n` with no blanks around it is read from
`n@v` whatever `v` is, and from `n` itself; and whatever the spec, what is read is a prefix of
the trimmed spec with no `@` after its first character. -/
theorem packageNameOfSpec_names :
    (∀ n : String, IsPackageName n → trim n = n → ∀ v : String,
      packageNameOfSpec (n ++ "@" ++ v) = n ∧ packageNameOfSpec n = n) ∧
    ∀ spec : String, (packageNameOfSpec spec).toList <+: trimChars spec.toList ∧
      '@' ∉ (packageNameOfSpec spec).toList.drop 1 := by
  refine ⟨fun n hn htrim v => ?_, packageNameOfSpec_prefix⟩
  have hn' : trimChars n.toList = n.toList := by
    rw [← toList_trim, htrim]
  have hat : isBlank '@' = false := by decide
  constructor
  · -- the `@` after the name is not blank, so trimming stops short of the name
    apply packageNameOfSpec_of_trimChars hn (m := '@' :: v.toList.rdropWhile isBlank) (by simp)
    have hsep : "@".toList = ['@'] := rfl
    rw [String.toList_append, String.toList_append, hsep, List.append_assoc, List.singleton_append]
    exact trimChars_append_cons _ hn' hn.ne_nil hat
  · exact packageNameOfSpec_of_trimChars hn (m := []) (by simp) (by rw [hn', List.append_nil])

/-- A scoped plugin package is read back from its spec with a version range. -/
theorem scoped_spec_names_package :
    IsPackageName "@openclaw/voice-call" ∧ trim "@openclaw/voice-call" = "@openclaw/voice-call" ∧
      packageNameOfSpec ("@openclaw/voice-call" ++ "@" ++ "^1.2.0") = "@openclaw/voice-call" := by
  have hn : IsPackageName "@openclaw/voice-call" :=
    .inr ⟨"openclaw/voice-call".toList, by decide, by decide⟩
  have ht : trim "@openclaw/voice-call" = "@openclaw/voice-call" := by decide
  exact ⟨hn, ht, (packageNameOfSpec_names.1 _ hn ht "^1.2.0").1⟩

end Updater
