import Mathlib
import Updater.Availability
import Updater.Version.Target

/-! The leading `major.minor.patch` of a version text, as a rule on the text (`LeadingCore`):
blanks, at most one `v`, then three runs of ASCII digits joined by dots, the last run not followed
by a decimal digit of any script, each run denoting a number below 2^64. `triple?` reads exactly
that triple (`triple?_eq_some_iff`), so the rule names at most one triple per text, and two
versions compare as their triples do in lexicographic order when both have one, and not at all
otherwise (`compareCoarse_by_triples`). The downgrade rule and the availability report are read
off the same triples. -/

namespace Updater

namespace Text

theorem isBlank_of_isDigit {c : Char} (h : c.isDigit = true) : isBlank c = false := by
  simp only [Char.isDigit, Bool.and_eq_true, decide_eq_true_eq] at h
  have h0 : 0x30 ≤ c.toNat := h.1
  have h1 : c.toNat ≤ 0x39 := h.2
  simp only [isBlank, Bool.or_eq_false_iff, Bool.and_eq_false_iff, decide_eq_false_iff_not,
    beq_eq_false_iff_ne, ne_eq]
  omega

theorem dropBlank_append {W R : List Char} (hW : ∀ c ∈ W, isBlank c = true)
    (hR : ∀ c ∈ R.head?, isBlank c = false) : dropBlank (W ++ R) = R := by
  rw [dropBlank, List.dropWhile_append_of_pos hW]
  cases R with
  | nil => rfl
  | cons c R => simp [hR c (by simp)]

end Text

namespace Version

open Text

/-! ### The rule -/

def decimalValue (ds : List Char) : ℕ :=
  Nat.ofDigits 10 (ds.reverse.map fun c => c.toNat - '0'.toNat)

def IsPart (ds : List Char) (n : ℕ) : Prop :=
  ds ≠ [] ∧ (∀ c ∈ ds, c.isDigit = true) ∧ n = decimalValue ds ∧ n < 2 ^ 64

/-- The text `s` begins with the core version `t`: blanks `W`, an optional `v`, and the parts
`D₁.D₂.D₃`, where `D₃` is followed by no decimal digit of any script. -/
def LeadingCore (s : String) (t : ℕ × ℕ × ℕ) : Prop :=
  ∃ W v D₁ D₂ D₃ R, s.toList = W ++ v ++ D₁ ++ '.' :: D₂ ++ '.' :: D₃ ++ R ∧
    (∀ c ∈ W, isBlank c = true) ∧ (v = [] ∨ v = ['v']) ∧
    IsPart D₁ t.1 ∧ IsPart D₂ t.2.1 ∧ IsPart D₃ t.2.2 ∧ ∀ c ∈ R.head?, isDecimalDigit c = false

def lexTriple (t : ℕ × ℕ × ℕ) : ℕ ×ₗ ℕ ×ₗ ℕ := toLex (t.1, toLex t.2)

/-! ### Digit runs and their values -/

theorem digitRun_append {D R : List Char} (hD : ∀ c ∈ D, isDecimalDigit c = true)
    (hR : ∀ c ∈ R.head?, isDecimalDigit c = false) : digitRun (D ++ R) = (D, R) := by
  have hrest : R.takeWhile isDecimalDigit = [] ∧ R.dropWhile isDecimalDigit = R := by
    cases R with
    | nil => exact ⟨rfl, rfl⟩
    | cons c R => simp [hR c (by simp)]
  simp [digitRun, List.takeWhile_append_of_pos hD, List.dropWhile_append_of_pos hD, hrest]

theorem digitRun_snd_head (cs : List Char) :
    ∀ c ∈ (digitRun cs).2.head?, isDecimalDigit c = false := by
  intro c hc
  have hne : cs.dropWhile isDecimalDigit ≠ [] := by
    intro h
    simp [digitRun, h] at hc
  have hhead := List.head_dropWhile_not isDecimalDigit hne
  simp only [digitRun, List.head?_eq_some_head hne, Option.mem_def, Option.some.injEq] at hc
  rw [← hc]
  simpa using hhead

theorem foldl_digits (ds : List Char) (a : ℕ) :
    ds.foldl (fun acc d => acc * 10 + (d.toNat - '0'.toNat)) a =
      a * 10 ^ ds.length + decimalValue ds := by
  induction ds generalizing a with
  | nil => simp [decimalValue]
  | cons d ds ih =>
    rw [List.foldl_cons, ih]
    simp only [decimalValue, List.reverse_cons, List.map_append, Nat.ofDigits_append,
      List.length_map, List.length_reverse, List.length_cons, List.map_cons, List.map_nil,
      Nat.ofDigits_singleton, pow_succ]
    ring

theorem partValue?_eq_some_iff (ds : List Char) (n : ℕ) :
    partValue? ds = some n ↔ (∀ c ∈ ds, c.isDigit = true) ∧ n = decimalValue ds ∧ n < 2 ^ 64 := by
  have hv := foldl_digits ds 0
  simp only [zero_mul, zero_add] at hv
  by_cases hall : ds.all Char.isDigit = true
  · have hall' : ∀ c ∈ ds, c.isDigit = true := List.all_eq_true.mp hall
    simp only [partValue?, hall, if_true, hv, Nat.pow_eq]
    split <;> constructor
    · rintro ⟨⟩
      exact ⟨hall', rfl, by assumption⟩
    · rintro ⟨-, rfl, -⟩
      rfl
    · rintro ⟨⟩
    · rintro ⟨-, rfl, hlt⟩
      contradiction
  · simp only [partValue?, hall, Bool.false_eq_true, if_false, reduceCtorEq, false_iff]
    rintro ⟨hall', -⟩
    exact hall (List.all_eq_true.mpr hall')

/-! ### Reading the rule -/

theorem eq_append_dropV (cs : List Char) : ∃ v, (v = [] ∨ v = ['v']) ∧ cs = v ++ dropV cs := by
  unfold dropV
  split
  · exact ⟨['v'], .inr rfl, rfl⟩
  · exact ⟨[], .inl rfl, rfl⟩

theorem tripleRuns?_spec {s : String} {a b c : List Char} (h : tripleRuns? s = some (a, b, c)) :
    ∃ W v R, s.toList = W ++ v ++ a ++ '.' :: b ++ '.' :: c ++ R ∧ (∀ x ∈ W, isBlank x = true) ∧
      (v = [] ∨ v = ['v']) ∧ a ≠ [] ∧ b ≠ [] ∧ c ≠ [] ∧ ∀ x ∈ R.head?, isDecimalDigit x = false := by
  obtain ⟨v, hv, hcs⟩ := eq_append_dropV (dropBlank s.toList)
  simp only [tripleRuns?] at h
  generalize dropV (dropBlank s.toList) = cs at h hcs
  -- a run, a dot, a run, a dot and the last run; each match that fails gives none
  split at h
  · next r₁ h₁ =>
    split at h
    · next r₂ h₂ =>
      split_ifs at h with hne
      simp only [Option.some.injEq, Prod.mk.injEq] at h
      obtain ⟨ha', hb', hc'⟩ := h
      simp only [Bool.or_eq_true, List.isEmpty_iff, not_or] at hne
      obtain ⟨⟨ha, hb⟩, hc⟩ := hne
      refine ⟨s.toList.takeWhile isBlank, v, (digitRun r₂).2, ?_,
        fun x hx => List.mem_takeWhile_imp hx, hv, ha' ▸ ha, hb' ▸ hb, hc' ▸ hc,
        digitRun_snd_head r₂⟩
      have hcs' : cs = a ++ '.' :: r₁ := by
        rw [← ha', ← h₁]
        exact List.takeWhile_append_dropWhile.symm
      have hr₁ : r₁ = b ++ '.' :: r₂ := by
        rw [← hb', ← h₂]
        exact List.takeWhile_append_dropWhile.symm
      have hr₂ : r₂ = c ++ (digitRun r₂).2 := by
        rw [← hc']
        exact List.takeWhile_append_dropWhile.symm
      generalize (digitRun r₂).2 = R at hr₂ ⊢
      calc s.toList = s.toList.takeWhile isBlank ++ dropBlank s.toList :=
            List.takeWhile_append_dropWhile.symm
        _ = _ := by rw [hcs, hcs', hr₁, hr₂]; simp
    · cases h
  · cases h

theorem leadingCore_of_triple? {s : String} {t : ℕ × ℕ × ℕ} (h : triple? s = some t) :
    LeadingCore s t := by
  cases hr : tripleRuns? s with
  | none => simp [triple?, hr] at h
  | some runs =>
    obtain ⟨a, b, c⟩ := runs
    obtain ⟨W, v, R, hs, hW, hv, ha, hb, hc, hR⟩ := tripleRuns?_spec hr
    -- each part must have a value
    cases hx : partValue? a <;> cases hy : partValue? b <;> cases hz : partValue? c <;>
      simp [triple?, hr, hx, hy, hz] at h
    subst h
    rw [partValue?_eq_some_iff] at hx hy hz
    exact ⟨W, v, a, b, c, R, hs, hW, hv, ⟨ha, hx⟩, ⟨hb, hy⟩, ⟨hc, hz⟩, hR⟩

theorem IsPart.isDecimalDigit {ds : List Char} {n : ℕ} (h : IsPart ds n) :
    ∀ c ∈ ds, isDecimalDigit c = true := fun c hc => isDecimalDigit_of_isDigit (h.2.1 c hc)

theorem IsPart.head {ds : List Char} {n : ℕ} (h : IsPart ds n) :
    ∃ d r, ds = d :: r ∧ d.isDigit = true := by
  obtain ⟨hne, hdig, -⟩ := h
  obtain ⟨d, r, rfl⟩ := List.exists_cons_of_ne_nil hne
  exact ⟨d, r, rfl, hdig d (by simp)⟩

theorem triple?_of_leadingCore {s : String} {t : ℕ × ℕ × ℕ} (h : LeadingCore s t) :
    triple? s = some t := by
  obtain ⟨W, v, D₁, D₂, D₃, R, hs, hW, hv, h₁, h₂, h₃, hR⟩ := h
  obtain ⟨d, r, hD₁, hd⟩ := h₁.head
  have hdot : isDecimalDigit '.' = false := by decide
  -- after the blanks comes the `v`, or the first digit
  have hdrop : dropBlank s.toList = v ++ (D₁ ++ '.' :: (D₂ ++ '.' :: (D₃ ++ R))) := by
    rw [hs]
    simp only [List.append_assoc, List.cons_append]
    apply dropBlank_append hW
    rcases hv with rfl | rfl
    · simp [hD₁, isBlank_of_isDigit hd]
    · simp only [List.cons_append, List.nil_append, List.head?_cons, Option.mem_def,
        Option.some.injEq, forall_eq']
      decide
  have hstrip : dropV (v ++ (D₁ ++ '.' :: (D₂ ++ '.' :: (D₃ ++ R)))) =
      D₁ ++ '.' :: (D₂ ++ '.' :: (D₃ ++ R)) := by
    rcases hv with rfl | rfl
    · rw [hD₁]
      have hdv : d ≠ 'v' := by
        rintro rfl
        exact absurd hd (by decide)
      simp only [List.nil_append, List.cons_append, dropV]
      split
      · next heq => exact absurd (List.cons.inj heq).1 hdv
      · rfl
    · rfl
  -- each run stops at the dot after it, the last at the first character that is no digit
  have e₃ : digitRun (D₃ ++ R) = (D₃, R) := digitRun_append h₃.isDecimalDigit hR
  have e₂ : digitRun (D₂ ++ '.' :: (D₃ ++ R)) = (D₂, '.' :: (D₃ ++ R)) :=
    digitRun_append h₂.isDecimalDigit (by simp [hdot])
  have e₁ : digitRun (D₁ ++ '.' :: (D₂ ++ '.' :: (D₃ ++ R))) =
      (D₁, '.' :: (D₂ ++ '.' :: (D₃ ++ R))) :=
    digitRun_append h₁.isDecimalDigit (by simp [hdot])
  have hp₁ := (partValue?_eq_some_iff D₁ t.1).mpr h₁.2
  have hp₂ := (partValue?_eq_some_iff D₂ t.2.1).mpr h₂.2
  have hp₃ := (partValue?_eq_some_iff D₃ t.2.2).mpr h₃.2
  simp [triple?, tripleRuns?, hdrop, hstrip, e₁, e₂, e₃, List.isEmpty_iff, h₁.1, h₂.1, h₃.1,
    hp₁, hp₂, hp₃]

theorem triple?_eq_some_iff (s : String) (t : ℕ × ℕ × ℕ) : triple? s = some t ↔ LeadingCore s t :=
  ⟨leadingCore_of_triple?, triple?_of_leadingCore⟩

example : triple? " v1.2.3x" = some (1, 2, 3) ∧ triple? "1.2.3\u0663" = none := by decide

theorem LeadingCore.unique {s : String} {t t' : ℕ × ℕ × ℕ} (h : LeadingCore s t)
    (h' : LeadingCore s t') : t = t' :=
  Option.some.inj ((triple?_of_leadingCore h).symm.trans (triple?_of_leadingCore h'))

/-! ### Comparing by the rule -/

theorem compare_lexTriple (t u : ℕ × ℕ × ℕ) :
    compare (lexTriple t) (lexTriple u) =
      (compare t.1 u.1).then ((compare t.2.1 u.2.1).then (compare t.2.2 u.2.2)) := rfl

theorem compareCoarse_eq_some_iff (a b : String) (o : Ordering) :
    compareCoarse a b = some o ↔
      ∃ ta tb, LeadingCore a ta ∧ LeadingCore b tb ∧ compare (lexTriple ta) (lexTriple tb) = o := by
  simp only [← triple?_eq_some_iff]
  cases ha : triple? a with
  | none => simp [compareCoarse, ha]
  | some ta =>
    cases hb : triple? b with
    | none => simp [compareCoarse, ha, hb]
    | some tb => simp [compareCoarse, ha, hb, compare_lexTriple]

theorem compareCoarse_eq_none_iff (a b : String) :
    compareCoarse a b = none ↔ (∀ t, ¬LeadingCore a t) ∨ ∀ t, ¬LeadingCore b t := by
  simp only [← triple?_eq_some_iff, ← Option.eq_none_iff_forall_ne_some]
  cases ha : triple? a <;> cases hb : triple? b <;> simp [compareCoarse, ha, hb]

theorem needsConfirmation_eq_true_iff (current target : Option String) (fellBack : Bool) :
    needsConfirmation current target fellBack = true ↔ fellBack = false ∧ ∃ c, current = some c ∧
      (target = none ∨ ∃ v tc tv, target = some v ∧ LeadingCore c tc ∧ LeadingCore v tv ∧
        lexTriple tv < lexTriple tc) := by
  cases fellBack with
  | true => simp [needsConfirmation]
  | false =>
    rcases current with _ | c
    · simp [needsConfirmation]
    · rcases target with _ | v
      · simp [needsConfirmation]
      · simp [needsConfirmation, compareCoarse_eq_some_iff, compare_gt_iff_gt]

theorem Availability.of_eq_available_iff (current latest : Option String) (v : String) :
    Availability.of current latest = .available v ↔ ∃ c, current = some c ∧ latest = some v ∧
      ∃ tc tv, LeadingCore c tc ∧ LeadingCore v tv ∧ lexTriple tc < lexTriple tv := by
  rcases current with _ | c
  · simp [Availability.of]
  · rcases latest with _ | l
    · simp [Availability.of]
    · -- only a comparison that came out `lt` reports a newer version, the published one
      have hof : Availability.of (some c) (some l) = .available v ↔
          compareCoarse c l = some .lt ∧ l = v := by
        unfold Availability.of
        cases h : compareCoarse c l with
        | none => simp [h]
        | some o => cases o <;> simp [h]
      rw [hof, compareCoarse_eq_some_iff]
      simp only [compare_lt_iff_lt, Option.some.injEq, exists_eq_left']
      constructor
      · rintro ⟨htr, rfl⟩
        exact ⟨rfl, htr⟩
      · rintro ⟨rfl, htr⟩
        exact ⟨htr, rfl⟩

/-- Two versions compare by their leading `major.minor.patch` as the rule reads it: the rule names
at most one triple per text; when both texts have one, the comparison is that of the triples in
lexicographic order, and when either has none there is no comparison. Hence a confirmation is
needed, without a fallback, exactly when the installed version is known and the target is unknown
or has an older triple, and a newer version is available exactly when the installed triple is
older than the published one. -/
theorem compareCoarse_by_triples :
    (∀ s t t', LeadingCore s t → LeadingCore s t' → t = t') ∧
    (∀ a b ta tb, LeadingCore a ta → LeadingCore b tb →
      compareCoarse a b = some (compare (lexTriple ta) (lexTriple tb))) ∧
    (∀ a b, ((∀ t, ¬LeadingCore a t) ∨ ∀ t, ¬LeadingCore b t) → compareCoarse a b = none) ∧
    (∀ current target fellBack, needsConfirmation current target fellBack = true ↔
      fellBack = false ∧ ∃ c, current = some c ∧
        (target = none ∨ ∃ v tc tv, target = some v ∧ LeadingCore c tc ∧ LeadingCore v tv ∧
          lexTriple tv < lexTriple tc)) ∧
    (∀ current latest v, Availability.of current latest = .available v ↔
      ∃ c, current = some c ∧ latest = some v ∧
        ∃ tc tv, LeadingCore c tc ∧ LeadingCore v tv ∧ lexTriple tc < lexTriple tv) :=
  ⟨fun _ _ _ => LeadingCore.unique,
    fun a b ta tb ha hb => (compareCoarse_eq_some_iff a b _).mpr ⟨ta, tb, ha, hb, rfl⟩,
    fun a b h => (compareCoarse_eq_none_iff a b).mpr h,
    needsConfirmation_eq_true_iff, Availability.of_eq_available_iff⟩

end Version

end Updater
