import Mathlib
import Updater.Version.SemVer

/-! How a version is written, and that reading one is strict. A version is written as its three
numbers in decimal, dot-separated, then a hyphen and its pre-release identifiers and a plus sign
and its build identifiers, each list dot-separated and left out when empty (`SemVer.text`). A text
reads as a version only when it is written exactly so (`SemVer.eq_text_of_parse?`): its numbers,
and the numeric identifiers of its pre-release, have no leading zeros. So two texts that read as
one version are one text. -/

namespace Updater.SemVer

def preReleaseText (pre : List PreIdent) : String :=
  if pre = [] then "" else "-" ++ ".".intercalate (pre.map PreIdent.text)

def buildText (build : List String) : String :=
  if build = [] then "" else "+" ++ ".".intercalate build

def text (v : SemVer) : String :=
  toString v.major ++ "." ++ toString v.minor ++ "." ++ toString v.patch ++
    preReleaseText v.pre ++ buildText v.build

/-! ### Numbers -/

theorem toNat_of_isDigit {c : Char} (h : c.isDigit = true) : 48 ≤ c.toNat ∧ c.toNat ≤ 57 := by
  simp only [Char.isDigit, Bool.and_eq_true, decide_eq_true_eq] at h
  exact h

theorem digitChar_of_isDigit {c : Char} (h : c.isDigit = true) :
    Nat.digitChar (c.toNat - '0'.toNat) = c := by
  have hc := toNat_of_isDigit h
  apply Char.toNat_inj.mp
  rw [Nat.toNat_digitChar_of_lt_ten (by simp only [Char.reduceToNat]; omega)]
  simp only [Char.reduceToNat]
  omega

theorem digitsValue_append_singleton (ds : List Char) (d : Char) :
    digitsValue (ds ++ [d]) = 10 * digitsValue ds + (d.toNat - '0'.toNat) := by
  simp only [digitsValue, List.foldl_append, List.foldl_cons, List.foldl_nil]
  omega

theorem toDigits_digitsValue {ds : List Char} (hne : ds ≠ []) (hd : ∀ c ∈ ds, c.isDigit = true)
    (hz : 1 < ds.length → ds.head? ≠ some '0') : Nat.toDigits 10 (digitsValue ds) = ds := by
  induction ds using List.reverseRecOn with
  | nil => contradiction
  | append_singleton ds d ih =>
    have hdd : d.isDigit = true := hd d (by simp)
    have hlt : d.toNat - '0'.toNat < 10 := by
      have := toNat_of_isDigit hdd
      simp only [Char.reduceToNat]
      omega
    rw [digitsValue_append_singleton]
    by_cases hds : ds = []
    · subst hds
      rw [show digitsValue [] = 0 from rfl, Nat.mul_zero, Nat.zero_add, Nat.toDigits_of_lt_base hlt,
        digitChar_of_isDigit hdd, List.nil_append]
    · -- the digits before the last are written as their value, and that value is not zero
      have hhead : ds.head? ≠ some '0' := by
        have h := hz (by simp [List.length_pos_iff.mpr hds])
        rwa [List.head?_append_of_ne_nil _ hds] at h
      have hv := ih hds (fun c hc => hd c (by simp [hc])) (fun _ => hhead)
      have hpos : 0 < digitsValue ds := by
        apply Nat.pos_of_ne_zero
        intro h0
        rw [h0] at hv
        apply hhead
        rw [← hv]
        rfl
      rw [← Nat.toDigits_append_toDigits (by decide) hpos hlt, hv, Nat.toDigits_of_lt_base hlt,
        digitChar_of_isDigit hdd]

theorem numericPart?_eq_some {cs r : List Char} {n : Nat} (h : numericPart? cs = some (n, r)) :
    cs = Nat.toDigits 10 n ++ r := by
  unfold numericPart? at h
  dsimp only at h
  split_ifs at h with hempty hzero hbig
  simp only [Option.some.injEq, Prod.mk.injEq] at h
  obtain ⟨rfl, rfl⟩ := h
  have hne : cs.takeWhile Char.isDigit ≠ [] := by simpa using hempty
  rw [toDigits_digitsValue hne (fun c hc => List.mem_takeWhile_imp hc), List.takeWhile_append_dropWhile]
  intro hlen hhead
  simp_all

/-! ### Identifiers -/

theorem identifiers?_eq_some {strict : Bool} {cs r : List Char} {ids : List String}
    (h : identifiers? strict cs = some (ids, r)) :
    cs = (".".intercalate ids).toList ++ r ∧ ids ≠ [] ∧
      ∀ p ∈ ids, p ≠ "" ∧ (strict = true → p.toList.all Char.isDigit = true → 1 < p.length →
        p.toList.head? ≠ some '0') := by
  unfold identifiers? at h
  dsimp only at h
  split_ifs at h with hbad
  simp only [Option.some.injEq, Prod.mk.injEq] at h
  obtain ⟨rfl, rfl⟩ := h
  refine ⟨?_, ?_, ?_⟩
  · rw [String.toList_intercalate, List.map_map]
    simp [List.intercalate_splitOn, List.takeWhile_append_dropWhile]
  · simp [List.splitOn_ne_nil]
  · intro p hp
    simp only [Bool.or_eq_true, List.any_eq_true, not_or, not_exists, not_and] at hbad
    refine ⟨fun hp' => hbad.1 p hp (by simp [hp']), fun hs hall hlen hhead => hbad.2 p hp ?_⟩
    simp [hs, hall, hlen, hhead]

theorem text_preIdentOfText {p : String} (hne : p ≠ "")
    (hz : p.toList.all Char.isDigit = true → 1 < p.length → p.toList.head? ≠ some '0') :
    (preIdentOfText p).text = p := by
  unfold preIdentOfText
  split
  · next hall =>
    have hne' : p.toList ≠ [] := by simpa using hne
    have hlen : 1 < p.toList.length → p.toList.head? ≠ some '0' := by
      rw [String.length_toList]
      exact hz hall
    rw [PreIdent.text, Nat.toString_eq_repr, Nat.repr_eq_ofList_toDigits,
      toDigits_digitsValue hne' (List.all_eq_true.mp hall) hlen, String.ofList_toList]
  · rfl

/-! ### The parts of a version -/

theorem dot?_eq_some {cs r : List Char} (h : dot? cs = some r) : cs = '.' :: r := by
  unfold dot? at h
  split at h
  · cases h
    rfl
  · cases h

theorem preRelease?_eq_some {cs r : List Char} {pre : List PreIdent}
    (h : preRelease? cs = some (pre, r)) : cs = (preReleaseText pre).toList ++ r := by
  unfold preRelease? at h
  split at h
  · next rest =>
    obtain ⟨⟨ids, r'⟩, hids, hpair⟩ := Option.map_eq_some_iff.mp h
    simp only [Prod.mk.injEq] at hpair
    obtain ⟨rfl, rfl⟩ := hpair
    obtain ⟨hcs, hne, hok⟩ := identifiers?_eq_some hids
    -- each identifier is written back as it was read
    have htexts : (ids.map preIdentOfText).map PreIdent.text = ids := by
      rw [List.map_map]
      conv_rhs => rw [← List.map_id ids]
      apply List.map_congr_left
      intro p hp
      exact text_preIdentOfText (hok p hp).1 ((hok p hp).2 rfl)
    simp [preReleaseText, hne, htexts, hcs]
  · simp only [Option.some.injEq, Prod.mk.injEq] at h
    obtain ⟨rfl, rfl⟩ := h
    simp [preReleaseText]

theorem buildMetadata?_eq_some {cs r : List Char} {build : List String}
    (h : buildMetadata? cs = some (build, r)) : cs = (buildText build).toList ++ r := by
  unfold buildMetadata? at h
  split at h
  · obtain ⟨hcs, hne, -⟩ := identifiers?_eq_some h
    simp [buildText, hne, hcs]
  · simp only [Option.some.injEq, Prod.mk.injEq] at h
    obtain ⟨rfl, rfl⟩ := h
    simp [buildText]

theorem eq_text_of_parse? {s : String} {v : SemVer} (h : parse? s = some v) : s = v.text := by
  simp only [parse?, Option.bind_eq_bind, Option.bind_eq_some_iff] at h
  obtain ⟨⟨major, r₁⟩, h₁, r₂, h₂, ⟨minor, r₃⟩, h₃, r₄, h₄, ⟨patch, r₅⟩, h₅, ⟨pre, r₆⟩, h₆,
    ⟨build, r₇⟩, h₇, h⟩ := h
  dsimp only at h₂ h₄ h₆ h₇ h
  split_ifs at h with hend
  simp only [Option.some.injEq] at h
  subst h
  have hr₇ : r₇ = [] := by simpa using hend
  apply String.toList_injective
  rw [numericPart?_eq_some h₁, dot?_eq_some h₂, numericPart?_eq_some h₃, dot?_eq_some h₄,
    numericPart?_eq_some h₅, preRelease?_eq_some h₆, buildMetadata?_eq_some h₇, hr₇]
  simp [text, String.toList_append]

example : parse? "1.0.0-beta.2" = some ⟨1, 0, 0, [.alnum "beta", .num 2], []⟩ ∧
    parse? "1.02.0" = none ∧ parse? "1.0.0-beta.02" = none := by decide

end Updater.SemVer
