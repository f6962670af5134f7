import Updater.Options
import Updater.Proofs.CoreVersion
import Updater.Proofs.DirtyTree
import Updater.Proofs.Trimming

/-! What validating a request gives, for every request. Each argument is read by a rule of its
own: a channel argument is absent, blank, or once trimmed and put in ASCII lower case the name
of a channel (`Channel.Reads`); a tag is trimmed, loses one leading `openclaw@` and is trimmed
again, and must not end up empty (`Version.tagText`); a timeout is, once trimmed, an unsigned
64-bit decimal with at most one leading `+`, and not zero (`IsWord`). The arguments are checked
in that order and the first one refused decides the error, with the trimmed channel text or the
raw timeout text in it; otherwise the options hold what the arguments read as, with relative
paths made absolute against the working directory (`Request.Validates`, `validate_eq_iff`).
Validation is a function of the request and the working directory alone. -/

namespace Updater

theorem toList_copy_dropPrefix (cs : List Char) (pat : String) :
    ((String.ofList cs).dropPrefix pat).copy.toList =
      if pat.toList <+: cs then cs.drop pat.length else cs := by
  unfold String.dropPrefix String.Slice.dropPrefix
  cases h : (String.ofList cs).toSlice.dropPrefix? pat with
  | none =>
    have hs := String.Slice.dropPrefix?_eq_none_iff.mp h
    rw [String.startsWith_toSlice, String.startsWith_string_eq_false_iff,
      String.toList_ofList] at hs
    simp [hs]
  | some res =>
    have hs := String.eq_append_of_dropPrefix?_string_eq_some (s := String.ofList cs) h
    have hl := congrArg String.toList hs
    rw [String.toList_ofList, String.toList_append] at hl
    rw [hl, ← String.length_toList, List.drop_left]
    simp

/-! ### The channel -/

namespace Channel

/-- A channel argument that names no channel: it is not blank, and trimmed and in ASCII lower
case (`String.toLower` maps `A`–`Z` only) it is no channel's name. -/
def Refuses (s : String) : Prop :=
  Text.trim s ≠ "" ∧ ∀ c : Channel, (Text.trim s).toLower ≠ c.name

/-- What a channel argument reads as: nothing when absent or blank, else the channel whose name
it is, trimmed and in ASCII lower case. -/
inductive Reads : Option String → Option Channel → Prop
  | absent : Reads none none
  | blank {s : String} : Text.trim s = "" → Reads (some s) none
  | named {s : String} (c : Channel) : (Text.trim s).toLower = c.name → Reads (some s) (some c)

theorem name_ne_empty (c : Channel) : c.name ≠ "" := by
  cases c <;> simp [name]

theorem parse_of_trimmed {v : String} (hv : Text.trimChars v.toList = v.toList) :
    parse v = match v.toLower with
      | "stable" => .ok stable
      | "beta" => .ok beta
      | "dev" => .ok dev
      | _ => .error (.invalidChannel v) := by
  rw [parse, hv, ← String.map_eq_internal]
  rfl

theorem parse_eq_ok_iff {v : String} (hv : Text.trimChars v.toList = v.toList) (c : Channel) :
    parse v = .ok c ↔ v.toLower = c.name := by
  rw [parse_of_trimmed hv]
  split <;> cases c <;> simp_all [name]

theorem parse_eq_error_iff {v : String} (hv : Text.trimChars v.toList = v.toList)
    (e : UpdateError) :
    parse v = .error e ↔ (∀ c : Channel, v.toLower ≠ c.name) ∧ e = .invalidChannel v := by
  rw [parse_of_trimmed hv]
  split
  · next h => simp only [reduceCtorEq, false_iff]; exact fun hc => hc.1 stable h
  · next h => simp only [reduceCtorEq, false_iff]; exact fun hc => hc.1 beta h
  · next h => simp only [reduceCtorEq, false_iff]; exact fun hc => hc.1 dev h
  · next h₁ h₂ h₃ =>
    have hall : ∀ c : Channel, v.toLower ≠ c.name := by
      intro c; cases c <;> assumption
    simp only [Except.error.injEq, hall, ne_eq, not_false_eq_true, implies_true, true_and]
    exact eq_comm

theorem trimmed_trim (s : String) : Text.trimChars (Text.trim s).toList = (Text.trim s).toList := by
  rw [Text.toList_trim, Text.trimChars_trimChars]

theorem normalize_eq_ok_iff (raw : Option String) (ch : Option Channel) :
    normalize raw = .ok ch ↔ Reads raw ch := by
  cases raw with
  | none =>
    constructor
    · rintro ⟨⟩; exact .absent
    · rintro ⟨⟩; rfl
  | some s =>
    by_cases hb : Text.trim s = ""
    · have hnone : normalize (some s) = .ok none := by simp [normalize, hb]
      rw [hnone]
      constructor
      · rintro ⟨⟩; exact .blank hb
      · rintro (_ | _ | ⟨c, hc⟩)
        · rfl
        · have hlower : ("" : String).toLower = "" := String.map_eq_empty.mpr rfl
          rw [hb, hlower] at hc
          exact absurd hc.symm (name_ne_empty c)
    · have hparse : normalize (some s) = (parse (Text.trim s)).map some := by
        simp [normalize]
      rw [hparse]
      cases ch with
      | none =>
        simp only [Except.map]
        constructor
        · intro h; split at h <;> cases h
        · rintro (_ | ⟨h⟩); exact absurd h hb
      | some c =>
        constructor
        · intro h
          have : parse (Text.trim s) = .ok c := by
            simp only [Except.map] at h; split at h <;> simp_all
          exact .named c ((parse_eq_ok_iff (trimmed_trim s) c).mp this)
        · rintro ⟨⟩
          next hc => simp [(parse_eq_ok_iff (trimmed_trim s) c).mpr hc, Except.map]

theorem normalize_eq_error_iff (raw : Option String) (e : UpdateError) :
    normalize raw = .error e ↔
      ∃ s, raw = some s ∧ Refuses s ∧ e = .invalidChannel (Text.trim s) := by
  cases raw with
  | none => simp [normalize]
  | some s =>
    by_cases hb : Text.trim s = ""
    · simp [normalize, hb, Refuses]
    · have hparse : normalize (some s) = (parse (Text.trim s)).map some := by
        simp [normalize]
      rw [hparse]
      have herr := parse_eq_error_iff (trimmed_trim s) e
      constructor
      · intro h
        have : parse (Text.trim s) = .error e := by
          simp only [Except.map] at h; split at h <;> simp_all
        obtain ⟨hall, rfl⟩ := herr.mp this
        exact ⟨s, rfl, ⟨hb, hall⟩, rfl⟩
      · rintro ⟨_, ⟨⟩, ⟨-, hall⟩, rfl⟩
        simp [herr.mpr ⟨hall, rfl⟩, Except.map]

end Channel

/-! ### The tag -/

namespace Version

/-- The tag a `--tag` argument names: the argument trimmed, without one leading `openclaw@`,
trimmed again. -/
def tagText (t : String) : String :=
  Text.trim ((Text.trim t).dropPrefix "openclaw@").copy

inductive TagReads : Option String → Option String → Prop
  | absent : TagReads none none
  | given {t : String} : tagText t ≠ "" → TagReads (some t) (some (tagText t))

theorem normalizeTag_eq (t : String) :
    normalizeTag t = if tagText t = "" then .error .invalidTag else .ok (tagText t) := by
  have hpre : (corePackage ++ "@").toList = "openclaw@".toList := rfl
  -- the list the tag is read into is the tag's text
  have htext : (if (corePackage ++ "@").toList.isPrefixOf (Text.trimChars t.toList) = true
      then Text.trimChars ((Text.trimChars t.toList).drop (corePackage ++ "@").toList.length)
      else Text.trimChars t.toList) = (tagText t).toList := by
    rw [tagText, Text.trim, Text.trim, String.toList_ofList, toList_copy_dropPrefix, hpre,
      ← String.length_toList]
    have hT := Text.trimChars_trimChars t.toList
    generalize "openclaw@".toList = P
    generalize Text.trimChars t.toList = T at hT ⊢
    by_cases hp : P <+: T
    · simp only [List.isPrefixOf_iff_prefix.mpr hp, hp, if_true]
    · have hp' : P.isPrefixOf T = false := by
        rw [Bool.eq_false_iff, ne_eq, List.isPrefixOf_iff_prefix]
        exact hp
      simp only [hp, hp', if_false, Bool.false_eq_true]
      exact hT.symm
  unfold normalizeTag
  dsimp only
  rw [htext]
  by_cases he : tagText t = ""
  · simp [he]
  · have hne : (tagText t).toList.isEmpty = false := by
      simpa [List.isEmpty_iff] using he
    simp [he, hne]

theorem normalizeTag_eq_ok_iff (t g : String) :
    normalizeTag t = .ok g ↔ tagText t ≠ "" ∧ tagText t = g := by
  rw [normalizeTag_eq]
  by_cases he : tagText t = "" <;> simp [he]

theorem normalizeTag_eq_error_iff (t : String) (e : UpdateError) :
    normalizeTag t = .error e ↔ tagText t = "" ∧ .invalidTag = e := by
  rw [normalizeTag_eq]
  by_cases he : tagText t = "" <;> simp [he]

end Version

/-! ### The timeout -/

/-- An unsigned 64-bit decimal denoting `n`: at most one leading `+`, then a non-empty run of
ASCII digits whose value is below 2^64. -/
def IsWord (s : String) (n : ℕ) : Prop :=
  ∃ ds, (s.toList = ds ∨ s.toList = '+' :: ds) ∧ Version.IsPart ds n

/-- A timeout argument that is refused: trimmed, it is no unsigned 64-bit decimal, or it is
zero. -/
def TimeoutRefuses (x : String) : Prop :=
  (¬∃ n, IsWord (Text.trim x) n) ∨ IsWord (Text.trim x) 0

inductive TimeoutReads : Option String → ℕ → Prop
  | absent : TimeoutReads none 1200
  | given {x : String} {n : ℕ} : IsWord (Text.trim x) n → 0 < n → TimeoutReads (some x) n

theorem parseWord?_eq_partValue? {s : String} {ds : List Char}
    (hds : s.toList = '+' :: ds ∨ (s.toList = ds ∧ ∀ r, s.toList ≠ '+' :: r)) :
    parseWord? s = if ds = [] then none else Version.partValue? ds := by
  have hzero : '0'.toNat = 48 := rfl
  unfold parseWord? Version.partValue?
  rw [hzero]
  split
  case' h_1 r heq =>
    have hr : r = ds := by
      rcases hds with h | ⟨h, hno⟩ <;> rw [h] at heq
      · exact (List.cons.inj heq).2.symm
      · exact absurd (h.trans heq) (hno r)
    rw [hr]
  case' h_2 hno =>
    have hs : s.toList = ds := by
      rcases hds with h | ⟨h, -⟩
      · exact absurd h (hno ds)
      · exact h
    rw [hs]
  all_goals
    dsimp only
    by_cases hnil : ds = []
    · simp [hnil]
    · have hne : ds.isEmpty = false := by simpa [List.isEmpty_iff] using hnil
      by_cases hall : ds.all Char.isDigit = true <;> simp [hnil, hne, hall]

theorem parseWord?_eq_some_iff (s : String) (n : ℕ) : parseWord? s = some n ↔ IsWord s n := by
  obtain ⟨ds, hds⟩ : ∃ ds, s.toList = '+' :: ds ∨ (s.toList = ds ∧ ∀ r, s.toList ≠ '+' :: r) := by
    by_cases h : ∃ r, s.toList = '+' :: r
    · obtain ⟨r, hr⟩ := h
      exact ⟨r, .inl hr⟩
    · push Not at h
      exact ⟨s.toList, .inr ⟨rfl, h⟩⟩
  rw [parseWord?_eq_partValue? hds]
  constructor
  · intro h
    split at h
    · cases h
    · next hne =>
      obtain ⟨hdig, hv, hlt⟩ := (Version.partValue?_eq_some_iff ds n).mp h
      refine ⟨ds, ?_, hne, hdig, hv, hlt⟩
      rcases hds with h | ⟨h, -⟩
      · exact .inr h
      · exact .inl h
  · rintro ⟨ds', hds', hne, hdig, hv, hlt⟩
    -- the digits a word is read from are the digits of the decimal: no digit is a `+`
    have hplus : ('+').isDigit = false := by decide
    have hsame : ds' = ds := by
      rcases hds with h | ⟨h, hno⟩ <;> rcases hds' with h' | h'
      · rw [h] at h'
        rw [← h'] at hdig
        exact absurd (hdig '+' (by simp)) (by simp [hplus])
      · rw [h] at h'
        exact (List.cons.inj h').2.symm
      · exact h'.symm.trans h
      · exact absurd h' (hno ds')
    subst hsame
    rw [if_neg hne]
    exact (Version.partValue?_eq_some_iff ds' n).mpr ⟨hdig, hv, hlt⟩

theorem parseTimeoutSecs_eq_ok_iff (x : String) (n : ℕ) :
    parseTimeoutSecs x = .ok n ↔ IsWord (Text.trim x) n ∧ 0 < n := by
  rw [← parseWord?_eq_some_iff, parseTimeoutSecs]
  cases hw : parseWord? (Text.trim x) with
  | none => simp
  | some m =>
    by_cases hm : m = 0
    · subst hm
      simp only [if_true, reduceCtorEq, Option.some.injEq, false_iff, not_and]
      omega
    · simp only [hm, if_false, Except.ok.injEq, Option.some.injEq]
      constructor
      · rintro rfl
        exact ⟨rfl, Nat.pos_of_ne_zero hm⟩
      · rintro ⟨rfl, -⟩
        rfl

theorem parseTimeoutSecs_eq_error_iff (x : String) (e : UpdateError) :
    parseTimeoutSecs x = .error e ↔ TimeoutRefuses x ∧ e = .invalidTimeout x := by
  simp only [TimeoutRefuses, ← parseWord?_eq_some_iff, parseTimeoutSecs]
  cases hw : parseWord? (Text.trim x) with
  | none => simp [eq_comm]
  | some m =>
    by_cases hm : m = 0
    · subst hm
      simp [eq_comm]
    · simp [hm]

/-! ### Paths -/

/-- A path as the options keep it: an empty or absolute one as it is, a relative one made
absolute against the working directory. -/
inductive Anchored (cwd : String) : String → String → Prop
  | kept {p : String} : p = "" ∨ Path.isAbsolute p = true → Anchored cwd p p
  | resolved {p q : String} : p ≠ "" → Path.isAbsolute p = false → Path.absolute cwd p = .ok q →
      Anchored cwd p q

theorem anchored_spec (cwd p : String) : Anchored cwd p (anchored cwd p) := by
  by_cases hk : Path.isAbsolute p = true ∨ p = ""
  · have : anchored cwd p = p := by
      simp only [anchored]
      rcases hk with h | h <;> simp [h]
    rw [this]
    exact .kept hk.symm
  · push Not at hk
    obtain ⟨habs, hne⟩ := hk
    have habs' : Path.isAbsolute p = false := by simpa using habs
    have hok : Path.absolute cwd p = .ok (anchored cwd p) := by
      have hempty : p.isEmpty = false := by simpa using hne
      simp only [anchored, habs', hempty, Bool.or_false, Bool.false_eq_true, if_false]
      simp only [Path.absolute, hempty, Bool.false_eq_true, if_false]
    exact .resolved hne habs' hok

theorem Anchored.eq_anchored {cwd p q : String} (h : Anchored cwd p q) : q = anchored cwd p := by
  cases h with
  | kept hk => rcases hk with h | h <;> simp [anchored, h]
  | resolved hne habs hok => simp [anchored, habs, hne, hok]

/-! ### The whole request -/

/-- How a request validates: the channel is checked first, then the tag, then the timeout, and
the first argument refused decides the error; otherwise the options hold what the arguments read
as, the paths anchored, the flags and the state directory as given, and a five-second lock
timeout. -/
inductive Request.Validates (cwd : String) (r : Request) : Except UpdateError Options → Prop
  | badChannel {s : String} : r.channel = some s → Channel.Refuses s →
      Validates cwd r (.error (.invalidChannel (Text.trim s)))
  | badTag {ch : Option Channel} {t : String} : Channel.Reads r.channel ch → r.tag = some t →
      Version.tagText t = "" → Validates cwd r (.error .invalidTag)
  | badTimeout {ch : Option Channel} {g : Option String} {x : String} :
      Channel.Reads r.channel ch → Version.TagReads r.tag g → r.timeout = some x →
      TimeoutRefuses x → Validates cwd r (.error (.invalidTimeout x))
  | valid {ch : Option Channel} {g : Option String} {secs : ℕ} {root gitDir : String} :
      Channel.Reads r.channel ch → Version.TagReads r.tag g → TimeoutReads r.timeout secs →
      Anchored cwd r.root root → Anchored cwd r.gitDir gitDir →
      Validates cwd r (.ok
        { root := root, requestedChannel := ch, tag := g, stepTimeoutMs := secs * 1000,
          restart := r.restart, assumeYes := r.yes, json := r.json, gitDir := gitDir,
          stateDir := r.stateDir, lockTimeoutMs := 5000 })

theorem Version.TagReads.normalizeTag {tag g : Option String} (h : Version.TagReads tag g) :
    tag = none ∧ g = none ∨
      ∃ t, tag = some t ∧ Version.normalizeTag t = .ok (Version.tagText t) ∧
        g = some (Version.tagText t) := by
  cases h with
  | absent => exact .inl ⟨rfl, rfl⟩
  | given hne => exact .inr ⟨_, rfl, (Version.normalizeTag_eq_ok_iff _ _).mpr ⟨hne, rfl⟩, rfl⟩

theorem TimeoutReads.parseTimeoutSecs {timeout : Option String} {n : ℕ}
    (h : TimeoutReads timeout n) :
    timeout = none ∧ n = 1200 ∨ ∃ x, timeout = some x ∧ parseTimeoutSecs x = .ok n := by
  cases h with
  | absent => exact .inl ⟨rfl, rfl⟩
  | given hw hpos => exact .inr ⟨_, rfl, (parseTimeoutSecs_eq_ok_iff _ _).mpr ⟨hw, hpos⟩⟩

namespace Request

theorem validates_validate (cwd : String) (r : Request) : r.Validates cwd (r.validate cwd) := by
  unfold validate
  cases hch : Channel.normalize r.channel with
  | error e =>
    obtain ⟨s, hs, href, rfl⟩ := (Channel.normalize_eq_error_iff _ _).mp hch
    exact .badChannel hs href
  | ok ch =>
    have hc := (Channel.normalize_eq_ok_iff _ _).mp hch
    dsimp only [bind, Except.bind]
    -- the tag: absent, refused, or read
    cases htag : r.tag
    case' some t =>
      dsimp only [Except.map]
      cases hnt : Version.normalizeTag t
      case' error e =>
        obtain ⟨he, rfl⟩ := (Version.normalizeTag_eq_error_iff t e).mp hnt
        exact .badTag hc htag he
      case' ok g =>
        obtain ⟨hne, rfl⟩ := (Version.normalizeTag_eq_ok_iff t g).mp hnt
        have hg : Version.TagReads r.tag (some (Version.tagText t)) := by
          rw [htag]; exact .given hne
    case' none =>
      have hg : Version.TagReads r.tag none := by
        rw [htag]; exact .absent
    -- then the timeout: absent, refused, or read
    all_goals
      cases hto : r.timeout with
      | none =>
        have hn : TimeoutReads r.timeout 1200 := by
          rw [hto]; exact .absent
        exact .valid hc hg hn (anchored_spec _ _) (anchored_spec _ _)
      | some x =>
        dsimp only
        cases hp : parseTimeoutSecs x with
        | error e =>
          obtain ⟨href, rfl⟩ := (parseTimeoutSecs_eq_error_iff x e).mp hp
          exact .badTimeout hc hg hto href
        | ok n =>
          obtain ⟨hw, hpos⟩ := (parseTimeoutSecs_eq_ok_iff x n).mp hp
          have hn : TimeoutReads r.timeout n := by
            rw [hto]; exact .given hw hpos
          exact .valid hc hg hn (anchored_spec _ _) (anchored_spec _ _)

theorem validate_of_validates {cwd : String} {r : Request} {e : Except UpdateError Options}
    (h : r.Validates cwd e) : r.validate cwd = e := by
  unfold validate
  cases h with
  | badChannel hs href =>
    rw [(Channel.normalize_eq_error_iff _ _).mpr ⟨_, hs, href, rfl⟩]
    rfl
  | badTag hc htag he =>
    rw [(Channel.normalize_eq_ok_iff _ _).mpr hc]
    dsimp only [bind, Except.bind]
    rw [htag]
    dsimp only [Except.map]
    rw [(Version.normalizeTag_eq_error_iff _ _).mpr ⟨he, rfl⟩]
  | badTimeout hc hg hto href =>
    rw [(Channel.normalize_eq_ok_iff _ _).mpr hc]
    dsimp only [bind, Except.bind]
    rcases hg.normalizeTag with ⟨htag, rfl⟩ | ⟨t, htag, hnt, rfl⟩
    case' inl => rw [htag]
    case' inr => rw [htag]; dsimp only [Except.map]; rw [hnt]
    all_goals
      dsimp only
      rw [hto]
      dsimp only
      rw [(parseTimeoutSecs_eq_error_iff _ _).mpr ⟨href, rfl⟩]
  | valid hc hg hn hroot hgit =>
    rw [(Channel.normalize_eq_ok_iff _ _).mpr hc, hroot.eq_anchored, hgit.eq_anchored]
    dsimp only [bind, Except.bind]
    rcases hg.normalizeTag with ⟨htag, rfl⟩ | ⟨t, htag, hnt, rfl⟩
    case' inl => rw [htag]
    case' inr => rw [htag]; dsimp only [Except.map]; rw [hnt]
    all_goals
      dsimp only
      rcases hn.parseTimeoutSecs with ⟨hto, rfl⟩ | ⟨x, hto, hp⟩
      · rw [hto]; rfl
      · rw [hto]; dsimp only; rw [hp]; rfl

/-- What validation gives, for every request: exactly what the rule allows. -/
theorem validate_eq_iff (cwd : String) (r : Request) (e : Except UpdateError Options) :
    r.validate cwd = e ↔ r.Validates cwd e := by
  constructor
  · rintro rfl
    exact validates_validate cwd r
  · exact validate_of_validates

end Request

end Updater
