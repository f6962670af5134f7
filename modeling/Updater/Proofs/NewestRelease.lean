import Updater.Proofs.SemVerOrder
import Updater.Proofs.SemVerText
import Updater.Git.ReleaseTag

/-! Which release tag a checkout moves to. A trimmed line of a tag listing is a release tag of a
channel when it is `v` and then a version without build metadata, whose pre-release, if it has
one, starts with `beta.` and counts only on the beta channel (`IsReleaseTag`). A release tag is
`v` and how its version is written, so two release tags of one version are one line; versions
without build metadata are totally ordered by precedence, so the newest release tag of a listing
is the one line whose version none is above (`latestReleaseTag_eq_some_iff`). Stable and dev take
the same tags and beta takes every tag they take, so beta moves to a release at least as new. -/

namespace Updater.Git

open SemVer

def IsReleaseTag (ch : Channel) (l : String) (v : SemVer) : Prop :=
  ∃ t, l = "v" ++ t ∧ SemVer.parse? t = some v ∧ v.build = [] ∧
    (v.pre = [] ∨ ch = .beta ∧ "beta.".isPrefixOf (".".intercalate (v.pre.map PreIdent.text)))

def ReleaseLine (listing : String) (ch : Channel) (l : String) (v : SemVer) : Prop :=
  (∃ raw ∈ listing.splitOn "\n", Text.trim raw = l) ∧ IsReleaseTag ch l v

/-! ### Release tags -/

theorem releaseVersion?_eq_some_iff (ch : Channel) (l : String) (v : SemVer) :
    releaseVersion? ch l = some v ↔ IsReleaseTag ch l v := by
  unfold releaseVersion?
  split
  · next r hl =>
    simp only [Option.bind_eq_bind, Option.bind_eq_some_iff]
    constructor
    · rintro ⟨w, hp, hw⟩
      have hlr : l = "v" ++ String.ofList r := String.toList_injective (by simp [hl])
      split_ifs at hw with hb hpre hbeta <;> cases hw
      · exact ⟨_, hlr, hp, by simpa using hb, .inl (by simpa using hpre)⟩
      · exact ⟨_, hlr, hp, by simpa using hb, .inr (by simpa using hbeta)⟩
    · rintro ⟨t, rfl, hp, hb, hpre⟩
      have ht : t.toList = r := by simpa [String.toList_append] using hl
      rw [← ht, String.ofList_toList]
      refine ⟨v, hp, ?_⟩
      rcases hpre with hpre | ⟨rfl, hbeta⟩
      · simp [hb, hpre]
      · simp [hb, hbeta]
  · next hl =>
    simp only [reduceCtorEq, false_iff]
    rintro ⟨t, rfl, -⟩
    exact hl t.toList (by simp [String.toList_append])

namespace IsReleaseTag

variable {ch ch' : Channel} {l l' : String} {v : SemVer}

theorem build_eq_nil (h : IsReleaseTag ch l v) : v.build = [] := by
  obtain ⟨-, -, -, hb, -⟩ := h
  exact hb

theorem eq_text (h : IsReleaseTag ch l v) : l = "v" ++ v.text := by
  obtain ⟨t, rfl, hp, -⟩ := h
  rw [← eq_text_of_parse? hp]

theorem unique (h : IsReleaseTag ch l v) (h' : IsReleaseTag ch' l' v) : l = l' := by
  rw [h.eq_text, h'.eq_text]

theorem beta (h : IsReleaseTag ch l v) : IsReleaseTag .beta l v := by
  obtain ⟨t, hl, hp, hb, hpre⟩ := h
  exact ⟨t, hl, hp, hb, hpre.imp_right fun h => ⟨rfl, h.2⟩⟩

end IsReleaseTag

/-! ### The newest release tag -/

theorem mem_releaseCandidates {listing : String} {ch : Channel} {p : SemVer × String} :
    p ∈ releaseCandidates listing ch ↔ ReleaseLine listing ch p.2 p.1 := by
  simp only [releaseCandidates, List.mem_filterMap, Option.map_eq_some_iff, ReleaseLine,
    ← releaseVersion?_eq_some_iff]
  constructor
  · rintro ⟨raw, hraw, v, hv, rfl⟩
    exact ⟨⟨raw, hraw, rfl⟩, hv⟩
  · rintro ⟨⟨raw, hraw, hl⟩, hv⟩
    exact ⟨raw, hraw, p.1, hl ▸ hv, by rw [hl]⟩

theorem laterTag_spec {a b : SemVer × String} (ha : a.1.build = []) (hb : b.1.build = []) :
    (laterTag a b = a ∨ laterTag a b = b) ∧ SemVer.compare a.1 (laterTag a b).1 ≠ .gt ∧
      SemVer.compare b.1 (laterTag a b).1 ≠ .gt := by
  unfold laterTag
  split
  · next hgt =>
    have hgt : SemVer.compare a.1 b.1 = .gt := by simpa using hgt
    refine ⟨.inl rfl, by simp [compare_self_of_build ha], ?_⟩
    rw [compare_swap_of_build ha hb, hgt]
    simp
  · next hgt =>
    exact ⟨.inr rfl, by simpa using hgt, by simp [compare_self_of_build hb]⟩

theorem foldl_laterTag_greatest (c : SemVer × String) (cs : List (SemVer × String))
    (hb : ∀ x ∈ c :: cs, x.1.build = []) :
    cs.foldl laterTag c ∈ c :: cs ∧
      ∀ x ∈ c :: cs, SemVer.compare x.1 (cs.foldl laterTag c).1 ≠ .gt := by
  induction cs generalizing c with
  | nil =>
    refine ⟨List.mem_singleton_self c, fun x hx => ?_⟩
    rw [List.mem_singleton.mp hx, List.foldl_nil, compare_self_of_build (hb c (by simp))]
    simp
  | cons y ys ih =>
    -- the fold goes on from the later of the first two, which is above neither
    obtain ⟨hm, hcm, hym⟩ := laterTag_spec (hb c (by simp)) (hb y (by simp))
    have hbm : ∀ x ∈ laterTag c y :: ys, x.1.build = [] := by
      intro x hx
      rcases List.mem_cons.mp hx with rfl | hx
      · rcases hm with h | h <;> rw [h] <;> exact hb _ (by simp)
      · exact hb x (by simp [hx])
    obtain ⟨hmem, hmax⟩ := ih (laterTag c y) hbm
    have hbr := hbm _ hmem
    rw [List.foldl_cons]
    refine ⟨?_, fun x hx => ?_⟩
    · rcases List.mem_cons.mp hmem with h | h
      · rw [h]
        rcases hm with hm | hm <;> rw [hm] <;> simp
      · exact List.mem_cons_of_mem _ (List.mem_cons_of_mem _ h)
    · have hmr := hmax _ List.mem_cons_self
      rcases List.mem_cons.mp hx with rfl | hx
      · exact compare_trans_of_build (hb x (by simp)) (hbm _ List.mem_cons_self) hbr hcm hmr
      rcases List.mem_cons.mp hx with rfl | hx
      · exact compare_trans_of_build (hb x (by simp)) (hbm _ List.mem_cons_self) hbr hym hmr
      · exact hmax x (List.mem_cons_of_mem _ hx)

theorem latestReleaseTag_eq_none_iff {listing : String} {ch : Channel} :
    latestReleaseTag listing ch = none ↔ ∀ l v, ¬ReleaseLine listing ch l v := by
  unfold latestReleaseTag
  split
  · next hcs =>
    refine iff_of_true rfl fun l v h => ?_
    have h' := mem_releaseCandidates.mpr (show ReleaseLine listing ch (v, l).2 (v, l).1 from h)
    simp [hcs] at h'
  · next c cs hcs =>
    refine iff_of_false (by simp) fun hnone => hnone c.2 c.1 ?_
    exact mem_releaseCandidates.mp (hcs ▸ List.mem_cons_self)

theorem latestReleaseTag_eq_some {listing : String} {ch : Channel} {l : String}
    (h : latestReleaseTag listing ch = some l) :
    ∃ v, ReleaseLine listing ch l v ∧
      ∀ l' v', ReleaseLine listing ch l' v' → SemVer.compare v' v ≠ .gt := by
  unfold latestReleaseTag at h
  split at h
  · cases h
  · next c cs hcs =>
    cases h
    have hb : ∀ x ∈ c :: cs, x.1.build = [] := fun x hx =>
      (mem_releaseCandidates.mp (hcs ▸ hx)).2.build_eq_nil
    obtain ⟨hmem, hmax⟩ := foldl_laterTag_greatest c cs hb
    exact ⟨_, mem_releaseCandidates.mp (hcs ▸ hmem),
      fun l' v' h' => hmax (v', l') (hcs ▸ mem_releaseCandidates.mpr h')⟩

theorem ReleaseLine.newest_unique {listing : String} {ch : Channel} {l l' : String}
    {v v' : SemVer} (h : ReleaseLine listing ch l v)
    (hmax : ∀ l'' v'', ReleaseLine listing ch l'' v'' → SemVer.compare v'' v ≠ .gt)
    (h' : ReleaseLine listing ch l' v')
    (hmax' : ∀ l'' v'', ReleaseLine listing ch l'' v'' → SemVer.compare v'' v' ≠ .gt) :
    l = l' := by
  have hv : v = v' :=
    eq_of_compare_ne_gt h.2.build_eq_nil h'.2.build_eq_nil (hmax' l v h) (hmax l' v' h')
  subst hv
  exact h.2.unique h'.2

theorem latestReleaseTag_eq_some_iff {listing : String} {ch : Channel} {l : String} :
    latestReleaseTag listing ch = some l ↔
      ∃ v, ReleaseLine listing ch l v ∧
        ∀ l' v', ReleaseLine listing ch l' v' → SemVer.compare v' v ≠ .gt := by
  refine ⟨latestReleaseTag_eq_some, ?_⟩
  rintro ⟨v, h, hmax⟩
  cases hl : latestReleaseTag listing ch with
  | none => exact absurd h (latestReleaseTag_eq_none_iff.mp hl l v)
  | some l₀ =>
    obtain ⟨v₀, h₀, hmax₀⟩ := latestReleaseTag_eq_some hl
    rw [h₀.newest_unique hmax₀ h hmax]

/-! ### Channels -/

theorem latestReleaseTag_dev (listing : String) :
    latestReleaseTag listing .dev = latestReleaseTag listing .stable := by
  have h : releaseVersion? .dev = releaseVersion? .stable := funext fun _ => rfl
  simp only [latestReleaseTag, releaseCandidates, h]

theorem latestReleaseTag_beta_of_stable {listing ls : String}
    (h : latestReleaseTag listing .stable = some ls) :
    ∃ lb vs vb, latestReleaseTag listing .beta = some lb ∧ IsReleaseTag .stable ls vs ∧
      IsReleaseTag .beta lb vb ∧ SemVer.compare vb vs ≠ .lt := by
  obtain ⟨vs, hs, -⟩ := latestReleaseTag_eq_some h
  -- the stable tag is a beta tag too, so beta has a newest tag and it is not below
  have hsb : ReleaseLine listing .beta ls vs := ⟨hs.1, hs.2.beta⟩
  cases hb : latestReleaseTag listing .beta with
  | none => exact absurd hsb (latestReleaseTag_eq_none_iff.mp hb ls vs)
  | some lb =>
    obtain ⟨vb, hlb, hmax⟩ := latestReleaseTag_eq_some hb
    refine ⟨lb, vs, vb, rfl, hs.2, hlb.2, ?_⟩
    rw [compare_swap_of_build hs.2.build_eq_nil hlb.2.build_eq_nil, ne_eq, Ordering.swap_eq_lt]
    exact hmax ls vs hsb

/-- The newest release tag of a listing on a channel: there is one exactly when some trimmed line
of the listing is a release tag of the channel, and it is the one such line whose version no
other's is above. That line is one: release lines of one version are one line. Stable and dev move
to the same tag; beta moves to a tag whenever stable does, of a version not below stable's. -/
theorem latestReleaseTag_newest (listing : String) (ch : Channel) :
    (∀ l, latestReleaseTag listing ch = some l ↔
      ∃ v, ReleaseLine listing ch l v ∧
        ∀ l' v', ReleaseLine listing ch l' v' → SemVer.compare v' v ≠ .gt) ∧
    (latestReleaseTag listing ch = none ↔ ∀ l v, ¬ReleaseLine listing ch l v) ∧
    (∀ l l' v, ReleaseLine listing ch l v → ReleaseLine listing ch l' v → l = l') ∧
    latestReleaseTag listing .dev = latestReleaseTag listing .stable ∧
    ∀ ls, latestReleaseTag listing .stable = some ls →
      ∃ lb vs vb, latestReleaseTag listing .beta = some lb ∧ IsReleaseTag .stable ls vs ∧
        IsReleaseTag .beta lb vb ∧ SemVer.compare vb vs ≠ .lt :=
  ⟨fun _ => latestReleaseTag_eq_some_iff, latestReleaseTag_eq_none_iff,
    fun _ _ _ h h' => h.2.unique h'.2, latestReleaseTag_dev listing,
    fun _ h => latestReleaseTag_beta_of_stable h⟩

end Updater.Git
