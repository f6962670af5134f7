import Updater.Proofs.TargetResolution

/-! What a channel resolves to on the registry. The rule is `ChannelResolves`: without dist-tags
a channel keeps its own tag and no version; stable reads `latest` and dev reads `dev`; beta reads
`beta`, unless the dist-tags have a `latest` that their beta is stale against (missing, or older
by the leading `major.minor.patch`), and then it falls back to `latest`. `resolveChannel` follows
the rule exactly (`resolveChannel_eq_iff`), and resolving a channel asks the registry once
(`resolveChannelTag_resolves`). A beta never resolves below `latest`, and only a fallback, always
to the version of `latest`, is recorded as one. -/

namespace Updater.Registry

open Version

/-- The beta of the dist-tags `M` is stale against the version `L` of `latest`: it is missing, or
older by the leading `major.minor.patch`. -/
def StaleBeta (M : DistTags) (L : String) : Prop :=
  lookupTag M "beta" = none ∨ ∃ b, lookupTag M "beta" = some b ∧ compareCoarse b L = some .lt

/-- What a channel resolves to, given its package's dist-tags, or none when they could not be
read. -/
inductive ChannelResolves : Channel → Option DistTags → ResolvedTag → Prop
  | offline (ch : Channel) : ChannelResolves ch none ⟨ch.distTag?.getD devTag, none, false⟩
  | stable (M : DistTags) :
      ChannelResolves .stable (some M) ⟨"latest", lookupTag M "latest", false⟩
  | dev (M : DistTags) : ChannelResolves .dev (some M) ⟨"dev", lookupTag M "dev", false⟩
  | fallBack (M : DistTags) (L : String) : lookupTag M "latest" = some L → StaleBeta M L →
      ChannelResolves .beta (some M) ⟨"latest", some L, true⟩
  | keepBeta (M : DistTags) : (¬∃ L, lookupTag M "latest" = some L ∧ StaleBeta M L) →
      ChannelResolves .beta (some M) ⟨"beta", lookupTag M "beta", false⟩

theorem staleBeta_iff (M : DistTags) (L : String) :
    StaleBeta M L ↔ ∀ b, lookupTag M "beta" = some b → compareCoarse b L = some .lt := by
  unfold StaleBeta
  cases lookupTag M "beta" <;> simp

theorem resolveChannel_resolves (ch : Channel) (tags : Option DistTags) :
    ChannelResolves ch tags (resolveChannel ch tags) := by
  cases tags with
  | none => exact .offline ch
  | some M =>
    cases ch with
    | stable => exact .stable M
    | dev => exact .dev M
    | beta =>
      -- the fallback is decided by `latest`, then by the beta against it
      cases hL : lookupTag M "latest" with
      | none =>
        have hkeep : ¬∃ L, lookupTag M "latest" = some L ∧ StaleBeta M L := by simp [hL]
        simpa [resolveChannel, Channel.distTag?, hL] using ChannelResolves.keepBeta M hkeep
      | some L =>
        cases hb : lookupTag M "beta" with
        | none =>
          simpa [resolveChannel, Channel.distTag?, hL, hb] using
            ChannelResolves.fallBack M L hL (.inl hb)
        | some b =>
          by_cases hlt : compareCoarse b L = some .lt
          · simpa [resolveChannel, Channel.distTag?, hL, hb, hlt] using
              ChannelResolves.fallBack M L hL (.inr ⟨b, hb, hlt⟩)
          · have hkeep : ¬∃ L', lookupTag M "latest" = some L' ∧ StaleBeta M L' := by
              rintro ⟨L', hL', hs⟩
              rw [hL'] at hL
              cases hL
              rw [staleBeta_iff] at hs
              exact hlt (hs b hb)
            simpa [resolveChannel, Channel.distTag?, hL, hb, hlt] using
              ChannelResolves.keepBeta M hkeep

namespace ChannelResolves

variable {ch : Channel} {tags : Option DistTags} {M : DistTags} {r r' : ResolvedTag}

theorem unique (h : ChannelResolves ch tags r) (h' : ChannelResolves ch tags r') : r = r' := by
  cases h with
  | offline => cases h'; rfl
  | stable => cases h'; rfl
  | dev => cases h'; rfl
  | fallBack M L hL hs =>
    cases h' with
    | fallBack M L' hL' _ => rw [hL] at hL'; cases hL'; rfl
    | keepBeta M hkeep => exact absurd ⟨L, hL, hs⟩ hkeep
  | keepBeta M hkeep =>
    cases h' with
    | fallBack M L hL hs => exact absurd ⟨L, hL, hs⟩ hkeep
    | keepBeta => rfl

theorem fellBack_iff (h : ChannelResolves .beta (some M) r) :
    r.fellBack = true ↔ ∃ L, lookupTag M "latest" = some L ∧ StaleBeta M L := by
  cases h with
  | fallBack M L hL hs => exact iff_of_true rfl ⟨L, hL, hs⟩
  | keepBeta M hkeep => exact iff_of_false Bool.false_ne_true hkeep

theorem of_fellBack (h : ChannelResolves ch tags r) (hf : r.fellBack = true) :
    ∃ M L, tags = some M ∧ lookupTag M "latest" = some L ∧ r = ⟨"latest", some L, true⟩ := by
  cases h with
  | fallBack M L hL _ => exact ⟨M, L, rfl, hL, rfl⟩
  | _ => cases hf

end ChannelResolves

theorem compareCoarse_self_ne_lt (s : String) : compareCoarse s s ≠ some .lt := by
  unfold compareCoarse
  cases triple? s <;> simp [Ordering.then, Std.ReflCmp.compare_self]

theorem ChannelResolves.not_below_latest {M : DistTags} {r : ResolvedTag}
    (h : ChannelResolves .beta (some M) r) {v L : String} (hv : r.version = some v)
    (hL : lookupTag M "latest" = some L) : compareCoarse v L ≠ some .lt := by
  cases h with
  | fallBack M L' hL' _ =>
    rw [hL] at hL'
    cases hL'
    cases hv
    exact compareCoarse_self_ne_lt _
  | keepBeta M hkeep =>
    -- a beta older than `latest` would have been stale
    intro hlt
    exact hkeep ⟨L, hL, .inr ⟨v, hv, hlt⟩⟩

theorem resolveChannel_eq_iff (ch : Channel) (tags : Option DistTags) (r : ResolvedTag) :
    resolveChannel ch tags = r ↔ ChannelResolves ch tags r :=
  ⟨fun h => h ▸ resolveChannel_resolves ch tags,
    fun h => (resolveChannel_resolves ch tags).unique h⟩

theorem run_resolveChannelTag (package : String) (ch : Channel) (w : World) :
    (resolveChannelTag package ch).run w =
      (resolveChannel ch ((distTags package).run w).1, ((distTags package).run w).2) := rfl

/-- Resolving a channel asks the registry for the package's dist-tags exactly once and answers
by the rule: the channel's own tag without a version when the dist-tags cannot be read; stable
and dev their own tag with its version; beta falls back to `latest`, with its version, exactly
when the dist-tags have a `latest` and a beta that is missing or older, and keeps `beta` and its
version otherwise. So a beta is never older than `latest`, and a fallback resolves to `latest`. -/
theorem resolveChannelTag_resolves (package : String) (ch : Channel) (w : World) :
    ∃ tags w', (distTags package).run w = (tags, w') ∧ w'.registryCalls = w.registryCalls + 1 ∧
      ∃ r, (resolveChannelTag package ch).run w = (r, w') ∧ ChannelResolves ch tags r ∧
        (∀ M, tags = some M → ch = .beta →
          (r.fellBack = true ↔ ∃ L, lookupTag M "latest" = some L ∧ StaleBeta M L) ∧
          ∀ v L, r.version = some v → lookupTag M "latest" = some L →
            compareCoarse v L ≠ some .lt) ∧
        (r.fellBack = true → ∃ M L, tags = some M ∧ lookupTag M "latest" = some L ∧
          r = ⟨"latest", some L, true⟩) := by
  obtain ⟨tags, w', hrun⟩ : ∃ tags w', (distTags package).run w = (tags, w') := ⟨_, _, rfl⟩
  have hcalls := distTags_registryCalls package w
  have hr := resolveChannel_resolves ch tags
  rw [hrun] at hcalls
  refine ⟨tags, w', hrun, hcalls, _, by rw [run_resolveChannelTag, hrun], hr, ?_, hr.of_fellBack⟩
  rintro M rfl rfl
  exact ⟨hr.fellBack_iff, fun v L hv hL => hr.not_below_latest hv hL⟩

end Updater.Registry
