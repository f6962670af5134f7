import Updater.Proofs.LockedRun
import Updater.Proofs.StepTrace

/-! Which plan a run builds, and with which channel. The request and the detected kind decide
the change of kind (`KindTransition.ofRequest`); the effective channel is the asked-for one, else
the one a valid configuration stores, else the default of the kind the run ends with
(`EffectiveChannel`). That channel is the one the plan carries and the report shows: a checkout
follows it, a switch to a checkout happens only on `dev`, and a package is updated to the target
resolved for it (`PlanChoice`). -/

namespace Updater

namespace KindTransition

theorem ofRequest_switchToGit_iff (r : Option Channel) (k : InstallKind) :
    ofRequest r k = .switchToGit ↔ r = some .dev ∧ k ≠ .git := by
  rcases r with _ | ⟨_ | _ | _⟩ <;> by_cases hk : k = .git <;> simp [ofRequest, hk]

theorem ofRequest_switchToPackage_iff (r : Option Channel) (k : InstallKind) :
    ofRequest r k = .switchToPackage ↔ (∃ c, r = some c ∧ c ≠ .dev) ∧ k = .git := by
  rcases r with _ | ⟨_ | _ | _⟩ <;> by_cases hk : k = .git <;> simp [ofRequest, hk]

theorem ofRequest_stay_iff (r : Option Channel) (k : InstallKind) :
    ofRequest r k = .stay ↔ (k = .git ∧ (r = none ∨ r = some .dev)) ∨
      (k ≠ .git ∧ r ≠ some .dev) := by
  rcases r with _ | ⟨_ | _ | _⟩ <;> by_cases hk : k = .git <;> simp [ofRequest, hk]

end KindTransition

/-- The effective channel and its source as the documentation gives them: the asked-for channel;
else the one a valid configuration stores; else `dev` when the run ends with a checkout and
`stable` otherwise. -/
inductive EffectiveChannel (requested : Option Channel) (snap : Config.Snapshot)
    (k : InstallKind) : Resolution → Prop
  | explicit {c : Channel} : requested = some c → EffectiveChannel requested snap k ⟨c, .explicit⟩
  | stored {c : Channel} : requested = none → snap.valid = true →
      snap.config.update.channel = some c → EffectiveChannel requested snap k ⟨c, .storedConfig⟩
  | installDefault : requested = none → (snap.valid = true → snap.config.update.channel = none) →
      EffectiveChannel requested snap k ⟨if k = .git then .dev else .stable, .installDefault⟩

theorem effectiveChannel_resolve (requested : Option Channel) (snap : Config.Snapshot)
    (k : InstallKind) :
    EffectiveChannel requested snap k (Resolution.resolve requested snap.storedChannel k) := by
  rcases requested with _ | c
  · cases hs : snap.storedChannel with
    | some c =>
      -- only a valid file stores a channel
      have hv : snap.valid = true ∧ snap.config.update.channel = some c := by
        unfold Config.Snapshot.storedChannel at hs
        split at hs
        · exact ⟨‹_›, hs⟩
        · cases hs
      exact .stored rfl hv.1 hv.2
    | none =>
      have hdef : Resolution.resolve none none k =
          ⟨if k = .git then .dev else .stable, .installDefault⟩ := by
        cases k <;> rfl
      rw [hdef]
      exact .installDefault rfl fun hv => by simpa [Config.Snapshot.storedChannel, hv] using hs
  · exact .explicit rfl

/-- The plan built from what a run settled: a switch to a checkout exactly when `dev` is asked
for an installation that is not one, with the checkout directory judged by `CheckoutChoice`; a
switch to a package exactly when a release channel is asked for a checkout; otherwise the plan of
the detected kind. A checkout follows the effective channel, and a package goes to the target
resolved for it. -/
inductive PlanChoice (o : Options) (s : Settled) (m : Machine) : Except Failure Plan → Prop
  | switchToGit {r : Except Failure CheckoutAction} (mgr : Manager) :
      o.requestedChannel = some .dev → s.d.kind ≠ .git → (s.channel o).channel = .dev →
      CheckoutChoice m o.gitDir r →
      PlanChoice o s m (r.map fun c => .switchToGit o.gitDir c mgr o.root)
  | switchToPackage {c : Channel} {target : VersionTarget} (mgr : Manager) :
      o.requestedChannel = some c → c ≠ .dev → s.d.kind = .git → s.target = some target →
      PlanChoice o s m (.ok (.switchToPackage o.root mgr target))
  | git : s.d.kind = .git → (o.requestedChannel = none ∨ o.requestedChannel = some .dev) →
      PlanChoice o s m (.ok (.git o.root (s.channel o).channel))
  | package {target : VersionTarget} (mgr : Manager) : s.d.kind = .package →
      o.requestedChannel ≠ some .dev → s.target = some target →
      PlanChoice o s m (.ok (.package o.root mgr target))
  | unsupported : s.d.kind = .unknown → o.requestedChannel ≠ some .dev →
      PlanChoice o s m (.ok (.unsupported o.root))

/-! ### The plan a handed-over run builds -/

theorem Settled.targetKind_eq (s : Settled) (o : Options) :
    s.targetKind o = (KindTransition.ofRequest o.requestedChannel s.d.kind).targetKind s.d.kind :=
  rfl

theorem Prepares.target_resolved {store : String} {o : Options} {w w₁ : World} {s : Settled}
    (h : Prepares store o w s w₁) {target : VersionTarget} (ht : s.target = some target) :
    ∃ fellBack w₀ w₂, (detect o.root statusTimeoutMs).run w = (s.d, w₀) ∧
      (resolveTarget o (s.channel o).channel).run w₀ = ((target, fellBack), w₂) := by
  cases h with
  | gated _ _ hd _ hres ht' =>
    obtain rfl := Option.some.inj (ht'.symm.trans ht)
    exact ⟨_, _, _, hd, hres⟩
  | ungated _ _ _ _ hnone => simp [hnone] at ht

theorem Prepares.target_of_package {store : String} {o : Options} {w w₁ : World} {s : Settled}
    (h : Prepares store o w s w₁) (hk : s.targetKind o = .package) :
    ∃ target, s.target = some target := by
  cases h with
  | gated _ _ _ _ _ ht => exact ⟨_, ht⟩
  | ungated _ _ _ hk' => exact absurd hk hk'

theorem Prepares.plan_choice {store : String} {o : Options} {w w₁ : World} {s : Settled}
    (h : Prepares store o w s w₁) :
    ∃ r, (planFor o s.d (s.transition o) (s.channel o).channel s.target).run w₁ = (r, w₁) ∧
      PlanChoice o s w₁.machine r := by
  obtain ⟨r, hr, hb⟩ := planFor_run o s.d (s.transition o) (s.channel o).channel s.target w₁
  refine ⟨r, hr, ?_⟩
  -- the transition the request gives decides which rule of `Builds` applied
  have hT : s.transition o = KindTransition.ofRequest o.requestedChannel s.d.kind := rfl
  generalize s.transition o = T at hb hT
  cases hb with
  | switchToGit mgr hc =>
    obtain ⟨hdev, hk⟩ := (KindTransition.ofRequest_switchToGit_iff _ _).1 hT.symm
    have hch : (s.channel o).channel = .dev := by
      simp [Settled.channel, Resolution.resolve, hdev]
    exact .switchToGit mgr hdev hk hch hc
  | switchToPackage mgr =>
    obtain ⟨⟨c, hc, hne⟩, hk⟩ := (KindTransition.ofRequest_switchToPackage_iff _ _).1 hT.symm
    obtain ⟨target, ht⟩ := h.target_of_package (by rw [Settled.targetKind_eq, ← hT]; rfl)
    rw [ht]
    exact .switchToPackage mgr hc hne hk ht
  | git hk =>
    have hstay := (KindTransition.ofRequest_stay_iff _ _).1 hT.symm
    exact .git hk (by simpa [hk] using hstay)
  | package mgr hk =>
    have hstay := (KindTransition.ofRequest_stay_iff _ _).1 hT.symm
    have hnd : o.requestedChannel ≠ some .dev := by simpa [hk] using hstay
    obtain ⟨target, ht⟩ := h.target_of_package (by rw [Settled.targetKind_eq, ← hT, hk]; rfl)
    rw [ht]
    exact .package mgr hk hnd ht
  | unsupported hk =>
    have hstay := (KindTransition.ofRequest_stay_iff _ _).1 hT.symm
    exact .unsupported hk (by simpa [hk] using hstay)

/-! ### The channel drives the run -/

theorem runLocked_report {store : String} {o : Options} {snap : Config.Snapshot} {plan : Plan}
    {channel : Resolution} {target : Option VersionTarget} {notes : List String} {w w' : World}
    {rep : UpdateReport}
    (h : (runLocked store o snap plan channel target notes).run w = (.ok rep, w')) :
    rep.channel = channel ∧ rep.target = target := by
  have hrun := runLocked_run store o snap plan channel target notes w
  rw [h] at hrun
  cases hrun with
  | notOk => exact ⟨rfl, rfl⟩
  | finished _ _ _ _ _ hc ht => exact ⟨hc, ht⟩

theorem Planned.report {store : String} {o : Options} {s : Settled} {w : World}
    {res : Except Failure Outcome × World} (h : Planned store o s w res) {rep : UpdateReport}
    (hrep : res.1 = .ok (.finished rep)) : rep.channel = s.channel o ∧ rep.target = s.target := by
  -- only a run that proceeds finishes, and its report is the locked part's
  have hmap : ∀ {r : Except Failure UpdateReport}, r.map Outcome.finished = .ok (.finished rep) →
      r = .ok rep := by
    intro r hr
    cases r with
    | error f => cases hr
    | ok rep' => cases hr; rfl
  cases h with
  | planFailed => cases hrep
  | lockFailed => cases hrep
  | proceeds hp =>
    cases hp with
    | unlocked _ hrun => exact runLocked_report (hmap hrep ▸ hrun)
    | locked _ _ _ hrun => exact runLocked_report (hmap hrep ▸ hrun)

theorem Pipeline.git_sync_follows_channel (t : Nat) (root : String) (c : Channel) (w : World) :
    let names := ((Pipeline.execute t (.git root c)).run w).1.steps.map (·.name)
    ("git rebase" ∈ names → c = .dev) ∧ ("git checkout" ∈ names → c ≠ .dev) := by
  obtain ⟨xs, r, m, hr, hex⟩ := Pipeline.execute_run t (.git root c) w
  obtain ⟨full, hcan, hpre⟩ := hex.canonical
  simp only [hr]
  -- every recorded name is in the plan's canonical sequence, which the channel picks
  constructor
  · intro hn
    have hfull : "git rebase" ∈ full := hpre.subset hn
    cases hcan with
    | git ui => cases c <;> cases ui <;> simp [syncNames, buildNames] at hfull ⊢
    | listFailed _ => simp [listFailedNames] at hfull
  · intro hn
    have hfull : "git checkout" ∈ full := hpre.subset hn
    cases hcan with
    | git ui => cases c <;> cases ui <;> simp [syncNames, buildNames] at hfull ⊢
    | listFailed hne => exact hne

structure FollowsChannel (store : String) (o : Options) (w : World) (s : Settled) (w₁ : World) :
    Prop where
  effective : EffectiveChannel o.requestedChannel s.snap (s.targetKind o) (s.channel o)
  plan : ∃ r, (planFor o s.d (s.transition o) (s.channel o).channel s.target).run w₁ = (r, w₁) ∧
    PlanChoice o s w₁.machine r
  target : ∀ target, s.target = some target → ∃ fellBack w₀ w₂,
    (detect o.root statusTimeoutMs).run w = (s.d, w₀) ∧
      (resolveTarget o (s.channel o).channel).run w₀ = ((target, fellBack), w₂)
  sync : ∀ t w', ("git rebase" ∈
      ((Pipeline.execute t (.git o.root (s.channel o).channel)).run w').1.steps.map (·.name) →
        (s.channel o).channel = .dev) ∧
    ("git checkout" ∈
      ((Pipeline.execute t (.git o.root (s.channel o).channel)).run w').1.steps.map (·.name) →
        (s.channel o).channel ≠ .dev)
  report : ∀ res, Planned store o s w₁ res → ∀ rep, res.1 = .ok (.finished rep) →
    rep.channel = s.channel o ∧ rep.target = s.target

theorem Prepares.follows_channel {store : String} {o : Options} {w w₁ : World} {s : Settled}
    (h : Prepares store o w s w₁) : FollowsChannel store o w s w₁ where
  effective := effectiveChannel_resolve _ _ _
  plan := h.plan_choice
  target := fun _ ht => h.target_resolved ht
  sync := fun t w' => Pipeline.git_sync_follows_channel t o.root _ w'
  report := fun _ hp _ hrep => hp.report hrep

/-! ### Asking for `dev` on an npm install -/

def npmWithNotes : World :=
  let w := npmInstall "1.0.0" false []
  let notes := [(["c"], Node.dir 0o755), (["c", "notes.txt"], .file "keep me" 0o644 3)]
  let fs : FileSystem := { w.machine.fs with entries := w.machine.fs.entries ++ notes }
  { w with machine := { w.machine with fs := fs } }

/-- Asking for `dev` on an npm install with no configuration file hands the run over to a
checkout on `dev`. -/
theorem npm_dev_request_follows_channel :
    let w := npmInstall "1.0.0" false []
    let o : Options := { npmRequest false with requestedChannel := some .dev }
    let detected := (detect o.root statusTimeoutMs).run w
    let s : Settled := ⟨{ path := "", present := false, valid := true }, detected.1, none, []⟩
    detected.1.kind = .package ∧ s.targetKind o = .git ∧ (s.channel o).channel = .dev ∧
      FollowsChannel "" o w s detected.2 := by
  intro w o detected s
  have hkind : detected.1.kind = .package := by decide +kernel
  have htk : s.targetKind o = .git := by
    simp only [Settled.targetKind, Settled.transition, s, hkind, o, KindTransition.ofRequest,
      KindTransition.targetKind]
    decide
  refine ⟨hkind, htk, by simp [Settled.channel, o, Resolution.resolve], ?_⟩
  exact Prepares.follows_channel (.ungated rfl (fun _ => rfl) rfl (by rw [htk]; decide) rfl
    (by simp [s, o, npmRequest]))

/-- Asking for `dev` where the checkout directory holds a file but no `.git` fails with
`gitDirNotCheckout`, not with `gitDirNotCore`. -/
theorem notes_dir_is_not_checkout :
    ∃ w', (runUpdate "" { npmRequest false with requestedChannel := some .dev }).run npmWithNotes =
      (.error (.ofUpdate (.gitDirNotCheckout "/c")), w') := by
  have h : failureOf? ((runUpdate "" { npmRequest false with requestedChannel := some .dev }).run
      npmWithNotes) = some (.ofUpdate (.gitDirNotCheckout "/c")) := by
    decide +kernel
  exact ⟨_, eq_error_of_failure h⟩

end Updater
