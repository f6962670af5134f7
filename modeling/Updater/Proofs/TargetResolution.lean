import Updater.Proofs.FinishedRun
import Updater.Proofs.PlanChoice

/-! The target of a run. A package run resolves it right after detection: a tag that is a
semantic version by itself names that version and asks nothing; any other tag, or none, asks the
registry once for its dist-tags (`resolveTarget_run`). The registry is asked nowhere else, so a
whole run asks it once or never (`runUpdate_registryCalls`); a finished package run reports the
target and installs `name@tag` for it first, the name being the one the descriptor at the package
root gives when the pipeline starts (`Pipeline.installName`), and a run that ends with another
kind reports none (`runUpdate_finished_target`). A tag on a checkout is ignored: the run is the one without it, with
one note more (`runUpdate_tag_on_checkout`). `TargetResolution` gathers the four. -/

namespace Updater

/-! ### What the registry is asked -/

theorem Registry.distTags_registryCalls (package : String) (w : World) :
    ((Registry.distTags package).run w).2.registryCalls = w.registryCalls + 1 := by
  cases hr : w.registry with
  | fake tags => simp [Registry.distTags, Registry.readDistTags, hr]
  | unreachable => simp [Registry.distTags, Registry.readDistTags, hr]
  | server s base limit =>
    cases hl : (Http.get s limit (Registry.distTagsUrl base package)).requestLine <;>
      simp [Registry.distTags, Registry.readDistTags, hr, hl]

def needsLookup (tag : Option String) : Bool := (tag.bind Version.ofTag?).isNone

/-- The target the documentation gives a package update, from the dist-tags `tags` the registry
holds: a tag that is a semantic version names that version, without its `v`; any other tag is
looked up; with no tag, the channel resolves. -/
def VersionTarget.forRequest (tag : Option String) (ch : Channel)
    (tags : Option Registry.DistTags) : VersionTarget :=
  match tag with
  | some t => ⟨t, match Version.ofTag? t with
      | some v => some v
      | none => tags.bind (Registry.lookupTag · t)⟩
  | none => let r := Registry.resolveChannel ch tags; ⟨r.tag, r.version⟩

def coreTags (w : World) : Option Registry.DistTags × World :=
  (Registry.distTags Version.corePackage).run w

theorem coreTags_fst_eq {w w' : World} (h : w'.registry = w.registry) :
    (coreTags w').1 = (coreTags w).1 := by
  cases hr : w.registry with
  | fake tags => simp [coreTags, Registry.distTags, Registry.readDistTags, hr, h]
  | unreachable => simp [coreTags, Registry.distTags, Registry.readDistTags, hr, h]
  | server s base limit =>
    cases hl : (Http.get s limit (Registry.distTagsUrl base Version.corePackage)).requestLine <;>
      simp [coreTags, Registry.distTags, Registry.readDistTags, hr, h, hl]

theorem detect_registry (root : String) (t : Nat) (w : World) :
    ((detect root t).run w).2.registry = w.registry ∧
      ((detect root t).run w).2.registryCalls = w.registryCalls := by
  obtain ⟨d, m, xs, hd, -⟩ := asks_detect root t w
  rw [hd]
  exact ⟨rfl, rfl⟩

theorem resolveTarget_run (o : Options) (ch : Channel) (w : World) :
    ∃ fellBack, (resolveTarget o ch).run w =
      ((VersionTarget.forRequest o.tag ch (coreTags w).1, fellBack),
        if needsLookup o.tag then (coreTags w).2 else w) := by
  rcases ht : o.tag with _ | t
  · exact ⟨(Registry.resolveChannel ch (coreTags w).1).fellBack, by
      simp [resolveTarget, ht, Registry.resolveChannelTag, VersionTarget.forRequest, needsLookup,
        coreTags]⟩
  · cases hv : Version.ofTag? t with
    | some v =>
      exact ⟨false, by simp [resolveTarget, ht, hv, Registry.resolveExplicitTag,
        VersionTarget.forRequest, needsLookup]⟩
    | none =>
      exact ⟨false, by simp [resolveTarget, ht, hv, Registry.resolveExplicitTag,
        Registry.fetchTagVersion, VersionTarget.forRequest, needsLookup, coreTags]⟩

/-! ### The registry counter through a run -/

theorem runLocked_registryCalls (store : String) (o : Options) (snap : Config.Snapshot)
    (plan : Plan) (channel : Resolution) (target : Option VersionTarget) (notes : List String)
    (w : World) :
    ((runLocked store o snap plan channel target notes).run w).2.registryCalls =
      w.registryCalls := by
  have h := runLocked_part store o snap plan channel target notes w
  generalize (runLocked store o snap plan channel target notes).run w = res at h
  obtain ⟨out, w'⟩ := res
  obtain ⟨m, xs, rs, c, rfl, -⟩ := h.frame
  rfl

theorem runPlanned_registryCalls (store : String) (o : Options) (snap : Config.Snapshot)
    (d : Descriptor) (t : KindTransition) (channel : Resolution) (target : Option VersionTarget)
    (notes : List String) (w : World) :
    ((runPlanned store o snap d t channel target notes).run w).2.registryCalls =
      w.registryCalls := by
  obtain ⟨r, hr, -⟩ := planFor_run o d t channel.channel target w
  cases r with
  | error f => simp [runPlanned, hr]
  | ok p =>
    simp only [runPlanned, StateT.run_bind, hr, id_bind_apply, StateT.run_pure, id_pure_apply]
    split
    · simpa using runLocked_registryCalls store o snap _ channel target notes w
    · -- the lock changes files and the lock table only
      obtain ⟨l, wl, hl⟩ : ∃ l wl, (Lock.acquire o.stateDir).run w = (l, wl) := ⟨_, _, rfl⟩
      have hlock := Lock.acquire_run o.stateDir w
      rw [hl] at hlock
      simp only [StateT.run_bind, hl, id_bind_apply]
      cases hlock with
      | dirFailed => rfl
      | openFailed => rfl
      | held => rfl
      | taken =>
        simp only [StateT.run_bind, id_bind_apply, Lock.release, StateT.run_modify,
          StateT.run_pure, id_pure_apply]
        exact runLocked_registryCalls store o snap p channel target notes _

theorem GateOutcome.registryCalls_eq {o : Options} {p : Prompter} {current : Option String}
    {target : VersionTarget} {fellBack : Bool} {w : World}
    {next : World → Except Failure Outcome × World}
    (hnext : ∀ w', (next w').2.registryCalls = w'.registryCalls)
    {res : Except Failure Outcome × World}
    (h : GateOutcome o p current target fellBack w next res) :
    res.2.registryCalls = w.registryCalls := by
  cases h with
  | unasked => exact hnext w
  | refused => rfl
  | declined => rfl
  | confirmed => exact hnext _
  | failed => rfl

theorem runUpdate_registryCalls {store : String} {o : Options} {w : World}
    {snap : Config.Snapshot} {d : Descriptor} {w₁ : World}
    (hload : ((Config.load store).run w).1 = .ok snap)
    (hvalid : o.requestedChannel.isSome → snap.valid = true)
    (hd : (detect o.root statusTimeoutMs).run w = (d, w₁)) :
    ((runUpdate store o).run w).2.registryCalls = w.registryCalls +
      if (KindTransition.ofRequest o.requestedChannel d.kind).targetKind d.kind = .package ∧
        needsLookup o.tag = true then 1 else 0 := by
  obtain ⟨r, hr⟩ := Config.reads_load store w
  obtain rfl : r = .ok snap := by rw [← hload, hr]
  have hinv : ¬(o.requestedChannel.isSome = true ∧ snap.valid = false) := fun h => by
    simp [hvalid h.1] at h
  have h₁ : w₁.registryCalls = w.registryCalls := by
    rw [← (detect_registry o.root statusTimeoutMs w).2, hd]
  by_cases hpkg : (KindTransition.ofRequest o.requestedChannel d.kind).targetKind d.kind = .package
  · have h : (runUpdate store o).run w = (runGated store o snap d
        (KindTransition.ofRequest o.requestedChannel d.kind)
        (Resolution.resolve o.requestedChannel snap.storedChannel
          ((KindTransition.ofRequest o.requestedChannel d.kind).targetKind d.kind))).run w₁ := by
      simp [runUpdate, hr, hinv, hd, hpkg]
    rw [h]
    -- the gate and what follows it leave the counter where target resolution left it
    obtain ⟨fb, hres⟩ := resolveTarget_run o (Resolution.resolve o.requestedChannel
      snap.storedChannel ((KindTransition.ofRequest o.requestedChannel d.kind).targetKind
        d.kind)).channel w₁
    have hg := runGated_gate store o snap d (KindTransition.ofRequest o.requestedChannel d.kind)
      _ _ _ fb w₁ _ rfl hres
    rw [hg.registryCalls_eq fun w' => runPlanned_registryCalls store o snap d _ _ _ [] w']
    cases needsLookup o.tag
    · simp [hpkg, h₁]
    · simp [hpkg, h₁, coreTags, Registry.distTags_registryCalls]
  · have h : (runUpdate store o).run w = (runPlanned store o snap d
        (KindTransition.ofRequest o.requestedChannel d.kind)
        (Resolution.resolve o.requestedChannel snap.storedChannel
          ((KindTransition.ofRequest o.requestedChannel d.kind).targetKind d.kind)) none
        (if (KindTransition.ofRequest o.requestedChannel d.kind).targetKind d.kind = .git ∧
            o.tag.isSome then [gitTagIgnoredNote] else [])).run w₁ := by
      by_cases hg : (KindTransition.ofRequest o.requestedChannel d.kind).targetKind d.kind = .git ∧
          o.tag.isSome <;> simp [runUpdate, hr, hinv, hd, hpkg, hg]
    rw [h, runPlanned_registryCalls, h₁]
    simp [hpkg]

/-! ### What a finished run reports -/

theorem RanAll.head {s : Step} {rest : List Step} {xs : List (Command × Answer)}
    {rs : List StepResult} {f : Option String} (h : RanAll (s :: rest) xs rs f) :
    ∃ a, rs.head? = some (StepResult.ofAnswer s a) := by
  cases h with
  | failed _ a => exact ⟨a, rfl⟩
  | next _ a => exact ⟨a, rfl⟩

namespace Pipeline

theorem Updated.head {t : Nat} {m : Manager} {root spec : String} {ux : List (Command × Answer)}
    {us : List StepResult} {f : Option String} (h : Updated t m root spec ux us f) :
    ∃ st a, argvStep t "global update" (m.globalInstallArgs spec) none = some st ∧
      us.head? = some (StepResult.ofAnswer st a) := by
  obtain ⟨st, hst⟩ :
      ∃ st, argvStep t "global update" (m.globalInstallArgs spec) none = some st := by
    cases m <;> exact ⟨_, rfl⟩
  cases h with
  | failed hran | noDoctor hran =>
    rw [hst] at hran
    obtain ⟨a, ha⟩ := hran.head
    exact ⟨st, a, hst, ha⟩
  | doctor hran =>
    rw [hst] at hran
    obtain ⟨a, ha⟩ := hran.head
    -- the doctor's steps come after the update's
    exact ⟨st, a, hst, by simp [List.head?_append, ha]⟩

/-- The name a package update installs when its pipeline starts in `w`: the one the descriptor
at the package root gives once that root is found, else the core package's. -/
def installName (m : Manager) (known : Option String) (fallback : String) (w : World) : String :=
  let found := (packageRoot m known fallback).run w
  ((Package.readName found.1).run found.2).1.getD Version.corePackage

theorem runPackage_installs_name (t : Nat) (known : Option String) (fallback : String)
    (m : Manager) (target : VersionTarget) (w : World) :
    ∃ st a, argvStep t "global update"
        (m.globalInstallArgs (installName m known fallback w ++ "@" ++ target.tag)) none = some st ∧
      ((runPackage t known fallback m target).run w).1.steps.head? =
        some (StepResult.ofAnswer st a) := by
  obtain ⟨gx, ux, root, r, m', h, -, -, w₁, hroot, us, f, hup, hcon⟩ :=
    runPackage_run t known fallback m target w
  have hname : installName m known fallback w =
      ((Package.readName root).run w₁).1.getD Version.corePackage := by
    simp only [installName, hroot]
  obtain ⟨st, a, hst, ha⟩ := hup.head
  refine ⟨st, a, hname ▸ hst, ?_⟩
  rw [h, hcon.steps_eq]
  exact ha

end Pipeline

namespace Prepares

variable {store : String} {o : Options} {w wₛ : World} {s : Settled}

theorem load_detect (h : Prepares store o w s wₛ) :
    ((Config.load store).run w).1 = .ok s.snap ∧
      ∃ w₁, (detect o.root statusTimeoutMs).run w = (s.d, w₁) := by
  cases h with
  | gated hl _ hd => exact ⟨hl, _, hd⟩
  | ungated hl _ hd => exact ⟨hl, _, hd⟩

theorem target_eq_none (h : Prepares store o w s wₛ) (hk : s.targetKind o ≠ .package) :
    s.target = none := by
  cases h with
  | gated _ _ _ hk' => exact absurd hk' hk
  | ungated _ _ _ _ ht => exact ht

theorem package_plan (h : Prepares store o w s wₛ) (hk : s.targetKind o = .package) {plan : Plan}
    (hplan : (planFor o s.d (s.transition o) (s.channel o).channel s.target).run wₛ =
      (.ok plan, wₛ)) :
    ∃ target m, s.target = some target ∧
      (plan = .package o.root m target ∨ plan = .switchToPackage o.root m target) := by
  obtain ⟨r, hr, hc⟩ := h.plan_choice
  have hrp : r = .ok plan := (Prod.mk.inj (hr.symm.trans hplan)).1
  -- the plans of a checkout and of an unknown installation end with another kind
  cases hc with
  | switchToGit _ hdev hgit =>
    simp [Settled.targetKind, Settled.transition, KindTransition.ofRequest, hdev, hgit,
      KindTransition.targetKind] at hk
  | switchToPackage mgr _ _ _ ht => exact ⟨_, mgr, ht, .inr (Except.ok.inj hrp).symm⟩
  | git hgit hreq =>
    rcases hreq with hreq | hreq <;>
      simp [Settled.targetKind, Settled.transition, KindTransition.ofRequest, hreq, hgit,
        KindTransition.targetKind] at hk
  | package mgr _ _ ht => exact ⟨_, mgr, ht, .inl (Except.ok.inj hrp).symm⟩
  | unsupported hunk hreq =>
    rcases hr' : o.requestedChannel with _ | ⟨_ | _ | _⟩ <;>
      simp [Settled.targetKind, Settled.transition, KindTransition.ofRequest, hunk, hr',
        KindTransition.targetKind] at hk hreq

end Prepares

theorem LockedPart.report {store : String} {o : Options} {snap : Config.Snapshot} {plan : Plan}
    {channel : Resolution} {target : Option VersionTarget} {notes : List String} {w w' : World}
    {rep : UpdateReport} (h : LockedPart store o snap plan channel target notes w (.ok rep, w')) :
    rep.target = target ∧ ∃ persisted w₁ w₂, Persisted store o snap w persisted w₁ ∧
      (Pipeline.execute o.stepTimeoutMs plan).run w₁ = (rep.result, w₂) := by
  cases h with
  | ran hpers hex hafter =>
    obtain ⟨hres, -, htarget⟩ := hafter.result
    exact ⟨htarget, _, _, _, hpers, by rw [hres]; exact hex⟩

theorem runUpdate_finished_target {store : String} {o : Options} {w : World}
    {snap : Config.Snapshot} {d : Descriptor} {w₁ : World}
    (hload : ((Config.load store).run w).1 = .ok snap)
    (hd : (detect o.root statusTimeoutMs).run w = (d, w₁)) {rep : UpdateReport} {w' : World}
    (h : (runUpdate store o).run w = (.ok (.finished rep), w')) :
    let k := (KindTransition.ofRequest o.requestedChannel d.kind).targetKind d.kind
    let tg := VersionTarget.forRequest o.tag
      (Resolution.resolve o.requestedChannel snap.storedChannel k).channel (coreTags w).1
    rep.target = (if k = .package then some tg else none) ∧
      (k = .package → ∃ (plan : Plan) (wₚ : World) (m : Manager) (known : Option String)
          (st : Step) (a : Answer), ReachesPipeline store o w plan wₚ ∧
        (plan = .package o.root m tg ∧ known = some o.root ∨
          plan = .switchToPackage o.root m tg ∧ known = none) ∧
        Pipeline.argvStep o.stepTimeoutMs "global update"
          (m.globalInstallArgs (Pipeline.installName m known o.root wₚ ++ "@" ++ tg.tag)) none =
          some st ∧
        rep.result.steps.head? = some (StepResult.ofAnswer st a)) := by
  intro k tg
  obtain ⟨s, wₛ, w₀, w₂, plan, hp, hplan, hw₀, hpart, -⟩ := runUpdate_finished h
  -- what the run settled is what it loaded and detected
  obtain ⟨hl, w₁', hd'⟩ := hp.load_detect
  have hsnap : s.snap = snap := Except.ok.inj (hl.symm.trans hload)
  obtain ⟨hsd, -⟩ := Prod.mk.inj (hd'.symm.trans hd)
  have hk : s.targetKind o = k := by simp only [Settled.targetKind, Settled.transition, hsd, k]
  obtain ⟨htarget, persisted, wₚ, w₃, hpers, hex⟩ := hpart.report
  by_cases hpkg : k = .package
  · -- the target was resolved right after detection, with the registry as it was at the start
    obtain ⟨tg', hs⟩ := hp.target_of_package (hk.trans hpkg)
    obtain ⟨fb, w₀', w₂', hd'', hres⟩ := hp.target_resolved hs
    obtain ⟨fb', hres'⟩ := resolveTarget_run o (s.channel o).channel w₀'
    have hreg : w₀'.registry = w.registry := by
      rw [← (detect_registry o.root statusTimeoutMs w).1, hd'']
    have htg : tg' = tg := by
      have h' := (Prod.mk.inj (hres.symm.trans hres')).1
      rw [coreTags_fst_eq hreg] at h'
      rw [(Prod.mk.inj h').1]
      simp only [Settled.channel, hsnap, hk, tg]
    rw [htg] at hs
    refine ⟨by rw [htarget, hs, if_pos hpkg], fun _ => ?_⟩
    -- the plan updates the package at the root to that target, from where the pipeline starts
    obtain ⟨target, m, hs', hplan'⟩ := hp.package_plan (hk.trans hpkg) hplan
    obtain rfl : target = tg := Option.some.inj (hs'.symm.trans hs)
    have hreach : ReachesPipeline store o w plan wₚ := ⟨s, wₛ, w₀, persisted, hp, hplan, hw₀, hpers⟩
    rcases hplan' with rfl | rfl <;> simp only [Pipeline.execute] at hex
    · obtain ⟨st, a, hst, ha⟩ :=
        Pipeline.runPackage_installs_name o.stepTimeoutMs (some o.root) o.root m tg wₚ
      refine ⟨_, wₚ, m, some o.root, st, a, hreach, .inl ⟨rfl, rfl⟩, hst, ?_⟩
      rw [← ha, hex]
    · obtain ⟨st, a, hst, ha⟩ :=
        Pipeline.runPackage_installs_name o.stepTimeoutMs none o.root m tg wₚ
      refine ⟨_, wₚ, m, none, st, a, hreach, .inr ⟨rfl, rfl⟩, hst, ?_⟩
      rw [← ha, hex]
  · exact ⟨by rw [htarget, hp.target_eq_none (hk ▸ hpkg), if_neg hpkg], fun h => absurd h hpkg⟩

/-! ### A tag on a checkout -/

def Outcome.withNote (note : String) : Outcome → Outcome
  | .cancelled => .cancelled
  | .finished rep => .finished { rep with notes := note :: rep.notes }

theorem runLocked_notes (store : String) (o : Options) (snap : Config.Snapshot) (plan : Plan)
    (channel : Resolution) (target : Option VersionTarget) (n : String) (ns : List String)
    (w : World) :
    (runLocked store o snap plan channel target (n :: ns)).run w =
      (((runLocked store o snap plan channel target ns).run w).1.map
          fun rep => { rep with notes := n :: rep.notes },
        ((runLocked store o snap plan channel target ns).run w).2) := by
  -- both runs take the same branches; the channel first, then the rest the same way in each case
  rcases hch : o.requestedChannel with _ | ch
  case' none => simp only [runLocked, hch, StateT.run_bind, id_bind_apply, pure_bind]
  case' some =>
    cases hv : snap.valid
    case' false =>
      simp only [runLocked, hch, hv, StateT.run_bind, id_bind_apply, pure_bind,
        Bool.false_eq_true, ↓reduceIte]
    case' true =>
      obtain ⟨u, w₁, hper⟩ : ∃ u w₁, (Config.persistChannel store ch).run w = (u, w₁) :=
        ⟨_, _, rfl⟩
      cases u
      case error f => simp [runLocked, hch, hv, hper, Except.map]
      case' ok u =>
        simp only [runLocked, hch, hv, hper, StateT.run_bind, id_bind_apply, pure_bind,
          ↓reduceIte]
  all_goals
    generalize (Pipeline.execute o.stepTimeoutMs plan).run _ = e
    obtain ⟨r, w₂⟩ := e
    by_cases hok : r.status = .ok
    rotate_left
    · simp [hok, Except.map]
    obtain ⟨loaded, hload⟩ := Config.reads_load store w₂
    cases loaded with
    | error f => simp [hok, hload, Except.map]
    | ok fresh =>
      obtain ⟨pl, w₃, hrec⟩ : ∃ pl w₃,
          (Plugin.reconcile store fresh.config channel.channel r.root).run w₂ = (pl, w₃) :=
        ⟨_, _, rfl⟩
      obtain ⟨rr, w₄, h₄⟩ : ∃ rr w₄, Service.restartAndVerify.run w₂ = (rr, w₄) := ⟨_, _, rfl⟩
      obtain ⟨rr', w₅, h₅⟩ : ∃ rr w₅, Service.restartAndVerify.run w₃ = (rr, w₅) := ⟨_, _, rfl⟩
      cases hfv : fresh.valid <;> cases o.restart <;>
        simp [hok, hload, hfv, hrec, h₄, h₅, Except.map]

theorem runPlanned_notes (store : String) (o : Options) (snap : Config.Snapshot) (d : Descriptor)
    (t : KindTransition) (channel : Resolution) (target : Option VersionTarget) (n : String)
    (ns : List String) (w : World) :
    (runPlanned store o snap d t channel target (n :: ns)).run w =
      (((runPlanned store o snap d t channel target ns).run w).1.map (Outcome.withNote n),
        ((runPlanned store o snap d t channel target ns).run w).2) := by
  obtain ⟨r, hr, -⟩ := planFor_run o d t channel.channel target w
  cases r with
  | error f => simp [runPlanned, hr, Except.map]
  | ok p =>
    simp only [runPlanned, StateT.run_bind, hr, id_bind_apply, StateT.run_pure, id_pure_apply]
    split
    · simp only [StateT.run_bind, runLocked_notes, id_bind_apply, StateT.run_pure, id_pure_apply]
      cases ((runLocked store o snap _ channel target ns).run w).1 <;> rfl
    · obtain ⟨l, wl, hl⟩ : ∃ l wl, (Lock.acquire o.stateDir).run w = (l, wl) := ⟨_, _, rfl⟩
      cases l with
      | error f => simp [hl, Except.map]
      | ok lock =>
        simp only [StateT.run_bind, hl, id_bind_apply, runLocked_notes]
        cases ((runLocked store o snap p channel target ns).run wl).1 <;> rfl

theorem runUpdate_tag_on_checkout (store : String) (o : Options) (w : World) {d : Descriptor}
    {w₁ : World} (hd : (detect o.root statusTimeoutMs).run w = (d, w₁))
    (hk : (KindTransition.ofRequest o.requestedChannel d.kind).targetKind d.kind = .git)
    (ht : o.tag.isSome) :
    (runUpdate store o).run w =
      (((runUpdate store { o with tag := none }).run w).1.map (Outcome.withNote gitTagIgnoredNote),
        ((runUpdate store { o with tag := none }).run w).2) := by
  obtain ⟨r, hr⟩ := Config.reads_load store w
  cases r with
  | error f => simp [runUpdate, hr, Except.map]
  | ok snap =>
    by_cases hinv : o.requestedChannel.isSome = true ∧ snap.valid = false
    · simp [runUpdate, hr, hinv, Except.map]
    · -- planning and the locked part read every option but the tag
      simp [runUpdate, hr, hinv, hd, hk, ht]
      exact runPlanned_notes store o snap d _ _ none gitTagIgnoredNote [] w₁

/-! ### The target of a run -/

/-- What a run of the engine from `w` does with its target, where `k` is the kind of installation
it ends with and `tg` the target the documentation gives a package update. -/
structure TargetResolution (store : String) (o : Options) (w : World) (k : InstallKind)
    (tg : VersionTarget) : Prop where
  /-- The registry is asked once for a package with no tag or a tag that is not a version, and
  never otherwise. -/
  registryCalls : ((runUpdate store o).run w).2.registryCalls =
    w.registryCalls + if k = .package ∧ needsLookup o.tag = true then 1 else 0
  /-- A finished run reports `tg` for a package and no target otherwise, and its first step
  installs `name@tg.tag` for a package, with the name read at the package root when the
  pipeline starts, else the core package's. -/
  finished : ∀ rep w', (runUpdate store o).run w = (.ok (.finished rep), w') →
    rep.target = (if k = .package then some tg else none) ∧
      (k = .package → ∃ (plan : Plan) (wₚ : World) (m : Manager) (known : Option String)
          (st : Step) (a : Answer), ReachesPipeline store o w plan wₚ ∧
        (plan = .package o.root m tg ∧ known = some o.root ∨
          plan = .switchToPackage o.root m tg ∧ known = none) ∧
        Pipeline.argvStep o.stepTimeoutMs "global update"
          (m.globalInstallArgs (Pipeline.installName m known o.root wₚ ++ "@" ++ tg.tag)) none =
          some st ∧
        rep.result.steps.head? = some (StepResult.ofAnswer st a))
  gitTag : k = .git → o.tag.isSome →
    (runUpdate store o).run w =
      (((runUpdate store { o with tag := none }).run w).1.map (Outcome.withNote gitTagIgnoredNote),
        ((runUpdate store { o with tag := none }).run w).2)

theorem runUpdate_target_resolution (store : String) (o : Options) (w : World)
    {snap : Config.Snapshot} (hload : ((Config.load store).run w).1 = .ok snap)
    (hvalid : o.requestedChannel.isSome → snap.valid = true) :
    ∃ d w₁, (detect o.root statusTimeoutMs).run w = (d, w₁) ∧
      TargetResolution store o w
        ((KindTransition.ofRequest o.requestedChannel d.kind).targetKind d.kind)
        (VersionTarget.forRequest o.tag (Resolution.resolve o.requestedChannel snap.storedChannel
          ((KindTransition.ofRequest o.requestedChannel d.kind).targetKind d.kind)).channel
          (coreTags w).1) := by
  obtain ⟨d, w₁, hd⟩ : ∃ d w₁, (detect o.root statusTimeoutMs).run w = (d, w₁) := ⟨_, _, rfl⟩
  exact ⟨d, w₁, hd, runUpdate_registryCalls hload hvalid hd,
    fun _ _ h => runUpdate_finished_target hload hd h,
    fun hk ht => runUpdate_tag_on_checkout store o w hd hk ht⟩

/-- An npm install of `1.0.0` whose registry tags `latest` as `1.2.0`, updated with no channel
and no tag: the run goes to a package, asks the registry for its tags, and targets `latest`. -/
theorem npm_latest_target_resolution :
    let w := npmInstall "1.0.0" true [("latest", "1.2.0")]
    let snap : Config.Snapshot := { path := "", present := false, valid := true }
    ((Config.load "").run w).1 = .ok snap ∧
      ((npmRequest false).requestedChannel.isSome → snap.valid = true) ∧
      ∃ d w₁, (detect (npmRequest false).root statusTimeoutMs).run w = (d, w₁) ∧
        d.kind = .package ∧
        TargetResolution "" (npmRequest false) w .package ⟨"latest", some "1.2.0"⟩ := by
  intro w snap
  obtain ⟨d, w₁, hd, hres⟩ :=
    @runUpdate_target_resolution "" (npmRequest false) w snap rfl nofun
  have hkind : d.kind = .package := by
    rw [(Prod.mk.inj hd).1.symm]
    decide +kernel
  have htg : VersionTarget.forRequest none (Resolution.resolve none snap.storedChannel .package).channel
      (coreTags w).1 = ⟨"latest", some "1.2.0"⟩ := by
    decide +kernel
  simp only [hkind, npmRequest] at hres
  exact ⟨rfl, nofun, d, w₁, hd, hkind, htg ▸ hres⟩

end Updater
