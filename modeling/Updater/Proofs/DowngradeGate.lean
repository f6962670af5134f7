import Updater.Update.Engine
import Updater.Proofs.Effects
/-!
The downgrade gate of a package update.

On an install detected as a package that stays one, the engine reads the installed version and
resolves the target; up to there it has only read files, probed the installation through the
runner and asked the registry. The gate then answers. With `--yes`, or when no confirmation is
needed, the run goes on without a question. When one is needed and no answer can be had (JSON
output, or no terminal) the run fails with `confirmationRequired` before anything is locked,
written or run. Otherwise the person at the terminal is asked once: a no cancels the run, a
yes lets it go on, and an answer that cannot be read (an interrupt, a failed read) ends the run
with that failure, again before anything is locked, written or run.

A confirmation is needed for an unknown target, or for one older than the installed version by
their leading `major.minor.patch`. Between readable versions that is the whole rule
(`needsConfirmation_eq_false_iff`), but a target version with no such triple compares as
nothing, and so needs no confirmation (`needsConfirmation_of_unreadable`).
-/

namespace Updater

/-! ### Before the gate -/

theorem Config.reads_load (store : String) : Act.Reads (Config.load store) := by
  unfold Config.load
  refine .bind (Act.reads_exists store) fun present => ?_
  cases present
  · exact .pure _
  · exact .bind (Act.reads_readFile store) fun r => by
      rcases r with _ | text
      · exact .pure _
      · dsimp only
        split <;> exact .pure _

namespace Registry

theorem onRegistry_readDistTags (package : String) : Act.OnRegistry (readDistTags package) := by
  intro w
  unfold readDistTags
  cases hr : w.registry with
  | fake tags => exact ⟨_, _, _, _, by simp [hr]; rfl⟩
  | unreachable => exact ⟨_, _, _, _, by simp [hr]; rfl⟩
  | server s base limit =>
    -- a server is asked only when the request reaches it
    cases hl : (Http.get s limit (distTagsUrl base package)).requestLine <;>
      exact ⟨_, _, _, _, by simp [hr, hl]; rfl⟩

theorem onRegistry_distTags (package : String) : Act.OnRegistry (distTags package) :=
  .bind (onRegistry_readDistTags package) fun _ => .pure _

theorem onRegistry_resolveExplicitTag (package tag : String) :
    Act.OnRegistry (resolveExplicitTag package tag) := by
  unfold resolveExplicitTag fetchTagVersion
  split
  · exact .pure _
  · exact .bind (.bind (onRegistry_distTags package) fun _ => .pure _) fun _ => .pure _

end Registry

theorem onRegistry_resolveTarget (o : Options) (channel : Channel) :
    Act.OnRegistry (resolveTarget o channel) := by
  unfold resolveTarget Registry.resolveChannelTag
  split
  · exact .bind (Registry.onRegistry_resolveExplicitTag _ _) fun _ => .pure _
  · exact .bind (.bind (Registry.onRegistry_distTags _) fun _ => .pure _) fun _ => .pure _

/-- The commands detection may send the runner, each with the time limit `t`: the three
questions to a checkout at `root`, and the global roots of npm and pnpm. -/
def detectionProbes (root : String) (t : Nat) : List Command :=
  [(Git.currentBranch root).withTimeout (some t), (Git.exactTag root).withTimeout (some t),
    (Git.revParseHead root).withTimeout (some t),
    { program := Manager.npm.program, args := ["root", "-g"], timeoutMs := some t },
    { program := Manager.pnpm.program, args := ["root", "-g"], timeoutMs := some t }]

theorem Manager.asks_globalRoot (m : Manager) (root : String) (t : Nat) :
    Act.Asks (detectionProbes root t) (m.globalRoot t) := by
  unfold Manager.globalRoot
  cases m with
  | npm | pnpm =>
    exact .bind (Act.asks_run (by simp [detectionProbes])) fun a => by cases a <;> exact .pure _
  | bun =>
    exact .bind (Act.reads_getEnv _).asks fun _ =>
      .bind Act.reads_machine.asks fun _ => .pure _

theorem reads_samePath (a b : String) : Act.Reads (samePath a b) :=
  .bind Act.reads_machine fun _ => .pure _

theorem asks_managerForRoot (root : String) (t : Nat) :
    Act.Asks (detectionProbes root t) (managerForRoot root t) := by
  unfold managerForRoot
  refine .bind (.forIn _ _ _ fun m _ => .bind (m.asks_globalRoot root t) fun g => ?_) fun r => ?_
  · cases g with
    | none => exact .pure _
    | some g =>
      cases Path.parent? root with
      | none => exact .pure _
      | some p => exact .bind (reads_samePath p g).asks fun b => by cases b <;> exact .pure _
  · obtain ⟨_ | m, _⟩ := r <;> exact .pure _

theorem Git.asks_readInfo (root : String) (t : Nat) :
    Act.Asks (detectionProbes root t) (Git.readInfo root t) :=
  .bind (Git.asks_probe (by simp [detectionProbes])) fun _ =>
    .bind (Git.asks_probe (by simp [detectionProbes])) fun _ =>
      .bind (Git.asks_probe (by simp [detectionProbes])) fun _ => .pure _

theorem asks_detect (root : String) (t : Nat) : Act.Asks (detectionProbes root t) (detect root t) := by
  unfold detect
  refine .bind (Act.reads_exists _).asks fun a =>
    .bind (Package.reads_isCore root).asks fun b => ?_
  cases a && b
  · exact .bind (asks_managerForRoot root t) fun r => by cases r <;> exact .pure _
  · exact .bind (Git.asks_readInfo root t) fun _ => .pure _

theorem probes_detect (root : String) (t : Nat) : Act.Probes (detect root t) :=
  (asks_detect root t).probes

/-! ### Which targets need a confirmation -/

namespace Version

theorem compareCoarse_eq_none_of_right {c v : String} (hv : triple? v = none) :
    compareCoarse c v = none := by
  cases hc : triple? c <;> simp [compareCoarse, hc, hv]

theorem compareCoarse_isSome {c v : String} (hc : (triple? c).isSome) (hv : (triple? v).isSome) :
    (compareCoarse c v).isSome := by
  obtain ⟨⟨a, b, d⟩, hc⟩ := Option.isSome_iff_exists.mp hc
  obtain ⟨⟨a', b', d'⟩, hv⟩ := Option.isSome_iff_exists.mp hv
  simp [compareCoarse, hc, hv]

theorem needsConfirmation_eq_false_iff {c : String} {t : Option String}
    (hc : (triple? c).isSome) (ht : ∀ v, t = some v → (triple? v).isSome) :
    needsConfirmation (some c) t false = false ↔
      ∃ v, t = some v ∧ (compareCoarse c v = some .lt ∨ compareCoarse c v = some .eq) := by
  cases t with
  | none => simp [needsConfirmation]
  | some v =>
    obtain ⟨r, hr⟩ := Option.isSome_iff_exists.mp (compareCoarse_isSome hc (ht v rfl))
    cases r <;> simp [needsConfirmation, hr]

theorem needsConfirmation_of_unreadable (c : String) {v : String} (hv : triple? v = none)
    (fellBack : Bool) : needsConfirmation (some c) (some v) fellBack = false := by
  cases fellBack <;> simp [needsConfirmation, compareCoarse_eq_none_of_right hv]

end Version

/-! ### The gate -/

/-- How a run ends at the downgrade gate, for the installed version `current`, the resolved
`target`, whether the channel `fellBack`, the prompter `p` and the world `w` at the gate;
`next` is the rest of the run from a world. -/
inductive GateOutcome (o : Options) (p : Prompter) (current : Option String)
    (target : VersionTarget) (fellBack : Bool) (w : World)
    (next : World → Except Failure Outcome × World) : Except Failure Outcome × World → Prop
  | unasked :
      o.assumeYes = true ∨ Version.needsConfirmation current target.version fellBack = false →
      GateOutcome o p current target fellBack w next (next w)
  | refused (reason : String) :
      o.assumeYes = false → Version.needsConfirmation current target.version fellBack = true →
      o.json = true ∧ reason = "JSON output cannot prompt for confirmation" ∨
        o.json = false ∧ p.interactive = false ∧ reason = "no interactive terminal is attached" →
      GateOutcome o p current target fellBack w next
        (.error (.ofUpdate (.confirmationRequired (current.getD "unknown") target.label reason)), w)
  | declined :
      o.assumeYes = false → Version.needsConfirmation current target.version fellBack = true →
      o.json = false → p.interactive = true → p.reply = .ok false →
      GateOutcome o p current target fellBack w next
        (.ok .cancelled,
          { w with asked := w.asked ++ [downgradeMessage (current.getD "unknown") target] })
  | confirmed :
      o.assumeYes = false → Version.needsConfirmation current target.version fellBack = true →
      o.json = false → p.interactive = true → p.reply = .ok true →
      GateOutcome o p current target fellBack w next
        (next { w with asked := w.asked ++ [downgradeMessage (current.getD "unknown") target] })
  | failed {f : Failure} :
      o.assumeYes = false → Version.needsConfirmation current target.version fellBack = true →
      o.json = false → p.interactive = true → p.reply = .error f →
      GateOutcome o p current target fellBack w next (.error f, w)

theorem runGated_gate (store : String) (o : Options) (snap : Config.Snapshot) (d : Descriptor)
    (t : KindTransition) (channel : Resolution) (current : Option String) (target : VersionTarget)
    (fellBack : Bool) (w₁ w₂ : World)
    (hread : (if t = .switchToPackage then none else ((Package.readVersion o.root).run w₁).1) =
      current)
    (hres : (resolveTarget o channel.channel).run w₁ = ((target, fellBack), w₂)) :
    GateOutcome o w₂.prompter current target fellBack w₂
      (fun w => (runPlanned store o snap d t channel (some target) []).run w)
      ((runGated store o snap d t channel).run w₁) := by
  -- the version read leaves the world as it was and gives `current`, whichever branch reads it
  have hv : ∀ f : Option String → Act (Except Failure (Option VersionTarget)),
      (if t == KindTransition.switchToPackage then pure none >>= f
        else Package.readVersion o.root >>= f).run w₁ = (f current).run w₁ := by
    intro f
    obtain ⟨v, hv⟩ := Package.reads_readVersion o.root w₁
    by_cases ht : t = .switchToPackage
    · simp only [ht, ↓reduceIte] at hread
      simp [ht, hread]
    · simp only [ht, ↓reduceIte, hv] at hread
      simp [ht, StateT.run_bind, hv, hread]
  unfold runGated confirmTarget
  simp only [StateT.run_bind, hv, bind_pure_comp, StateT.run_get, id_pure_apply,
    id_bind_apply, hres]
  -- the gate checks `--yes` and the need first, then JSON output, the terminal and its reply
  by_cases hgo : o.assumeYes = true ∨
      Version.needsConfirmation current target.version fellBack = false
  · have hp : (o.assumeYes || !Version.needsConfirmation current target.version fellBack) = true := by
      simpa using hgo
    simp [confirmDowngrade, hp]
    exact .unasked hgo
  · obtain ⟨hy, hn⟩ : o.assumeYes = false ∧
        Version.needsConfirmation current target.version fellBack = true := by simpa using hgo
    cases hj : o.json
    case true =>
      simp [confirmDowngrade, hy, hn]
      exact .refused _ hy hn (.inl ⟨hj, rfl⟩)
    case false =>
      cases hi : w₂.prompter.interactive
      case false =>
        simp [confirmDowngrade, hy, hn, hi]
        exact .refused _ hy hn (.inr ⟨hj, hi, rfl⟩)
      case true =>
        rcases hr : w₂.prompter.reply with f | yes
        · simp [confirmDowngrade, hy, hn, hi, hr]
          exact .failed hy hn hj hi hr
        · cases yes
          · simp [confirmDowngrade, hy, hn, hi, hr]
            exact .declined hy hn hj hi hr
          · simp [confirmDowngrade, hy, hn, hi, hr]
            exact .confirmed hy hn hj hi hr

theorem runGated_outcome (store : String) (o : Options) (snap : Config.Snapshot) (d : Descriptor)
    (channel : Resolution) (current : Option String) (target : VersionTarget) (fellBack : Bool)
    (w₁ w₂ : World) (hread : ((Package.readVersion o.root).run w₁).1 = current)
    (hres : (resolveTarget o channel.channel).run w₁ = ((target, fellBack), w₂)) :
    GateOutcome o w₂.prompter current target fellBack w₂
      (fun w => (runPlanned store o snap d .stay channel (some target) []).run w)
      ((runGated store o snap d .stay channel).run w₁) :=
  runGated_gate store o snap d .stay channel current target fellBack w₁ w₂
    (by simpa using hread) hres

theorem runUpdate_of_package (store : String) (o : Options) (w w₁ : World)
    (snap : Config.Snapshot) (d : Descriptor)
    (hload : ((Config.load store).run w).1 = .ok snap)
    (hvalid : o.requestedChannel.isSome → snap.valid = true)
    (hdetect : (detect o.root statusTimeoutMs).run w = (d, w₁)) (hkind : d.kind = .package)
    (hstay : KindTransition.ofRequest o.requestedChannel .package = .stay) :
    (runUpdate store o).run w = (runGated store o snap d .stay
      (Resolution.resolve o.requestedChannel snap.storedChannel .package)).run w₁ := by
  obtain ⟨r, hr⟩ := Config.reads_load store w
  obtain rfl : r = .ok snap := by rw [← hload, hr]
  have hguard : ¬(o.requestedChannel.isSome = true ∧ snap.valid = false) := fun h => by
    simp [hvalid h.1] at h
  simp [runUpdate, hr, hguard, hdetect, hkind, hstay, KindTransition.targetKind]

theorem runUpdate_packageGate (store : String) (o : Options) (w : World) (snap : Config.Snapshot)
    (hload : ((Config.load store).run w).1 = .ok snap)
    (hvalid : o.requestedChannel.isSome → snap.valid = true)
    (hkind : ((detect o.root statusTimeoutMs).run w).1.kind = .package)
    (hstay : KindTransition.ofRequest o.requestedChannel .package = .stay) :
    let detected := (detect o.root statusTimeoutMs).run w
    let channel := Resolution.resolve o.requestedChannel snap.storedChannel .package
    let resolved := (resolveTarget o channel.channel).run detected.2
    (∃ m xs reg n rq,
      resolved.2 = { w.extend m xs [] with registry := reg, registryCalls := n, requests := rq }) ∧
    GateOutcome o w.prompter ((Package.readVersion o.root).run detected.2).1 resolved.1.1
      resolved.1.2 resolved.2
      (fun w' => (runPlanned store o snap detected.1 .stay channel (some resolved.1.1) []).run w')
      ((runUpdate store o).run w) := by
  intro detected channel resolved
  -- detection only probes and resolution only asks the registry, which pins both worlds
  obtain ⟨d, m, xs, hd⟩ := probes_detect o.root statusTimeoutMs w
  have h₁ : detected.2 = w.extend m xs [] := congrArg Prod.snd hd
  obtain ⟨t, reg, n, rq, hr⟩ := onRegistry_resolveTarget o channel.channel (w.extend m xs [])
  have h₂ : resolved.2 =
      { w.extend m xs [] with registry := reg, registryCalls := n, requests := rq } := by
    show ((resolveTarget o channel.channel).run detected.2).2 = _
    rw [h₁, hr]
  refine ⟨⟨m, xs, reg, n, rq, h₂⟩, ?_⟩
  have hp : resolved.2.prompter = w.prompter := by rw [h₂]; rfl
  rw [runUpdate_of_package store o w detected.2 snap detected.1 hload hvalid rfl hkind hstay, ← hp]
  exact runGated_outcome store o snap detected.1 channel _ resolved.1.1 resolved.1.2 detected.2
    resolved.2 rfl rfl

/-! ### A package install at a given version

The concrete runs below are on one machine: npm keeps its global packages in `/g/node_modules`,
which holds the core package at some version, and every command answers with that directory. -/

def npmInstall (version : String) (entry : Bool) (tags : Registry.DistTags) : World :=
  let pkg := ["g", "node_modules", "openclaw"]
  let descriptor := "\x7b\"name\": \"openclaw\", \"version\": \"" ++ version ++ "\"\x7d"
  let doctor := if entry then
      [(pkg ++ ["dist"], Node.dir 0o755), (pkg ++ ["dist", "entry.js"], .file "" 0o644 2)]
    else []
  let entries := [(["g"], Node.dir 0o755), (["g", "node_modules"], .dir 0o755), (pkg, .dir 0o755),
    (pkg ++ ["package.json"], .file descriptor 0o644 1)] ++ doctor
  { machine := { fs := { entries := entries, nextInode := 3 } },
    runner := .scripted [{ pattern := "", reply := .output { stdout := "/g/node_modules" } }],
    registry := .fake (some tags) }

def npmRequest (json : Bool) : Options :=
  { root := "/g/node_modules/openclaw", json := json, gitDir := "/c", stateDir := "/s" }

def finishedReport? (res : Except Failure Outcome × World) : Option UpdateReport :=
  match res.1 with
  | .ok (.finished rep) => some rep
  | _ => none

theorem eq_finished_of_report {res : Except Failure Outcome × World} {rep : UpdateReport}
    (h : finishedReport? res = some rep) : res = (.ok (.finished rep), res.2) := by
  rcases res with ⟨f | _ | rep', w'⟩
  · simp [finishedReport?] at h
  · simp [finishedReport?] at h
  · simp only [finishedReport?, Option.some.injEq] at h
    rw [h]

theorem finished_of_report_map {β : Type} {res : Except Failure Outcome × World}
    {f : UpdateReport → β} {b : β} (h : (finishedReport? res).map f = some b) :
    ∃ rep, res = (.ok (.finished rep), res.2) ∧ f rep = b := by
  obtain ⟨rep, hr, hb⟩ := Option.map_eq_some_iff.mp h
  exact ⟨rep, eq_finished_of_report hr, hb⟩

def failureOf? (res : Except Failure Outcome × World) : Option Failure :=
  match res.1 with
  | .error f => some f
  | .ok _ => none

theorem eq_error_of_failure {res : Except Failure Outcome × World} {f : Failure}
    (h : failureOf? res = some f) : res = (.error f, res.2) := by
  rcases res with ⟨f' | _, w'⟩
  · simp only [failureOf?, Option.some.injEq] at h
    rw [h]
  · simp [failureOf?] at h

theorem garbage_latest_json_gate :
    let w := npmInstall "2.0.0" false [("latest", "garbage")]
    let snap : Config.Snapshot := { path := "", present := false, valid := true }
    let detected := (detect (npmRequest true).root statusTimeoutMs).run w
    let channel := Resolution.resolve (npmRequest true).requestedChannel snap.storedChannel .package
    let resolved := (resolveTarget (npmRequest true) channel.channel).run detected.2
    ((Config.load "").run w).1 = .ok snap ∧
      ((npmRequest true).requestedChannel.isSome → snap.valid = true) ∧
      detected.1.kind = .package ∧
      KindTransition.ofRequest (npmRequest true).requestedChannel .package = .stay ∧
      ((Package.readVersion (npmRequest true).root).run detected.2).1 = some "2.0.0" ∧
      resolved.1 = (⟨"latest", some "garbage"⟩, false) ∧
      (∃ m xs reg n rq,
        resolved.2 = { w.extend m xs [] with registry := reg, registryCalls := n, requests := rq }) ∧
      GateOutcome (npmRequest true) w.prompter
        ((Package.readVersion (npmRequest true).root).run detected.2).1 resolved.1.1 resolved.1.2
        resolved.2
        (fun w' => (runPlanned "" (npmRequest true) snap detected.1 .stay channel (some resolved.1.1)
          []).run w')
        ((runUpdate "" (npmRequest true)).run w) := by
  intro w snap detected channel resolved
  have hkind : detected.1.kind = .package := by decide +kernel
  have hcurrent : ((Package.readVersion (npmRequest true).root).run detected.2).1 = some "2.0.0" := by
    decide +kernel
  have htarget : resolved.1 = (⟨"latest", some "garbage"⟩, false) := by decide +kernel
  exact ⟨rfl, nofun, hkind, rfl, hcurrent, htarget,
    runUpdate_packageGate "" (npmRequest true) w snap rfl nofun hkind rfl⟩

/-- With JSON output and no `--yes`, an installed `2.0.0` and a registry whose `latest` names
`garbage`, the run asks nothing and installs `latest`, ending `ok`. -/
theorem garbage_target_installs_unasked :
    ∃ rep w', (runUpdate "" (npmRequest true)).run (npmInstall "2.0.0" false [("latest", "garbage")]) =
        (.ok (.finished rep), w') ∧
      rep.result.status = .ok ∧ rep.result.steps.map (·.command) = ["npm i -g openclaw@latest"] ∧
      w'.asked = [] := by
  have hrep : (finishedReport? ((runUpdate "" (npmRequest true)).run
      (npmInstall "2.0.0" false [("latest", "garbage")]))).map
        (fun rep => (rep.result.status, rep.result.steps.map (·.command))) =
      some (.ok, ["npm i -g openclaw@latest"]) := by
    decide +kernel
  have hasked : ((runUpdate "" (npmRequest true)).run
      (npmInstall "2.0.0" false [("latest", "garbage")])).2.asked = [] := by
    decide +kernel
  obtain ⟨rep, hr, hv⟩ := finished_of_report_map hrep
  obtain ⟨hs, hc⟩ := Prod.mk.inj hv
  exact ⟨rep, _, hr, hs, hc, hasked⟩

end Updater
