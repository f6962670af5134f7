import Updater.Proofs.LockedRun

/-! The collaborators a run calls after its pipeline. Every call of the plugin synchronizer and
of the service controller is logged in the world, whichever collaborator answers it, so how often
each one was called is read off the world. A sync pass logs its channel, an update pass the ids
it skips, a restart and a check count themselves; besides that they only ask the runner
(`Plugin.reconcile_run`, `Service.restartAndVerify_run`). -/

namespace Updater

/-! ### Logged calls -/

/-- Calls of the collaborators: the channels of sync passes, the ids skipped by update passes,
and how many restarts and checks. -/
structure Calls where
  syncs : List Channel := []
  skips : List (List String) := []
  restarts : Nat := 0
  verifies : Nat := 0

instance : Append Calls where
  append c d := ⟨c.syncs ++ d.syncs, c.skips ++ d.skips, c.restarts + d.restarts,
    c.verifies + d.verifies⟩

@[simp] theorem Calls.append_eq (c d : Calls) :
    c ++ d = { syncs := c.syncs ++ d.syncs, skips := c.skips ++ d.skips,
               restarts := c.restarts + d.restarts, verifies := c.verifies + d.verifies } := rfl

def World.call (w : World) (c : Calls) : World :=
  { w with syncCalls := w.syncCalls ++ c.syncs, skipIdsSeen := w.skipIdsSeen ++ c.skips,
           restartCalls := w.restartCalls + c.restarts, verifyCalls := w.verifyCalls + c.verifies }

namespace World

variable (w : World) (c d : Calls)

@[simp] theorem call_call : (w.call c).call d = w.call (c ++ d) := by
  simp only [call, List.append_assoc, Nat.add_assoc]
  rfl

@[simp] theorem call_empty : w.call {} = w := by simp [call]

@[simp] theorem extend_call (m : Machine) (xs : List (Command × Answer)) (evs : List StepEvent) :
    (w.call c).extend m xs evs = (w.extend m xs evs).call c := rfl

@[simp] theorem call_events : (w.call c).events = w.events := rfl
@[simp] theorem call_locks : (w.call c).locks = w.locks := rfl
@[simp] theorem call_registryCalls : (w.call c).registryCalls = w.registryCalls := rfl
@[simp] theorem call_asked : (w.call c).asked = w.asked := rfl
@[simp] theorem call_syncCalls : (w.call c).syncCalls = w.syncCalls ++ c.syncs := rfl
@[simp] theorem call_skipIdsSeen : (w.call c).skipIdsSeen = w.skipIdsSeen ++ c.skips := rfl
@[simp] theorem call_restartCalls : (w.call c).restartCalls = w.restartCalls + c.restarts := rfl
@[simp] theorem call_verifyCalls : (w.call c).verifyCalls = w.verifyCalls + c.verifies := rfl

end World

theorem Act.OnMachine.probes {α : Type} {x : Act α} (hx : x.OnMachine) : x.Probes := fun w => by
  obtain ⟨a, m, h⟩ := hx w
  exact ⟨a, m, [], by rw [h]; simp [World.extend]⟩

theorem Act.Probes.after_call {α : Type} {x : Act α} (hx : x.Probes) (w : World) (c : Calls) :
    ∃ a m xs, x.run (w.call c) = (a, (w.extend m xs []).call c) := by
  obtain ⟨a, m, xs, h⟩ := hx (w.call c)
  exact ⟨a, m, xs, by rw [h, World.extend_call]⟩

theorem Act.Probes.run_extend_call {α : Type} {x : Act α} (hx : x.Probes) (w : World)
    (m₀ : Machine) (xs₀ : List (Command × Answer)) (c : Calls) :
    ∃ a m xs, x.run ((w.extend m₀ xs₀ []).call c) = (a, (w.extend m xs []).call c) := by
  obtain ⟨a, m, xs, h⟩ := hx.after_call (w.extend m₀ xs₀ []) c
  exact ⟨a, m, xs₀ ++ xs, by rw [h]; simp⟩

/-! ### The plugin synchronizer -/

namespace Plugin

theorem sync_run (c : Config.AppConfig) (ch : Channel) (ws : String) (w : World) :
    ∃ a m xs, (sync c ch ws).run w = (a, (w.extend m xs []).call { syncs := [ch] }) := by
  have hlog :
      (modify fun w : World => { w with syncCalls := w.syncCalls ++ [ch] } : Act Unit).run w =
        ((), w.call { syncs := [ch] }) := by
    simp [World.call]
  simp only [sync, StateT.run_bind, hlog, id_bind_apply, StateT.run_get]
  -- the real collaborator asks the runner; the fakes answer at once
  cases hp : (w.call { syncs := [ch] }).plugins with
  | real mgr t =>
    obtain ⟨⟨s, installs⟩, m, xs, h⟩ := (probes_syncRecords mgr t ch (Path.join ws "extensions") {}
      c.plugins.installs).after_call w { syncs := [ch] }
    exact ⟨_, m, xs, by simp [h]; rfl⟩
  | failing => exact ⟨_, w.machine, [], by simp; rfl⟩
  | bundled ids => exact ⟨_, w.machine, [], by simp; rfl⟩
  | quiet => exact ⟨_, w.machine, [], by simp; rfl⟩

theorem updateInstalled_run (c : Config.AppConfig) (skip : List String) (w : World) :
    ∃ a m xs, (updateInstalled c skip).run w =
      (a, (w.extend m xs []).call { skips := [skip] }) := by
  have hlog : (modify fun w : World => { w with skipIdsSeen := w.skipIdsSeen ++ [skip] } :
      Act Unit).run w = ((), w.call { skips := [skip] }) := by
    simp [World.call]
  simp only [updateInstalled, StateT.run_bind, hlog, id_bind_apply, StateT.run_get]
  cases hp : (w.call { skips := [skip] }).plugins with
  | real mgr t =>
    obtain ⟨⟨outs, changed, installs⟩, m, xs, h⟩ :=
      (probes_updateRecords mgr t skip c.plugins.installs).after_call w { skips := [skip] }
    exact ⟨_, m, xs, by simp [h]; rfl⟩
  | failing => exact ⟨_, w.machine, [], by simp; rfl⟩
  | bundled ids => exact ⟨_, w.machine, [], by simp; rfl⟩
  | quiet => exact ⟨_, w.machine, [], by simp; rfl⟩

theorem reconcile_run (store : String) (c : Config.AppConfig) (ch : Channel) (ws : String)
    (w : World) :
    ∃ skip rep m xs, (reconcile store c ch ws).run w =
      (rep, (w.extend m xs []).call { syncs := [ch], skips := [skip] }) := by
  obtain ⟨a, m₁, xs₁, h₁⟩ := sync_run c ch ws w
  simp only [reconcile, Synchronizer.reconcile, StateT.run_bind, h₁, id_bind_apply]
  -- the update pass skips what the sync pass moved, or nothing when that pass failed; the rest
  -- only saves
  cases a with
  | ok p =>
    obtain ⟨b, m₂, xs₂, h₂⟩ := updateInstalled_run p.1
      (idSet (p.2.switchedToBundled ++ p.2.switchedToNpm))
      ((w.extend m₁ xs₁ []).call { syncs := [ch] })
    refine ⟨idSet (p.2.switchedToBundled ++ p.2.switchedToNpm), ?_⟩
    simp only [pure_bind, StateT.run_bind, h₂, id_bind_apply, World.extend_call,
      World.extend_extend, World.call_call, List.append_nil]
    refine Act.Probes.run_extend_call ?_ w m₂ (xs₁ ++ xs₂) _
    repeat' first
      | exact .pure _
      | refine .bind (Config.onMachine_writeConfig _ _).probes fun _ => ?_
      | split
  | error f =>
    obtain ⟨b, m₂, xs₂, h₂⟩ := updateInstalled_run c (idSet [])
      ((w.extend m₁ xs₁ []).call { syncs := [ch] })
    refine ⟨idSet [], ?_⟩
    simp only [pure_bind, StateT.run_bind, h₂, id_bind_apply, World.extend_call,
      World.extend_extend, World.call_call, List.append_nil]
    refine Act.Probes.run_extend_call ?_ w m₂ (xs₁ ++ xs₂) _
    repeat' first
      | exact .pure _
      | refine .bind (Config.onMachine_writeConfig _ _).probes fun _ => ?_
      | split


end Plugin

/-! ### The service controller -/

namespace Service

theorem probes_succeeds (c : Command) : (succeeds c).Probes :=
  .bind (Act.probes_run c) fun r => by
    cases r with
    | error f => exact .pure _
    | ok out => dsimp only; split <;> exact .pure _

theorem restart_run (w : World) :
    ∃ a m xs, restart.run w = (a, (w.extend m xs []).call { restarts := 1 }) := by
  have hlog :
      (modify fun w : World => { w with restartCalls := w.restartCalls + 1 } : Act Unit).run w =
        ((), w.call { restarts := 1 }) := by
    simp [World.call]
  simp only [restart, StateT.run_bind, hlog, id_bind_apply, StateT.run_get]
  -- through the command line the restart is a command; the fakes answer at once
  split
  · exact (probes_succeeds _).after_call w { restarts := 1 }
  · exact ⟨_, w.machine, [], by simp; rfl⟩

theorem verify_run (w : World) :
    ∃ a m xs, verify.run w = (a, (w.extend m xs []).call { verifies := 1 }) := by
  have hlog :
      (modify fun w : World => { w with verifyCalls := w.verifyCalls + 1 } : Act Unit).run w =
        ((), w.call { verifies := 1 }) := by
    simp [World.call]
  simp only [verify, StateT.run_bind, hlog, id_bind_apply, StateT.run_get]
  split
  · exact (probes_succeeds _).after_call w { verifies := 1 }
  · exact ⟨_, w.machine, [], by simp; rfl⟩

theorem restartAndVerify_run (w : World) :
    ∃ rr m xs, restartAndVerify.run w =
        (rr, (w.extend m xs []).call { restarts := 1, verifies := if rr.restarted then 1 else 0 }) ∧
      rr.attempted = true ∧ (rr.restarted = true ↔ (restart.run w).1 = .ok true) := by
  obtain ⟨a, m₁, xs₁, h₁⟩ := restart_run w
  simp only [restartAndVerify, StateT.run_bind, h₁, id_bind_apply]
  rcases a with f | _ | _
  · exact ⟨_, m₁, xs₁, by simp; rfl, rfl, by simp⟩
  · exact ⟨_, m₁, xs₁, by simp; rfl, rfl, by simp⟩
  · -- the check runs after a restart that answered `ok true`
    obtain ⟨v, m₂, xs₂, h₂⟩ := verify_run ((w.extend m₁ xs₁ []).call { restarts := 1 })
    simp only [h₂, StateT.run_bind, id_bind_apply]
    cases v with
    | ok v => exact ⟨_, m₂, xs₁ ++ xs₂, by simp; rfl, rfl, by simp⟩
    | error f => exact ⟨_, m₂, xs₁ ++ xs₂, by simp; rfl, rfl, by simp⟩

end Service

/-! ### The locked part, call by call -/

def skipPluginsNote : String := "Skipped plugin sync: config is invalid"

/-- The plugin phase from `w`, for the configuration `fresh` read again: when it is valid the
plugins are reconciled once for the channel in the result's root; otherwise a note says so. -/
inductive PluginPhase (store : String) (fresh : Config.Snapshot) (ch : Channel) (root : String)
    (notes : List String) (w : World) : Option Plugin.Report × List String × World → Prop
  | reconciled {rep : Plugin.Report} {m : Machine} {xs : List (Command × Answer)}
      {skip : List String} : fresh.valid = true →
      (Plugin.reconcile store fresh.config ch root).run w =
        (rep, (w.extend m xs []).call { syncs := [ch], skips := [skip] }) →
      PluginPhase store fresh ch root notes w
        (some rep, notes, (w.extend m xs []).call { syncs := [ch], skips := [skip] })
  | skipped : fresh.valid = false →
      PluginPhase store fresh ch root notes w (none, notes ++ [skipPluginsNote], w)

/-- The restart phase from `w`: when asked for, one restart and, after a restart that answered
`ok true`, one check. -/
inductive RestartPhase (o : Options) (w : World) : Option RestartReport × World → Prop
  | restarted {rr : RestartReport} {m : Machine} {xs : List (Command × Answer)} :
      o.restart = true →
      Service.restartAndVerify.run w = (rr, (w.extend m xs []).call
        { restarts := 1, verifies := if rr.restarted then 1 else 0 }) →
      (rr.restarted = true ↔ (Service.restart.run w).1 = .ok true) →
      RestartPhase o w (some rr, (w.extend m xs []).call
        { restarts := 1, verifies := if rr.restarted then 1 else 0 })
  | unasked : o.restart = false → RestartPhase o w (none, w)

/-- What follows a pipeline that gave the report `base` and left `w`: nothing unless its result
is `ok`; then the configuration is read again, and a failure to read it is the answer;
otherwise the plugin phase and then the restart phase run, and the report carries both. -/
inductive AfterPipeline (store : String) (o : Options) (ch : Channel) (base : UpdateReport)
    (w : World) : Except Failure UpdateReport × World → Prop
  | notOk : base.result.status ≠ .ok →
      AfterPipeline store o ch base w (.ok { base with plugins := none, restart := none }, w)
  | reloadFailed {f : Failure} : base.result.status = .ok →
      ((Config.load store).run w).1 = .error f → AfterPipeline store o ch base w (.error f, w)
  | reported {fresh : Config.Snapshot} {pl : Option Plugin.Report} {notes : List String}
      {rs : Option RestartReport} {w₁ w₂ : World} : base.result.status = .ok →
      ((Config.load store).run w).1 = .ok fresh →
      PluginPhase store fresh ch base.result.root base.notes w (pl, notes, w₁) →
      RestartPhase o w₁ (rs, w₂) →
      AfterPipeline store o ch base w
        (.ok { base with plugins := pl, restart := rs, notes := notes }, w₂)

/-- Every way the locked part goes from `w`, with the phase after the pipeline spelled out:
storing the channel fails, or the pipeline runs from the world `Persisted` gives and
`AfterPipeline` follows it. -/
inductive LockedPart (store : String) (o : Options) (snap : Config.Snapshot) (plan : Plan)
    (channel : Resolution) (target : Option VersionTarget) (notes : List String) (w : World) :
    Except Failure UpdateReport × World → Prop
  | persistFailed {ch : Channel} {f : Failure} {w' : World} : o.requestedChannel = some ch →
      snap.valid = true → (Config.persistChannel store ch).run w = (.error f, w') →
      LockedPart store o snap plan channel target notes w
        (.error (f.within "Failed to persist update channel"), w')
  | ran {persisted : Bool} {w₁ w₂ : World} {r : RunResult}
      {res : Except Failure UpdateReport × World} :
      Persisted store o snap w persisted w₁ →
      (Pipeline.execute o.stepTimeoutMs plan).run w₁ = (r, w₂) →
      AfterPipeline store o channel.channel
        ({ result := r, channel := channel, target := target, channelPersisted := persisted,
           notes := notes } : UpdateReport) w₂ res →
      LockedPart store o snap plan channel target notes w res

theorem PluginPhase.of_valid (store : String) {fresh : Config.Snapshot} (ch : Channel)
    (root : String) (notes : List String) (w : World) (hv : fresh.valid = true) :
    ∃ rep w', (Plugin.reconcile store fresh.config ch root).run w = (rep, w') ∧
      PluginPhase store fresh ch root notes w (some rep, notes, w') := by
  obtain ⟨skip, rep, m, xs, h⟩ := Plugin.reconcile_run store fresh.config ch root w
  exact ⟨rep, _, h, .reconciled hv h⟩

theorem RestartPhase.of_restart (o : Options) (w : World) (hr : o.restart = true) :
    ∃ rr w', Service.restartAndVerify.run w = (rr, w') ∧ RestartPhase o w (some rr, w') := by
  obtain ⟨rr, m, xs, h, -, hiff⟩ := Service.restartAndVerify_run w
  exact ⟨rr, _, h, .restarted hr h hiff⟩

theorem runLocked_part (store : String) (o : Options) (snap : Config.Snapshot) (plan : Plan)
    (channel : Resolution) (target : Option VersionTarget) (notes : List String) (w : World) :
    LockedPart store o snap plan channel target notes w
      ((runLocked store o snap plan channel target notes).run w) := by
  -- the channel first; the rest runs from the world `hp` names, the same way in each case
  rcases hch : o.requestedChannel with _ | ch
  case' none =>
    have hp : Persisted store o snap w false w := .unasked hch
    simp only [runLocked, hch, StateT.run_bind, id_bind_apply, pure_bind]
  case' some =>
    cases hv : snap.valid
    case' false =>
      have hp : Persisted store o snap w false w := .invalid hch hv
      simp only [runLocked, hch, hv, StateT.run_bind, id_bind_apply, pure_bind, Bool.false_eq_true,
        ↓reduceIte]
    case' true =>
      obtain ⟨u, w₁, hper⟩ : ∃ u w₁, (Config.persistChannel store ch).run w = (u, w₁) :=
        ⟨_, _, rfl⟩
      cases u
      case error f =>
        simp only [runLocked, hch, hv, hper, StateT.run_bind, id_bind_apply, pure_bind, ↓reduceIte]
        exact .persistFailed hch hv hper
      case' ok u =>
        have hp : Persisted store o snap w true w₁ := .stored hch hv hper
        simp only [runLocked, hch, hv, hper, StateT.run_bind, id_bind_apply, pure_bind, ↓reduceIte]
  all_goals
    generalize hex : (Pipeline.execute o.stepTimeoutMs plan).run _ = e
    obtain ⟨r, w₂⟩ := e
    refine .ran hp hex ?_
    by_cases hok : r.status = .ok
    rotate_left
    · simp only [hok, bne_iff_ne, ne_eq, not_false_eq_true, ↓reduceIte, StateT.run_pure]
      exact .notOk hok
    obtain ⟨loaded, hload⟩ := Config.reads_load store w₂
    cases loaded with
    | error f =>
      simp only [hok, bne_self_eq_false, Bool.false_eq_true, ↓reduceIte, StateT.run_bind, hload,
        id_bind_apply, StateT.run_pure]
      exact .reloadFailed hok (by rw [hload])
    | ok fresh =>
      simp only [hok, bne_self_eq_false, Bool.false_eq_true, ↓reduceIte, StateT.run_bind, hload,
        id_bind_apply]
      have hfresh : ((Config.load store).run w₂).1 = .ok fresh := by rw [hload]
      -- the plugins when the file is valid, then the restart when asked for
      cases hfv : fresh.valid
      · have hpl : PluginPhase store fresh channel.channel r.root notes w₂
            (none, notes ++ [skipPluginsNote], w₂) := .skipped hfv
        cases hrs : o.restart
        · simp only [Bool.false_eq_true, ↓reduceIte, StateT.run_pure]
          exact .reported hok hfresh hpl (.unasked hrs)
        · obtain ⟨rr, w₄, h₄, hrp⟩ := RestartPhase.of_restart o w₂ hrs
          simp only [Bool.false_eq_true, ↓reduceIte, StateT.run_bind, h₄, id_bind_apply,
            StateT.run_pure]
          exact .reported hok hfresh hpl hrp
      · obtain ⟨pl, w₃, hrec, hpl⟩ := PluginPhase.of_valid store channel.channel r.root notes w₂ hfv
        cases hrs : o.restart
        · simp only [↓reduceIte, StateT.run_bind, hrec, id_bind_apply]
          exact .reported hok hfresh hpl (.unasked hrs)
        · obtain ⟨rr, w₄, h₄, hrp⟩ := RestartPhase.of_restart o w₃ hrs
          simp only [↓reduceIte, StateT.run_bind, hrec, h₄, id_bind_apply, StateT.run_pure]
          exact .reported hok hfresh hpl hrp

/-! ### What each phase logged -/

def Config.ReadsValid (store : String) (w : World) : Prop :=
  ∃ s, ((Config.load store).run w).1 = .ok s ∧ s.valid = true

theorem Config.readsValid_iff {store : String} {w : World} {s : Config.Snapshot}
    (h : ((Config.load store).run w).1 = .ok s) : Config.ReadsValid store w ↔ s.valid = true := by
  constructor
  · rintro ⟨s', hs', hv⟩
    rw [h] at hs'
    cases hs'
    exact hv
  · exact fun hv => ⟨s, h, hv⟩

namespace PluginPhase

variable {store : String} {fresh : Config.Snapshot} {ch : Channel} {root : String}
  {notes notes' : List String} {w w' : World} {pl : Option Plugin.Report}

theorem isSome (h : PluginPhase store fresh ch root notes w (pl, notes', w')) :
    pl.isSome = fresh.valid := by
  cases h with
  | reconciled hv => exact hv.symm
  | skipped hv => exact hv.symm

theorem notes_eq (h : PluginPhase store fresh ch root notes w (pl, notes', w')) :
    notes' = notes ++ (if fresh.valid then [] else [skipPluginsNote]) := by
  cases h with
  | reconciled hv => simp [hv]
  | skipped hv => simp [hv]

theorem world (h : PluginPhase store fresh ch root notes w (pl, notes', w')) :
    ∃ m xs skip, w' = (w.extend m xs []).call
      { syncs := if pl.isSome then [ch] else [], skips := if pl.isSome then [skip] else [] } := by
  cases h with
  | reconciled => exact ⟨_, _, _, rfl⟩
  | skipped => exact ⟨w.machine, [], [], by simp⟩

end PluginPhase

namespace RestartPhase

variable {o : Options} {w w' : World} {rs : Option RestartReport}

theorem isSome (h : RestartPhase o w (rs, w')) : rs.isSome = o.restart := by
  cases h with
  | restarted hr => exact hr.symm
  | unasked hr => exact hr.symm

theorem world (h : RestartPhase o w (rs, w')) :
    ∃ m xs, w' = (w.extend m xs []).call
      { restarts := if rs.isSome then 1 else 0,
        verifies := if rs.any (·.restarted) then 1 else 0 } := by
  cases h with
  | @restarted rr m xs => exact ⟨m, xs, by simp⟩
  | unasked => exact ⟨w.machine, [], by simp⟩

theorem report (h : RestartPhase o w (rs, w')) {rr : RestartReport} (hrr : rs = some rr) :
    (Service.restartAndVerify.run w).1 = rr ∧
      (rr.restarted = true ↔ (Service.restart.run w).1 = .ok true) := by
  cases h with
  | restarted _ hrun hiff =>
    cases hrr
    exact ⟨by rw [hrun], hiff⟩
  | unasked => cases hrr

end RestartPhase

namespace AfterPipeline

variable {store : String} {o : Options} {ch : Channel} {base rep : UpdateReport} {w w' : World}

theorem result (h : AfterPipeline store o ch base w (.ok rep, w')) :
    rep.result = base.result ∧ rep.channel = base.channel ∧ rep.target = base.target := by
  cases h <;> exact ⟨rfl, rfl, rfl⟩

theorem plugins_iff (h : AfterPipeline store o ch base w (.ok rep, w')) :
    rep.plugins.isSome ↔ base.result.status = .ok ∧ Config.ReadsValid store w := by
  cases h with
  | notOk hne => simp [hne]
  | reported hok hload hpl => simp [hok, hpl.isSome, Config.readsValid_iff hload]

theorem skipNote_iff (h : AfterPipeline store o ch base w (.ok rep, w')) :
    skipPluginsNote ∈ rep.notes ↔
      skipPluginsNote ∈ base.notes ∨ (base.result.status = .ok ∧ ¬Config.ReadsValid store w) := by
  cases h with
  | notOk hne => simp [hne]
  | @reported fresh _ _ _ _ _ hok hload hpl =>
    rw [hpl.notes_eq, Config.readsValid_iff hload]
    cases fresh.valid <;> simp [hok]

theorem restart_iff (h : AfterPipeline store o ch base w (.ok rep, w')) :
    rep.restart.isSome ↔ base.result.status = .ok ∧ o.restart = true := by
  cases h with
  | notOk hne => simp [hne]
  | reported hok _ _ hrs => simp [hok, hrs.isSome]

theorem world (h : AfterPipeline store o ch base w (.ok rep, w')) :
    ∃ m xs skip, w' = (w.extend m xs []).call
      { syncs := if rep.plugins.isSome then [ch] else [],
        skips := if rep.plugins.isSome then [skip] else [],
        restarts := if rep.restart.isSome then 1 else 0,
        verifies := if rep.restart.any (·.restarted) then 1 else 0 } := by
  cases h with
  | notOk => exact ⟨w.machine, [], [], by simp⟩
  | reported _ _ hpl hrs =>
    obtain ⟨m₁, xs₁, skip, rfl⟩ := hpl.world
    obtain ⟨m₂, xs₂, rfl⟩ := hrs.world
    exact ⟨m₂, xs₁ ++ xs₂, skip, by simp⟩

theorem restart_report (h : AfterPipeline store o ch base w (.ok rep, w')) {rr : RestartReport}
    (hrr : rep.restart = some rr) :
    ∃ w₃, w₃.restartCalls = w.restartCalls ∧ w₃.verifyCalls = w.verifyCalls ∧
      (Service.restartAndVerify.run w₃).1 = rr ∧
      (rr.restarted = true ↔ (Service.restart.run w₃).1 = .ok true) := by
  cases h with
  | notOk => cases hrr
  | reported _ _ hpl hrs =>
    obtain ⟨m₁, xs₁, skip, rfl⟩ := hpl.world
    exact ⟨_, by simp [World.extend], by simp [World.extend], hrs.report hrr⟩

theorem frame {res : Except Failure UpdateReport} (h : AfterPipeline store o ch base w (res, w')) :
    ∃ m xs c, w' = (w.extend m xs []).call c := by
  cases h with
  | notOk => exact ⟨w.machine, [], {}, by simp⟩
  | reloadFailed => exact ⟨w.machine, [], {}, by simp⟩
  | reported _ _ hpl hrs =>
    obtain ⟨m₁, xs₁, skip, rfl⟩ := hpl.world
    obtain ⟨m₂, xs₂, rfl⟩ := hrs.world
    exact ⟨m₂, xs₁ ++ xs₂, _, by simp; rfl⟩

end AfterPipeline

theorem Act.OnMachine.world {α : Type} {x : Act α} (hx : x.OnMachine) {w w' : World} {a : α}
    (h : x.run w = (a, w')) : ∃ m, w' = { w with machine := m } := by
  obtain ⟨a', m, h'⟩ := hx w
  rw [h] at h'
  exact ⟨m, (Prod.mk.inj h').2⟩

theorem Persisted.world {store : String} {o : Options} {snap : Config.Snapshot} {w w₁ : World}
    {persisted : Bool} (h : Persisted store o snap w persisted w₁) :
    ∃ m, w₁ = { w with machine := m } := by
  cases h with
  | unasked => exact ⟨w.machine, rfl⟩
  | invalid => exact ⟨w.machine, rfl⟩
  | @stored ch _ _ _ hper => exact (Config.onMachine_persistChannel store ch).world hper

theorem LockedPart.frame {store : String} {o : Options} {snap : Config.Snapshot} {plan : Plan}
    {channel : Resolution} {target : Option VersionTarget} {notes : List String} {w w' : World}
    {res : Except Failure UpdateReport}
    (h : LockedPart store o snap plan channel target notes w (res, w')) :
    ∃ m xs rs c, w' = (w.extend m xs (StepEvent.ofResults 0 rs)).call c ∧
      ∀ rep, res = .ok rep → rs = rep.result.steps := by
  cases h with
  | @persistFailed ch _ _ _ _ hper =>
    obtain ⟨m, rfl⟩ := (Config.onMachine_persistChannel store ch).world hper
    exact ⟨m, [], [], {}, by simp [World.extend], fun _ h => by cases h⟩
  | @ran persisted w₁ w₂ r _ hpers hex hafter =>
    obtain ⟨m₁, rfl⟩ := hpers.world
    obtain ⟨xs, r', m₂, hr, -⟩ := Pipeline.execute_run o.stepTimeoutMs plan _
    obtain ⟨hrr, rfl⟩ := Prod.mk.inj (hex.symm.trans hr)
    obtain ⟨m₃, ys, c, rfl⟩ := hafter.frame
    refine ⟨m₃, xs ++ ys, r.steps, c, by simp [World.extend, hrr], ?_⟩
    rintro rep rfl
    rw [hafter.result.1]

end Updater
