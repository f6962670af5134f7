import Updater.Proofs.EarlyStop
import Updater.Proofs.Runs

/-! The locked part of a run, `runLocked`: it stores an asked-for channel, runs the pipeline and,
after an `ok` pipeline, reads the configuration again, reconciles the plugins and restarts the
service. `LockedRun` lists every way it goes (`runLocked_run`). No part of it touches the table
of held locks (`keepsLocks_runLocked`), so everything it changes is changed while the lock the run
took is held (`Guarded`). -/

namespace Updater

/-! ### Nothing after the lock touches the lock table -/

namespace Config

theorem onMachine_withContext (line : String) (f : FileSystem → String → Except IoError FileSystem) :
    Act.OnMachine (withContext line f) :=
  .bind (Act.onMachine_changeFs f) fun r => by cases r <;> exact .pure _

theorem onMachine_writeConfig (path content : String) : Act.OnMachine (writeConfig path content) := by
  unfold writeConfig
  dsimp only
  -- every step makes directories, writes the file, sets its mode or reads the machine
  repeat' first
    | with_reducible exact .pure _
    | with_reducible exact onMachine_withContext _ _
    | with_reducible refine .bind (onMachine_withContext _ _) fun r => ?_
    | with_reducible refine .bind Act.reads_machine.onMachine fun m => ?_
    | split

theorem onMachine_persistChannel (path : String) (ch : Channel) :
    Act.OnMachine (persistChannel path ch) := by
  unfold persistChannel
  dsimp only
  refine .bind (Act.reads_exists path).onMachine fun present => ?_
  -- the text there, or none, then the edited text written back
  split <;> refine .bind ?_ fun existing => ?_
  all_goals first
    | exact (Act.reads_readFile path).onMachine
    | with_reducible exact .pure _
    | split
      · exact .pure _
      · split
        · exact .pure _
        · exact onMachine_writeConfig _ _

end Config

theorem Manager.probes_globalPackageRoot (m : Manager) (package : String) (t : Nat) :
    Act.Probes (m.globalPackageRoot package t) :=
  .bind (m.asks_globalRoot "" t).probes fun _ => .pure _

namespace Plugin

theorem probes_install (m : Manager) (t : Nat) (spec : String) : Act.Probes (install m t spec) := by
  unfold install
  split
  · exact .pure _
  · refine .bind (Act.probes_run _) fun r => ?_
    split
    · split
      · exact .bind (m.probes_globalPackageRoot _ t) fun _ => .pure _
      · exact .pure _
    · exact .pure _

theorem reads_versionAt (dir : Option String) : Act.Reads (versionAt dir) := by
  cases dir with
  | some d => exact Package.reads_readVersion d
  | none => exact .pure _

theorem probes_syncRecord (m : Manager) (t : Nat) (channel : Channel) (extensions : String)
    (s : SyncSummary) (r : String × Config.InstallRecord) :
    Act.Probes (syncRecord m t channel extensions s r) := by
  obtain ⟨id, r⟩ := r
  unfold syncRecord
  dsimp only
  split
  · refine .bind (Act.reads_isDir _).probes fun _ => ?_
    split
    · exact .bind (Package.reads_readVersion _).probes fun _ => .pure _
    · exact .pure _
  · refine .bind (Act.reads_isDir _).probes fun _ => ?_
    split <;> exact .pure _
  · refine .bind (probes_install m t _) fun r => ?_
    split
    · exact .bind (reads_versionAt _).probes fun _ => .pure _
    · exact .pure _
  · exact .pure _

theorem probes_syncRecords (m : Manager) (t : Nat) (channel : Channel) (extensions : String) :
    ∀ s rs, Act.Probes (syncRecords m t channel extensions s rs)
  | _, [] => .pure _
  | s, (id, r) :: rest =>
    .bind (probes_syncRecord m t channel extensions s (id, r)) fun (s', _) =>
      .bind (probes_syncRecords m t channel extensions s' rest) fun _ => .pure _

theorem probes_updateRecord (m : Manager) (t : Nat) (skip : List String)
    (r : String × Config.InstallRecord) : Act.Probes (updateRecord m t skip r) := by
  obtain ⟨id, r⟩ := r
  unfold updateRecord
  dsimp only
  -- one install per registry record, then the version read where it landed
  repeat' first
    | with_reducible exact .pure _
    | with_reducible refine .bind (probes_install m t _) fun _ => ?_
    | with_reducible refine .bind (reads_versionAt _).probes fun _ => ?_
    | split

theorem probes_updateRecords (m : Manager) (t : Nat) (skip : List String) :
    ∀ rs, Act.Probes (updateRecords m t skip rs)
  | [] => .pure _
  | (id, r) :: rest =>
    .bind (probes_updateRecord m t skip (id, r)) fun _ =>
      .bind (probes_updateRecords m t skip rest) fun _ => .pure _

theorem keepsLocks_sync (c : Config.AppConfig) (channel : Channel) (workspace : String) :
    Act.KeepsLocks (sync c channel workspace) := by
  unfold sync
  refine .bind (Act.keepsLocks_modify fun _ => rfl) fun _ =>
    .bind Act.reads_get.keepsLocks fun w => ?_
  split
  · exact .bind (probes_syncRecords _ _ _ _ _ _).keepsLocks fun _ => .pure _
  all_goals exact .pure _

theorem keepsLocks_updateInstalled (c : Config.AppConfig) (skip : List String) :
    Act.KeepsLocks (updateInstalled c skip) := by
  unfold updateInstalled
  refine .bind (Act.keepsLocks_modify fun _ => rfl) fun _ =>
    .bind Act.reads_get.keepsLocks fun w => ?_
  split
  · exact .bind (probes_updateRecords _ _ _ _).keepsLocks fun _ => .pure _
  all_goals exact .pure _

theorem keepsLocks_reconcile (store : String) (c : Config.AppConfig) (channel : Channel)
    (workspace : String) : Act.KeepsLocks (reconcile store c channel workspace) := by
  unfold reconcile Synchronizer.reconcile
  dsimp only
  refine .bind (keepsLocks_sync c channel workspace) fun r => ?_
  -- whichever way each pass ends, the merged records are saved at most once
  split <;> refine .bind (.pure _) fun _ => .bind (keepsLocks_updateInstalled _ _) fun r => ?_
  all_goals split <;> refine .bind (.pure _) fun _ => ?_
  all_goals
    split
    · exact .bind (Config.onMachine_writeConfig _ _).keepsLocks fun r => by split <;> exact .pure _
    · exact .pure _

end Plugin

namespace Service

theorem keepsLocks_succeeds (c : Command) : Act.KeepsLocks (succeeds c) :=
  .bind (Act.probes_run c).keepsLocks fun r => by
    cases r with
    | error f => exact .pure _
    | ok out => dsimp only [succeeds]; split <;> exact .pure _

theorem keepsLocks_restart : Act.KeepsLocks restart := by
  unfold restart
  refine .bind (Act.keepsLocks_modify fun _ => rfl) fun _ =>
    .bind Act.reads_get.keepsLocks fun w => ?_
  split
  · exact keepsLocks_succeeds _
  · exact .pure _

theorem keepsLocks_verify : Act.KeepsLocks verify := by
  unfold verify
  refine .bind (Act.keepsLocks_modify fun _ => rfl) fun _ =>
    .bind Act.reads_get.keepsLocks fun w => ?_
  split
  · exact keepsLocks_succeeds _
  · exact .pure _

theorem keepsLocks_restartAndVerify : Act.KeepsLocks restartAndVerify := by
  unfold restartAndVerify
  refine .bind keepsLocks_restart fun r => ?_
  split
  · exact .pure _
  · exact .pure _
  · exact .bind keepsLocks_verify fun v => by split <;> exact .pure _

end Service

theorem Pipeline.keepsLocks_execute (t : Nat) (plan : Plan) :
    Act.KeepsLocks (Pipeline.execute t plan) := fun w => by
  obtain ⟨xs, r, m, h, -⟩ := Pipeline.execute_run t plan w
  rw [h]
  rfl

theorem keepsLocks_runLocked (store : String) (o : Options) (snap : Config.Snapshot) (plan : Plan)
    (channel : Resolution) (target : Option VersionTarget) (notes : List String) :
    Act.KeepsLocks (runLocked store o snap plan channel target notes) := by
  unfold runLocked
  dsimp only
  -- storing the channel, the pipeline, the second read, the plugins and the restart
  repeat' first
    | with_reducible exact .pure _
    | with_reducible refine .bind (.pure _) fun _ => ?_
    | with_reducible refine .bind (Config.onMachine_persistChannel _ _).keepsLocks fun _ => ?_
    | with_reducible refine .bind (Pipeline.keepsLocks_execute _ _) fun _ => ?_
    | with_reducible refine .bind (Config.reads_load _).keepsLocks fun _ => ?_
    | with_reducible refine .bind (Plugin.keepsLocks_reconcile _ _ _ _) fun _ => ?_
    | with_reducible refine .bind Service.keepsLocks_restartAndVerify fun _ => ?_
    | split

/-! ### Every way the locked part goes -/

inductive Persisted (store : String) (o : Options) (snap : Config.Snapshot) (w : World) :
    Bool → World → Prop
  | unasked : o.requestedChannel = none → Persisted store o snap w false w
  | invalid {ch : Channel} : o.requestedChannel = some ch → snap.valid = false →
      Persisted store o snap w false w
  | stored {ch : Channel} {w' : World} : o.requestedChannel = some ch → snap.valid = true →
      (Config.persistChannel store ch).run w = (.ok (), w') → Persisted store o snap w true w'

/-- Every way the locked part goes from `w`. Storing the channel fails; or the pipeline runs
after it, from `w₁`, with result `r`. A result that is not `ok` is reported as it is. An `ok`
result is followed by a second read of the configuration, whose failure is the answer; otherwise
the report of `r` carries the plugins when the file is valid and the restart when asked for, and
the lock table is as the pipeline left it. -/
inductive LockedRun (store : String) (o : Options) (snap : Config.Snapshot) (plan : Plan)
    (channel : Resolution) (target : Option VersionTarget) (notes : List String) (w : World) :
    Except Failure UpdateReport × World → Prop
  | persistFailed {ch : Channel} {f : Failure} {w' : World} : o.requestedChannel = some ch →
      snap.valid = true → (Config.persistChannel store ch).run w = (.error f, w') →
      LockedRun store o snap plan channel target notes w
        (.error (f.within "Failed to persist update channel"), w')
  | notOk {persisted : Bool} {w₁ w₂ : World} {r : RunResult} :
      Persisted store o snap w persisted w₁ →
      (Pipeline.execute o.stepTimeoutMs plan).run w₁ = (r, w₂) → r.status ≠ .ok →
      LockedRun store o snap plan channel target notes w
        (.ok { result := r, channel := channel, target := target, channelPersisted := persisted,
               notes := notes }, w₂)
  | reloadFailed {persisted : Bool} {w₁ w₂ : World} {r : RunResult} {f : Failure} :
      Persisted store o snap w persisted w₁ →
      (Pipeline.execute o.stepTimeoutMs plan).run w₁ = (r, w₂) → r.status = .ok →
      ((Config.load store).run w₂).1 = .error f →
      LockedRun store o snap plan channel target notes w (.error f, w₂)
  | finished {persisted : Bool} {w₁ w₂ w₃ : World} {r : RunResult} {fresh : Config.Snapshot}
      {rep : UpdateReport} :
      Persisted store o snap w persisted w₁ →
      (Pipeline.execute o.stepTimeoutMs plan).run w₁ = (r, w₂) → r.status = .ok →
      ((Config.load store).run w₂).1 = .ok fresh →
      rep.result = r → rep.channel = channel → rep.target = target →
      rep.channelPersisted = persisted → rep.plugins.isSome = fresh.valid →
      rep.restart.isSome = o.restart → w₃.locks = w₂.locks →
      LockedRun store o snap plan channel target notes w (.ok rep, w₃)

theorem runLocked_run (store : String) (o : Options) (snap : Config.Snapshot) (plan : Plan)
    (channel : Resolution) (target : Option VersionTarget) (notes : List String) (w : World) :
    LockedRun store o snap plan channel target notes w
      ((runLocked store o snap plan channel target notes).run w) := by
  -- the channel first; the rest runs from the world `hp` names, the same way in each case
  rcases hch : o.requestedChannel with _ | ch
  case' none =>
    have hp : Persisted store o snap w false w := .unasked hch
    simp only [runLocked, hch, StateT.run_bind, id_bind_apply, pure_bind]
  case' some =>
    cases hv : snap.valid
    case' false =>
      have hp : Persisted store o snap w false w := .invalid hch hv
      simp only [runLocked, hch, hv, StateT.run_bind, id_bind_apply, pure_bind, Bool.false_eq_true,
        ↓reduceIte]
    case' true =>
      obtain ⟨u, w₁, hper⟩ : ∃ u w₁, (Config.persistChannel store ch).run w = (u, w₁) :=
        ⟨_, _, rfl⟩
      cases u
      case error f =>
        simp only [runLocked, hch, hv, hper, StateT.run_bind, id_bind_apply, pure_bind, ↓reduceIte]
        exact .persistFailed hch hv hper
      case' ok u =>
        have hp : Persisted store o snap w true w₁ := .stored hch hv hper
        simp only [runLocked, hch, hv, hper, StateT.run_bind, id_bind_apply, pure_bind, ↓reduceIte]
  all_goals
    generalize hex : (Pipeline.execute o.stepTimeoutMs plan).run _ = e
    obtain ⟨r, w₂⟩ := e
    by_cases hok : r.status = .ok
    rotate_left
    · simp only [hok, bne_iff_ne, ne_eq, not_false_eq_true, ↓reduceIte, StateT.run_pure]
      exact .notOk hp hex hok
    obtain ⟨loaded, hload⟩ := Config.reads_load store w₂
    cases loaded with
    | error f =>
      simp only [hok, bne_self_eq_false, Bool.false_eq_true, ↓reduceIte, StateT.run_bind, hload,
        id_bind_apply, StateT.run_pure]
      exact .reloadFailed hp hex hok (by rw [hload])
    | ok fresh =>
      simp only [hok, bne_self_eq_false, Bool.false_eq_true, ↓reduceIte, StateT.run_bind, hload,
        id_bind_apply]
      have hfresh : ((Config.load store).run w₂).1 = .ok fresh := by rw [hload]
      -- the plugins when the file is valid, then the restart when asked for; neither takes a lock
      have hrestart : ∀ w', ∃ rs w'', Service.restartAndVerify.run w' = (rs, w'') ∧
          w''.locks = w'.locks :=
        fun w' => ⟨_, _, rfl, Service.keepsLocks_restartAndVerify w'⟩
      obtain ⟨pl, w₃, hrec⟩ : ∃ pl w₃,
          (Plugin.reconcile store fresh.config channel.channel r.root).run w₂ = (pl, w₃) := ⟨_, _, rfl⟩
      have hl₃ : w₃.locks = w₂.locks := by
        simpa [hrec] using Plugin.keepsLocks_reconcile store fresh.config channel.channel r.root w₂
      cases hfv : fresh.valid <;> cases hrs : o.restart
      · simp only [Bool.false_eq_true, ↓reduceIte, StateT.run_pure]
        exact .finished hp hex hok hfresh rfl rfl rfl rfl (by simp [hfv]) (by simp [hrs]) rfl
      · obtain ⟨rs, w₄, h₄, hl₄⟩ := hrestart w₂
        simp only [Bool.false_eq_true, ↓reduceIte, StateT.run_bind, h₄, id_bind_apply,
          StateT.run_pure]
        exact .finished hp hex hok hfresh rfl rfl rfl rfl (by simp [hfv]) (by simp [hrs]) hl₄
      · simp only [Bool.false_eq_true, ↓reduceIte, StateT.run_bind, hrec, id_bind_apply,
          StateT.run_pure]
        exact .finished hp hex hok hfresh rfl rfl rfl rfl (by simp [hfv]) (by simp [hrs]) hl₃
      · obtain ⟨rs, w₄, h₄, hl₄⟩ := hrestart w₃
        simp only [↓reduceIte, StateT.run_bind, hrec, h₄, id_bind_apply, StateT.run_pure]
        exact .finished hp hex hok hfresh rfl rfl rfl rfl (by simp [hfv]) (by simp [hrs])
          (hl₄.trans hl₃)

/-! ### The pipeline's result is the report's -/

/-- Once the pipeline has run with result `r`, the locked part answers with a report of `r`,
except when `r` is `ok` and the configuration cannot be read again: then that error is the
answer and `r` is lost. -/
theorem runLocked_keeps_pipeline_result (store : String) (o : Options) (snap : Config.Snapshot)
    (plan : Plan) (channel : Resolution) (target : Option VersionTarget) (notes : List String)
    (w : World) :
    (∃ ch f, o.requestedChannel = some ch ∧ snap.valid = true ∧
      ((Config.persistChannel store ch).run w).1 = .error f ∧
      ((runLocked store o snap plan channel target notes).run w).1 =
        .error (f.within "Failed to persist update channel")) ∨
    ∃ persisted w₁ r w₂, Persisted store o snap w persisted w₁ ∧
      (Pipeline.execute o.stepTimeoutMs plan).run w₁ = (r, w₂) ∧
      ((∃ rep, ((runLocked store o snap plan channel target notes).run w).1 = .ok rep ∧
          rep.result = r) ∨
        (r.status = .ok ∧ ∃ f, ((Config.load store).run w₂).1 = .error f ∧
          ((runLocked store o snap plan channel target notes).run w).1 = .error f)) := by
  generalize hres : (runLocked store o snap plan channel target notes).run w = res
  have h := runLocked_run store o snap plan channel target notes w
  rw [hres] at h
  cases h with
  | persistFailed hch hv hper => exact .inl ⟨_, _, hch, hv, by rw [hper], rfl⟩
  | notOk hp hex _ => exact .inr ⟨_, _, _, _, hp, hex, .inl ⟨_, rfl, rfl⟩⟩
  | reloadFailed hp hex hok hload => exact .inr ⟨_, _, _, _, hp, hex, .inr ⟨hok, _, hload, rfl⟩⟩
  | finished hp hex _ _ hr => exact .inr ⟨_, _, _, _, hp, hex, .inl ⟨_, rfl, hr⟩⟩

/-! ### Changes are made under the lock -/

theorem Pipeline.execute_unsupported (t : Nat) (root : String) (w : World) :
    ∃ r, (Pipeline.execute t (.unsupported root)).run w = (r, w) ∧ r.status = .skipped := by
  obtain ⟨v, hv⟩ := Package.reads_readVersion root w
  simp only [Pipeline.execute, Pipeline.snapshot, Pipeline.conclude, Pipeline.outcome,
    StateT.run_bind, hv, id_bind_apply, beq_self_eq_true, ↓reduceIte,
    StateT.run_pure, id_pure_apply]
  exact ⟨_, rfl, rfl⟩

theorem runLocked_unsupported {store : String} {o : Options} {snap : Config.Snapshot}
    {root : String} {channel : Resolution} {target : Option VersionTarget} {notes : List String}
    {w w' : World} {r : Except Failure UpdateReport}
    (h : (runLocked store o snap (.unsupported root) channel target notes).run w = (r, w')) :
    w' = w ∨ ∃ ch, o.requestedChannel = some ch ∧ snap.valid = true ∧
      w' = ((Config.persistChannel store ch).run w).2 := by
  have hrun := runLocked_run store o snap (.unsupported root) channel target notes w
  rw [h] at hrun
  -- the pipeline of `unsupported` skips, so only the channel can have been stored
  have hstored : ∀ {persisted w₁ r' w₂}, Persisted store o snap w persisted w₁ →
      (Pipeline.execute o.stepTimeoutMs (.unsupported root)).run w₁ = (r', w₂) →
      w₂ = w₁ ∧ r'.status = .skipped ∧ (w₁ = w ∨ ∃ ch, o.requestedChannel = some ch ∧
        snap.valid = true ∧ w₁ = ((Config.persistChannel store ch).run w).2) := by
    intro persisted w₁ r' w₂ hp hex
    obtain ⟨r'', hr'', hs⟩ := Pipeline.execute_unsupported o.stepTimeoutMs root w₁
    obtain ⟨rfl, rfl⟩ := Prod.mk.inj (hex.symm.trans hr'')
    refine ⟨rfl, hs, ?_⟩
    cases hp with
    | unasked => exact .inl rfl
    | invalid => exact .inl rfl
    | stored hch hv hper => exact .inr ⟨_, hch, hv, by rw [hper]⟩
  cases hrun with
  | persistFailed hch hv hper => exact .inr ⟨_, hch, hv, by rw [hper]⟩
  | notOk hp hex _ =>
    obtain ⟨rfl, -, hw⟩ := hstored hp hex
    exact hw
  | reloadFailed hp hex hok =>
    obtain ⟨-, hs, -⟩ := hstored hp hex
    simp [hs] at hok
  | finished hp hex hok =>
    obtain ⟨-, hs, -⟩ := hstored hp hex
    simp [hs] at hok

theorem Locking.fresh {stateDir : String} {w w' : World} {lock : Lock}
    (h : Locking stateDir w (.ok lock, w')) :
    lock.inode ∉ w.locks ∧ w'.locks = w.locks ++ [lock.inode] := by
  cases h with
  | taken _ _ hi => exact ⟨hi, rfl⟩

/-- What a run that proceeds changes, it changes under the lock: the lock was free, the run took
it, nothing it does before giving it back touches the lock table, and after it the table is as it
was. The exception is a plan of `unsupported`, which takes no lock; its only change is the
channel it stores when one is asked for. -/
inductive Guarded (store : String) (o : Options) (s : Settled) (w : World) :
    Except Failure Outcome × World → Prop
  | locked {p : Plan} {lock : Lock} {w' w'' : World} {r : Except Failure UpdateReport} :
      (planFor o s.d (s.transition o) (s.channel o).channel s.target).run w = (.ok p, w) →
      (∀ root, p ≠ .unsupported root) → Locking o.stateDir w (.ok lock, w') →
      lock.inode ∉ w.locks → w'.locks = w.locks ++ [lock.inode] →
      (runLocked store o s.snap p (s.channel o) s.target s.notes).run w' = (r, w'') →
      w''.locks = w'.locks →
      Guarded store o s w (r.map .finished, { w'' with locks := w.locks })
  | unlocked {root : String} {r : Except Failure UpdateReport} {w' : World} :
      (planFor o s.d (s.transition o) (s.channel o).channel s.target).run w =
        (.ok (.unsupported root), w) →
      (runLocked store o s.snap (.unsupported root) (s.channel o) s.target s.notes).run w =
        (r, w') →
      (w' = w ∨ ∃ ch, o.requestedChannel = some ch ∧ s.snap.valid = true ∧
        w' = ((Config.persistChannel store ch).run w).2) →
      Guarded store o s w (r.map .finished, w')

theorem Proceeds.guarded {store : String} {o : Options} {s : Settled} {w : World}
    {res : Except Failure Outcome × World} (h : Proceeds store o s w res) :
    Guarded store o s w res := by
  cases h with
  | unlocked hplan hrun => exact .unlocked hplan hrun (runLocked_unsupported hrun)
  | @locked p lock w' w'' r hplan hnot hl hrun =>
    obtain ⟨hfree, hheld⟩ := hl.fresh
    have hkeep := keepsLocks_runLocked store o s.snap p (s.channel o) s.target s.notes w'
    simp only [hrun] at hkeep
    -- giving the lock back leaves the table as it was before the run took it
    have hback : w''.locks.erase lock.inode = w.locks := by
      rw [hkeep, hheld, List.erase_append_right _ hfree, List.erase_cons_head, List.append_nil]
    rw [hback]
    exact .locked hplan hnot hl hfree hheld hrun hkeep

theorem runUpdate_changes_under_lock (store : String) (o : Options) (w : World) :
    EarlyStop store o w ((runUpdate store o).run w) ∨
      ∃ s w₁, Prepares store o w s w₁ ∧ Guarded store o s w₁ ((runUpdate store o).run w) := by
  rcases (runUpdate_run store o w).stops_or_proceeds with h | ⟨s, w₁, hp, hpr⟩
  · exact .inl h
  · exact .inr ⟨s, w₁, hp, hpr.guarded⟩

end Updater
