import Mathlib
import Updater.Proofs.Collaborators

/-! A run that finished. It prepared, planned, took the lock unless its plan is `unsupported`,
stored the channel and ran its pipeline; the world at that point (`ReachesPipeline`) differs
from the first only by what the read-only part, the lock and the stored channel changed, and no
collaborator had been called and no step reported yet. After the pipeline the plugin passes ran
once each exactly when the pipeline ended `ok` with a configuration that reads back valid, the
restart once exactly when the pipeline ended `ok` and a restart was asked for, and the check once
exactly when that restart answered `ok true` (`runUpdate_finished_calls`). -/

namespace Updater

theorem Except.map_finished_eq_ok {r : Except Failure UpdateReport} {rep : UpdateReport}
    (h : r.map Outcome.finished = .ok (.finished rep)) : r = .ok rep := by
  cases r with
  | error f => cases h
  | ok rep' => cases h; rfl

theorem runUpdate_finished {store : String} {o : Options} {w w' : World} {rep : UpdateReport}
    (h : (runUpdate store o).run w = (.ok (.finished rep), w')) :
    ∃ (s : Settled) (wₛ w₀ w₂ : World) (plan : Plan), Prepares store o w s wₛ ∧
      (planFor o s.d (s.transition o) (s.channel o).channel s.target).run wₛ = (.ok plan, wₛ) ∧
      (∃ m ls, w₀ = { wₛ with machine := m, locks := ls }) ∧
      LockedPart store o s.snap plan (s.channel o) s.target s.notes w₀ (.ok rep, w₂) ∧
      ∃ ls, w' = { w₂ with locks := ls } := by
  have hrun := runUpdate_run store o w
  rw [h] at hrun
  generalize hres : ((.ok (.finished rep) : Except Failure Outcome), w') = res at hrun
  -- only a run handed over to planning can finish, and only through its locked part
  cases hrun with
  | loadFailed => cases hres
  | configInvalid => cases hres
  | refused => cases hres
  | declined => cases hres
  | promptFailed => cases hres
  | @handedOver s wₛ _ hp hpl =>
    cases hpl with
    | planFailed => cases hres
    | lockFailed => cases hres
    | proceeds hpr =>
      cases hpr with
      | @unlocked root r w₂ hplan hlocked =>
        obtain ⟨hr, rfl⟩ := Prod.mk.inj hres
        obtain rfl := Except.map_finished_eq_ok hr.symm
        have hpart :=
          runLocked_part store o s.snap (.unsupported root) (s.channel o) s.target s.notes wₛ
        rw [hlocked] at hpart
        exact ⟨_, _, _, _, _, hp, hplan, ⟨_, _, rfl⟩, hpart, _, rfl⟩
      | @locked plan lock w₀ w₂ r hplan _ hl hlocked =>
        obtain ⟨hr, rfl⟩ := Prod.mk.inj hres
        obtain rfl := Except.map_finished_eq_ok hr.symm
        have hpart := runLocked_part store o s.snap plan (s.channel o) s.target s.notes w₀
        rw [hlocked] at hpart
        cases hl with
        | taken => exact ⟨_, _, _, _, _, hp, hplan, ⟨_, _, rfl⟩, hpart, _, rfl⟩


/-! ### What the run had logged before its pipeline -/

/-- The part of the world that records the observer's events and the calls of the plugin and
service collaborators. -/
def World.log (w : World) : List StepEvent × List Channel × List (List String) × Nat × Nat :=
  (w.events, w.syncCalls, w.skipIdsSeen, w.restartCalls, w.verifyCalls)

theorem Consulted.log_eq {root : String} {w w' : World} (h : Consulted root w w') :
    w'.log = w.log := by
  obtain ⟨m, xs, reg, n, rq, qs, rfl, -, -⟩ := h
  simp [World.log, World.extend]

theorem Persisted.log_eq {store : String} {o : Options} {snap : Config.Snapshot} {w w₁ : World}
    {persisted : Bool} (h : Persisted store o snap w persisted w₁) : w₁.log = w.log := by
  -- storing the channel only writes the file
  obtain ⟨m, rfl⟩ := h.world
  rfl

/-- The run from `w` starts its pipeline on `plan` in `w₁`: it prepared `s` and planned `plan`,
took the lock unless the plan is `unsupported` (which changes files and the lock table only), and
stored the channel when asked to. -/
def ReachesPipeline (store : String) (o : Options) (w : World) (plan : Plan) (w₁ : World) : Prop :=
  ∃ (s : Settled) (wₛ w₀ : World) (persisted : Bool), Prepares store o w s wₛ ∧
    (planFor o s.d (s.transition o) (s.channel o).channel s.target).run wₛ = (.ok plan, wₛ) ∧
    (∃ m ls, w₀ = { wₛ with machine := m, locks := ls }) ∧
    Persisted store o s.snap w₀ persisted w₁

theorem ReachesPipeline.log_eq {store : String} {o : Options} {w w₁ : World} {plan : Plan}
    (h : ReachesPipeline store o w plan w₁) : w₁.log = w.log := by
  obtain ⟨s, wₛ, w₀, persisted, hp, -, ⟨m, ls, rfl⟩, hpers⟩ := h
  rw [hpers.log_eq]
  exact hp.consulted.log_eq

theorem Prepares.skipNote_not_mem {store : String} {o : Options} {w w' : World} {s : Settled}
    (h : Prepares store o w s w') : skipPluginsNote ∉ s.notes := by
  cases h with
  | gated _ _ _ _ _ _ hn => simp [hn]
  | ungated _ _ _ _ _ hn =>
    rw [hn]
    split <;> simp [skipPluginsNote, gitTagIgnoredNote]

theorem runUpdate_finished_pipeline {store : String} {o : Options} {w w' : World}
    {rep : UpdateReport} (h : (runUpdate store o).run w = (.ok (.finished rep), w')) :
    ∃ plan w₁ w₂ base, ReachesPipeline store o w plan w₁ ∧
      (Pipeline.execute o.stepTimeoutMs plan).run w₁ = (rep.result, w₂) ∧
      base.result = rep.result ∧ skipPluginsNote ∉ base.notes ∧
      ∃ w₃ ls, AfterPipeline store o rep.channel.channel base w₂ (.ok rep, w₃) ∧
        w' = { w₃ with locks := ls } := by
  obtain ⟨s, wₛ, w₀, w₃, plan, hp, hplan, hw₀, hpart, ls, rfl⟩ := runUpdate_finished h
  cases hpart with
  | ran hpers hex hafter =>
    obtain ⟨hres, hch, -⟩ := hafter.result
    refine ⟨plan, _, _, _, ⟨s, wₛ, w₀, _, hp, hplan, hw₀, hpers⟩, by rw [hres]; exact hex,
      hres.symm, hp.skipNote_not_mem, w₃, ls, ?_, rfl⟩
    rw [hch]
    exact hafter

/-! ### The collaborators of a finished run -/

/-- What a finished run with the report `rep` did after its pipeline, which left `w₂`, counted
from the world `w` the run started in to the world `w'` it ended in. -/
structure FinishedCalls (store : String) (o : Options) (w w₂ w' : World) (rep : UpdateReport) :
    Prop where
  /-- The report has plugins exactly when the pipeline ended `ok` and the configuration read
  again reads valid. -/
  plugins : rep.plugins.isSome ↔ rep.result.status = .ok ∧ Config.ReadsValid store w₂
  skipNote : skipPluginsNote ∈ rep.notes ↔
    rep.result.status = .ok ∧ ¬Config.ReadsValid store w₂
  syncCalls : w'.syncCalls =
    w.syncCalls ++ (if rep.plugins.isSome then [rep.channel.channel] else [])
  updateCalls : w'.skipIdsSeen.length = w.skipIdsSeen.length + (if rep.plugins.isSome then 1 else 0)
  restart : rep.restart.isSome ↔ rep.result.status = .ok ∧ o.restart = true
  restartCalls : w'.restartCalls = w.restartCalls + (if rep.restart.isSome then 1 else 0)
  verifyCalls : w'.verifyCalls = w.verifyCalls + (if rep.restart.any (·.restarted) then 1 else 0)
  /-- A restart report is what restarting gave from a world where this run had called neither the
  restart nor the check, and it says the service restarted exactly when the restart answered
  `ok true`. -/
  restartReport : ∀ rr, rep.restart = some rr → ∃ w₃, w₃.restartCalls = w.restartCalls ∧
    w₃.verifyCalls = w.verifyCalls ∧ (Service.restartAndVerify.run w₃).1 = rr ∧
    (rr.restarted = true ↔ (Service.restart.run w₃).1 = .ok true)
  exitCode : (Outcome.finished rep).exitCode = if rep.result.status = .error then 1 else 0

theorem runUpdate_finished_calls (store : String) (o : Options) (w : World) {rep : UpdateReport}
    {w' : World} (h : (runUpdate store o).run w = (.ok (.finished rep), w')) :
    Outcome.cancelled.exitCode = 0 ∧
      ∃ plan w₁ w₂, ReachesPipeline store o w plan w₁ ∧
        (Pipeline.execute o.stepTimeoutMs plan).run w₁ = (rep.result, w₂) ∧
        FinishedCalls store o w w₂ w' rep := by
  obtain ⟨plan, w₁, w₂, base, hreach, hex, hbase, hnote, w₃, ls, hafter, rfl⟩ :=
    runUpdate_finished_pipeline h
  -- no call and no event before the pipeline, and the pipeline calls no collaborator
  obtain ⟨xs, r, m, hr, -⟩ := Pipeline.execute_run o.stepTimeoutMs plan w₁
  obtain ⟨rfl, rfl⟩ := Prod.mk.inj (hex.symm.trans hr)
  have hlog := hreach.log_eq
  simp only [World.log, Prod.mk.injEq] at hlog
  obtain ⟨-, hsync, hskip, hrestart, hverify⟩ := hlog
  obtain ⟨mp, xsp, skip, rfl⟩ := hafter.world
  refine ⟨rfl, plan, w₁, _, hreach, hex, ?_⟩
  constructor
  · rw [hafter.plugins_iff, hbase]
  · rw [hafter.skipNote_iff, hbase]
    simp [hnote]
  · simp [World.extend, hsync]
  · simp only [World.extend, World.call, hskip, List.length_append]
    split <;> rfl
  · rw [hafter.restart_iff, hbase]
  · simp [World.extend, hrestart]
  · simp [World.extend, hverify]
  · intro rr hrr
    obtain ⟨w₄, h₄r, h₄v, hrun, hiff⟩ := hafter.restart_report hrr
    refine ⟨w₄, ?_, ?_, hrun, hiff⟩
    · rw [h₄r]; simp [World.extend, hrestart]
    · rw [h₄v]; simp [World.extend, hverify]
  · simp [Outcome.exitCode, RunResult.exitCode]


/-! ### An installation detection does not recognise

Such a run has nothing to update: with no channel asked for it plans `unsupported` and finishes
skipped, leaving the world as detection left it. It is the simplest run that finishes. -/

theorem forIn_yield_const {α σ : Type} (xs : List α) (b : σ) (g : α → σ → Act (ForInStep σ))
    (hg : ∀ a w, ((g a b).run w).1 = .yield b) (w : World) : ((forIn xs b g).run w).1 = b := by
  induction xs generalizing w with
  | nil => rfl
  | cons x xs ih =>
    have hx := hg x w
    rw [List.forIn_cons, StateT.run_bind, id_bind_apply]
    generalize (g x b).run w = r at hx ⊢
    obtain ⟨r, w'⟩ := r
    cases hx
    exact ih w'

theorem managerForRoot_of_no_parent {root : String} (h : Path.parent? root = none) (t : Nat)
    (w : World) : ((managerForRoot root t).run w).1 = none := by
  unfold managerForRoot
  simp only [h, StateT.run_bind, id_bind_apply]
  -- whatever each manager answers, the loop goes on to the next one
  rw [forIn_yield_const Manager.all (none, ()) _ fun m w => ?_]
  · rfl
  · simp only [StateT.run_bind, id_bind_apply]
    split <;> rfl

theorem detect_unrecognised (root : String) (t : Nat) (w : World)
    (hc : ((Git.isCheckout root).run w).1 = false) (hp : Path.parent? root = none) :
    ((detect root t).run w).1.kind = .unknown := by
  obtain ⟨c, hc'⟩ := Act.reads_exists (Path.join root ".git") w
  have hm := managerForRoot_of_no_parent hp t w
  unfold Git.isCheckout at hc
  rw [hc'] at hc
  cases hc
  generalize hr : (managerForRoot root t).run w = r at hm
  obtain ⟨r, w'⟩ := r
  cases hm
  simp [detect, Git.isCheckout, hc', Package.isCore_run, hr]

theorem runUpdate_unrecognised (store : String) (o : Options) (w : World) {w₁ : World}
    {snap : Config.Snapshot} {d : Descriptor}
    (hload : ((Config.load store).run w).1 = .ok snap) (hch : o.requestedChannel = none)
    (hd : (detect o.root statusTimeoutMs).run w = (d, w₁)) (hk : d.kind = .unknown) :
    ∃ rep, (runUpdate store o).run w = (.ok (.finished rep), w₁) ∧
      rep.result.status = .skipped := by
  obtain ⟨r, hr⟩ := Config.reads_load store w
  obtain rfl : r = .ok snap := by rw [← hload, hr]
  obtain ⟨res, hres, hst⟩ := Pipeline.execute_unsupported o.stepTimeoutMs o.root w₁
  refine ⟨{ result := res, channel := Resolution.resolve none snap.storedChannel .unknown,
             target := none, channelPersisted := false, notes := [] }, ?_, hst⟩
  simp [runUpdate, hr, hch, hd, hk, KindTransition.ofRequest, KindTransition.targetKind,
    runPlanned, planFor, runLocked, hres, hst, Except.map]

/-! ### An update that finishes -/

theorem npm_update_finishes :
    ∃ rep w', (runUpdate "" (npmRequest false)).run (npmInstall "1.0.0" true [("latest", "1.2.0")]) =
        (.ok (.finished rep), w') ∧
      rep.result.status = .ok ∧ rep.result.steps.map (·.name) = ["global update", "openclaw doctor"] ∧
      rep.plugins.isSome ∧ rep.restart.isSome := by
  have hrep : (finishedReport? ((runUpdate "" (npmRequest false)).run
      (npmInstall "1.0.0" true [("latest", "1.2.0")]))).map
        (fun rep => (rep.result.status, rep.result.steps.map (·.name), rep.plugins.isSome,
          rep.restart.isSome)) =
      some (.ok, ["global update", "openclaw doctor"], true, true) := by
    decide +kernel
  obtain ⟨rep, hr, hv⟩ := finished_of_report_map hrep
  simp only [Prod.mk.injEq] at hv
  exact ⟨rep, _, hr, hv⟩

theorem npm_update_finished_calls :
    let w := npmInstall "1.0.0" true [("latest", "1.2.0")]
    ∃ rep w', (runUpdate "" (npmRequest false)).run w = (.ok (.finished rep), w') ∧
      rep.result.status = .ok ∧ rep.plugins.isSome ∧ rep.restart.isSome ∧
      Outcome.cancelled.exitCode = 0 ∧
      ∃ plan w₁ w₂, ReachesPipeline "" (npmRequest false) w plan w₁ ∧
        (Pipeline.execute defaultStepTimeoutMs plan).run w₁ = (rep.result, w₂) ∧
        FinishedCalls "" (npmRequest false) w w₂ w' rep := by
  intro w
  obtain ⟨rep, w', h, hok, -, hplugins, hrestart⟩ := npm_update_finishes
  exact ⟨rep, w', h, hok, hplugins, hrestart, runUpdate_finished_calls _ _ _ h⟩

end Updater
