import Updater.Proofs.Collaborators

/-! Reconciling plugin records with any synchronizer. Whatever its two passes answer, and whatever
they do to the world, reconciliation calls the sync pass once with the configuration it was given,
then the update pass once with the configuration the sync pass left and skipping exactly the ids it
moved, and then saves at most once: exactly when a pass reports a change, with the configuration
of the last pass that answered (`Synchronizer.reconcile_passes_then_save`). The report keeps the
sync summary and the outcomes, counts the outcomes by status, says whether the save went
through, and holds one warning for each failed pass and a failed save, in that order. -/

namespace Updater.Plugin

open Config

/-! ### Counting outcomes -/

def Counts.count (c : Counts) : UpdateStatus → Nat
  | .updated => c.updated
  | .unchanged => c.unchanged
  | .failed => c.failed
  | .skipped => c.skipped

def Counts.total (c : Counts) : Nat := c.updated + c.unchanged + c.failed + c.skipped

theorem Counts.count_add (c : Counts) (s st : UpdateStatus) :
    (c.add s).count st = c.count st + if s = st then 1 else 0 := by
  cases s <;> cases st <;> simp [Counts.add, Counts.count]

theorem Counts.total_add (c : Counts) (s : UpdateStatus) : (c.add s).total = c.total + 1 := by
  cases s <;> simp only [Counts.add, Counts.total] <;> omega

theorem Counts.count_ofOutcomes (os : List Outcome) (st : UpdateStatus) :
    (Counts.ofOutcomes os).count st = os.countP (·.status = st) := by
  -- the fold adds one outcome at a time to the counts it started from
  suffices h : ∀ c : Counts,
      (os.foldl (fun c o => c.add o.status) c).count st = c.count st + os.countP (·.status = st) by
    have h0 : ({} : Counts).count st = 0 := by cases st <;> rfl
    simpa [Counts.ofOutcomes, h0] using h {}
  induction os with
  | nil => simp
  | cons o os ih =>
    intro c
    rw [List.foldl_cons, ih, Counts.count_add, List.countP_cons]
    by_cases h : o.status = st
    · simp [h]
      omega
    · simp [h]

theorem Counts.total_ofOutcomes (os : List Outcome) : (Counts.ofOutcomes os).total = os.length := by
  suffices h : ∀ c : Counts, (os.foldl (fun c o => c.add o.status) c).total = c.total + os.length by
    simpa [Counts.ofOutcomes, Counts.total] using h {}
  induction os with
  | nil => simp
  | cons o os ih =>
    intro c
    rw [List.foldl_cons, ih, Counts.total_add, List.length_cons]
    omega

/-! ### What the passes leave -/

def passConfig {β : Type} (c : AppConfig) : Except Failure (AppConfig × β) → AppConfig
  | .ok p => p.1
  | .error _ => c

def syncSummary : Except Failure (AppConfig × SyncSummary) → SyncSummary
  | .ok p => p.2
  | .error _ => {}

def updateOutcomes : Except Failure (AppConfig × List Outcome × Bool) → List Outcome
  | .ok p => p.2.1
  | .error _ => []

def passesChanged (r₁ : Except Failure (AppConfig × SyncSummary))
    (r₂ : Except Failure (AppConfig × List Outcome × Bool)) : Bool :=
  (syncSummary r₁).changed || match r₂ with
    | .ok p => p.2.2
    | .error _ => false

def failureWarning {α : Type} (text : String) : Except Failure α → List String
  | .ok _ => []
  | .error f => [text ++ f.fullText]

def passWarnings (r₁ : Except Failure (AppConfig × SyncSummary))
    (r₂ : Except Failure (AppConfig × List Outcome × Bool)) : List String :=
  failureWarning "plugin sync failed: " r₁ ++ failureWarning "plugin update failed: " r₂

/-- What reconciling `c` reports, and the world it ends in, when its sync pass answered `r₁` and
its update pass answered `r₂`, leaving the world `w₂`. -/
structure Reconciled (store : String) (c : AppConfig) (r₁ : Except Failure (AppConfig × SyncSummary))
    (r₂ : Except Failure (AppConfig × List Outcome × Bool)) (w₂ : World) (rep : Report)
    (w' : World) : Prop where
  sync : rep.sync = syncSummary r₁
  outcomes : rep.outcomes = updateOutcomes r₂
  counts : rep.counts = Counts.ofOutcomes rep.outcomes
  /-- A change is saved once, after both passes, with the configuration of the last pass that
  answered; the report says whether the save went through. -/
  saved : passesChanged r₁ r₂ = true →
    ∃ rs, (save store (passConfig (passConfig c r₁) r₂)).run w₂ = (rs, w') ∧
      (rep.persisted = true ↔ rs = .ok ()) ∧
      rep.warnings = passWarnings r₁ r₂ ++ failureWarning "could not save plugin records: " rs
  unsaved : passesChanged r₁ r₂ = false →
    w' = w₂ ∧ rep.persisted = false ∧ rep.warnings = passWarnings r₁ r₂

theorem mem_idSet (ids : List String) (id : String) : id ∈ idSet ids ↔ id ∈ ids := by
  simp [idSet, List.mem_eraseDups, List.mem_mergeSort]

theorem Synchronizer.reconciled (P : Synchronizer) (store : String) {c : AppConfig} {ch : Channel}
    {ws : String} {w w₁ w₂ : World} {r₁ : Except Failure (AppConfig × SyncSummary)}
    {r₂ : Except Failure (AppConfig × List Outcome × Bool)}
    (h₁ : (P.sync c ch ws).run w = (r₁, w₁))
    (h₂ : (P.updateInstalled (passConfig c r₁)
      (idSet ((syncSummary r₁).switchedToBundled ++ (syncSummary r₁).switchedToNpm))).run w₁ =
        (r₂, w₂)) :
    Reconciled store c r₁ r₂ w₂ ((P.reconcile store c ch ws).run w).1
      ((P.reconcile store c ch ws).run w).2 := by
  simp only [Synchronizer.reconcile, StateT.run_bind, h₁, id_bind_apply]
  -- each pass answered or failed; all four ways end in the same save step
  rcases r₁ with f₁ | ⟨c₁, s⟩ <;> rcases r₂ with f₂ | ⟨c₂, outs, b⟩ <;>
    simp only [passConfig, syncSummary] at h₂ <;>
    simp only [pure_bind, StateT.run_bind, h₂, id_bind_apply]
  all_goals
    split
    · next hb =>
      simp only [StateT.run_bind, id_bind_apply]
      generalize hs : (save store _).run w₂ = res
      obtain ⟨rs, w₃⟩ := res
      cases rs <;>
        exact ⟨rfl, rfl, rfl,
          fun _ => ⟨_, by simpa only [passConfig, StateT.run_pure, id_pure_apply] using hs, by simp,
            by simp [passWarnings, failureWarning]⟩,
          fun h => by simp_all [passesChanged, syncSummary]⟩
    · next hb =>
      exact ⟨rfl, rfl, rfl, fun h => by simp_all [passesChanged, syncSummary],
        fun _ => ⟨rfl, rfl, by simp [passWarnings, failureWarning]⟩⟩

/-- Reconciling with any synchronizer, from any world: the sync pass is called once, with the
configuration given, and the update pass once after it, with the configuration the sync pass left
(the one given when it failed) and skipping exactly the ids the sync pass moved to their bundled
copies or to the registry (none when it failed). Then the configuration of the last pass that
answered is saved once exactly when a pass reports a change, and nothing is written otherwise; the
report says whether the save went through, keeps the summary and the outcomes, counts each status
once for every outcome that has it, so that the counts add up to the outcomes, and warns once for
each failed pass and for a failed save, in that order. -/
theorem Synchronizer.reconcile_passes_then_save (P : Synchronizer) (store : String) (c : AppConfig)
    (ch : Channel) (ws : String) (w : World) :
    ∃ r₁ w₁ skip r₂ w₂, (P.sync c ch ws).run w = (r₁, w₁) ∧
      (∀ id, id ∈ skip ↔
        id ∈ (syncSummary r₁).switchedToBundled ∨ id ∈ (syncSummary r₁).switchedToNpm) ∧
      (P.updateInstalled (passConfig c r₁) skip).run w₁ = (r₂, w₂) ∧
      ∃ rep w', (P.reconcile store c ch ws).run w = (rep, w') ∧ Reconciled store c r₁ r₂ w₂ rep w' ∧
        (∀ st, rep.counts.count st = rep.outcomes.countP (·.status = st)) ∧
        rep.counts.total = rep.outcomes.length := by
  obtain ⟨r₁, w₁, h₁⟩ : ∃ r₁ w₁, (P.sync c ch ws).run w = (r₁, w₁) := ⟨_, _, rfl⟩
  -- the update pass skips the ids of `idSet`, which are those the sync pass moved
  obtain ⟨r₂, w₂, h₂⟩ : ∃ r₂ w₂, (P.updateInstalled (passConfig c r₁)
      (idSet ((syncSummary r₁).switchedToBundled ++ (syncSummary r₁).switchedToNpm))).run w₁ =
        (r₂, w₂) := ⟨_, _, rfl⟩
  obtain ⟨rep, w', hrun⟩ : ∃ rep w', (P.reconcile store c ch ws).run w = (rep, w') :=
    ⟨_, _, rfl⟩
  have hrec := P.reconciled store h₁ h₂
  rw [hrun] at hrec
  refine ⟨r₁, w₁, _, r₂, w₂, h₁, fun id => by rw [mem_idSet, List.mem_append], h₂, rep, w', hrun,
    hrec, fun st => ?_, ?_⟩
  · rw [hrec.counts, Counts.count_ofOutcomes]
  · rw [hrec.counts, Counts.total_ofOutcomes]

end Updater.Plugin
