import Updater.Proofs.Executor
import Updater.Update.Pipeline

/-! Every way the synchronisation of a checkout can go. `Synced` has one rule for each place
`syncCheckout` can stop: it names the exchanges with the runner, the results recorded and the
stop, and the inversion lemma `syncCheckout_run` says that every run is one of them. The clean
check is executed before it is recorded, and a tree with local changes stops the run with
nothing recorded; a successful tag listing is never recorded. -/

namespace Updater.Pipeline

def CleanAnswer (t : Nat) (root : String) (a : Answer) : Prop :=
  (StepResult.ofAnswer (cleanCheck t root) a).succeeded = true ∧
    showsChanges (StepResult.ofAnswer (cleanCheck t root) a) = false

inductive Synced (t : Nat) (root : String) :
    Channel → List (Command × Answer) → List StepResult → Option Stop → Prop
  | dirty {ch : Channel} {a : Answer} :
      showsChanges (StepResult.ofAnswer (cleanCheck t root) a) = true →
      Synced t root ch [((cleanCheck t root).command, a)] [] (some (.skipped, reasonDirty))
  | cleanFailed {ch : Channel} {a : Answer} :
      showsChanges (StepResult.ofAnswer (cleanCheck t root) a) = false →
      (StepResult.ofAnswer (cleanCheck t root) a).succeeded = false →
      Synced t root ch [((cleanCheck t root).command, a)] [StepResult.ofAnswer (cleanCheck t root) a]
        (some (.error, "clean check"))
  | noUpstream {a b : Answer} : CleanAnswer t root a →
      (StepResult.ofAnswer (upstreamCheck t root) b).succeeded = false →
      Synced t root .dev [((cleanCheck t root).command, a), ((upstreamCheck t root).command, b)]
        [StepResult.ofAnswer (cleanCheck t root) a, StepResult.ofAnswer (upstreamCheck t root) b]
        (some (.skipped, reasonNoUpstream))
  | rebased {a b : Answer} {xs rs f} : CleanAnswer t root a →
      (StepResult.ofAnswer (upstreamCheck t root) b).succeeded = true →
      RanAll [fetchStep t root, rebaseStep t root] xs rs f →
      Synced t root .dev (((cleanCheck t root).command, a) :: ((upstreamCheck t root).command, b) :: xs)
        (StepResult.ofAnswer (cleanCheck t root) a :: StepResult.ofAnswer (upstreamCheck t root) b :: rs)
        (f.map fun n => (.error, n))
  | fetchFailed {ch : Channel} {a b : Answer} : ch ≠ .dev → CleanAnswer t root a →
      (StepResult.ofAnswer (fetchStep t root) b).succeeded = false →
      Synced t root ch [((cleanCheck t root).command, a), ((fetchStep t root).command, b)]
        [StepResult.ofAnswer (cleanCheck t root) a, StepResult.ofAnswer (fetchStep t root) b]
        (some (.error, "git fetch"))
  | listFailed {ch : Channel} {a b l : Answer} : ch ≠ .dev → CleanAnswer t root a →
      (StepResult.ofAnswer (fetchStep t root) b).succeeded = true →
      (StepResult.ofAnswer (tagList t root) l).succeeded = false →
      Synced t root ch [((cleanCheck t root).command, a), ((fetchStep t root).command, b),
          ((tagList t root).command, l)]
        [StepResult.ofAnswer (cleanCheck t root) a, StepResult.ofAnswer (fetchStep t root) b,
          StepResult.ofAnswer (tagList t root) l]
        (some (.error, "git tag list"))
  | noReleaseTag {ch : Channel} {a b l : Answer} : ch ≠ .dev → CleanAnswer t root a →
      (StepResult.ofAnswer (fetchStep t root) b).succeeded = true →
      (StepResult.ofAnswer (tagList t root) l).succeeded = true →
      Git.latestReleaseTag (answerStdout l) ch = none →
      Synced t root ch [((cleanCheck t root).command, a), ((fetchStep t root).command, b),
          ((tagList t root).command, l)]
        [StepResult.ofAnswer (cleanCheck t root) a, StepResult.ofAnswer (fetchStep t root) b]
        (some (.skipped, reasonNoReleaseTag))
  | checkedOut {ch : Channel} {a b l : Answer} {tag : String} (d : Answer) : ch ≠ .dev →
      CleanAnswer t root a →
      (StepResult.ofAnswer (fetchStep t root) b).succeeded = true →
      (StepResult.ofAnswer (tagList t root) l).succeeded = true →
      Git.latestReleaseTag (answerStdout l) ch = some tag →
      Synced t root ch [((cleanCheck t root).command, a), ((fetchStep t root).command, b),
          ((tagList t root).command, l), ((checkoutStep t root tag).command, d)]
        [StepResult.ofAnswer (cleanCheck t root) a, StepResult.ofAnswer (fetchStep t root) b,
          StepResult.ofAnswer (checkoutStep t root tag) d]
        (if (StepResult.ofAnswer (checkoutStep t root tag) d).succeeded then none
          else some (.error, "git checkout"))

theorem syncCheckout_run (t : Nat) (e : Executor) (root : String) (ch : Channel) (w : World) :
    ∃ xs rs stop m, (syncCheckout t e root ch).run w =
      ((e.append rs, stop), w.extend m xs (StepEvent.ofResults e.started rs)) ∧
      Synced t root ch xs rs stop ∧
      xs.head? = some ((cleanCheck t root).command, ((run (cleanCheck t root).command).run w).1) := by
  obtain ⟨a, m, ha, hfirst⟩ := Executor.execute_run (cleanCheck t root) w
  -- every run starts with the clean check, answered by the runner at `w`
  suffices h : ∃ xs rs stop m, (syncCheckout t e root ch).run w = ((e.append rs, stop),
      w.extend m (((cleanCheck t root).command, a) :: xs) (StepEvent.ofResults e.started rs)) ∧
      Synced t root ch (((cleanCheck t root).command, a) :: xs) rs stop by
    obtain ⟨xs, rs, stop, m, hrun, hsync⟩ := h
    exact ⟨_, rs, stop, m, hrun, hsync, by rw [hfirst]; rfl⟩
  simp only [syncCheckout, StateT.run_bind, ha, id_bind_apply]
  cases hdirty : showsChanges (StepResult.ofAnswer (cleanCheck t root) a)
  case true => exact ⟨_, [], _, m, by simp, .dirty hdirty⟩
  simp only [Bool.false_eq_true, ↓reduceIte, StateT.run_bind, Executor.recordExecuted_run,
    id_bind_apply, World.extend_extend, World.extend_machine, List.append_nil, List.nil_append]
  cases hclean : (StepResult.ofAnswer (cleanCheck t root) a).succeeded
  case false =>
    exact ⟨_, [_], _, m, by simp, .cleanFailed hdirty hclean⟩
  have hc : CleanAnswer t root a := ⟨hclean, hdirty⟩
  simp only [Bool.not_true, Bool.false_eq_true, ↓reduceIte]
  split
  · obtain ⟨b, m₁, hb⟩ := Executor.runStep_run (e.append [StepResult.ofAnswer (cleanCheck t root) a])
      (upstreamCheck t root) (w.extend m [((cleanCheck t root).command, a)]
        (StepEvent.ofResults e.started [StepResult.ofAnswer (cleanCheck t root) a]))
    simp only [StateT.run_bind, hb, id_bind_apply, World.extend_extend, Executor.append_append,
      Executor.append_started, List.length_singleton, List.singleton_append,
      StepEvent.ofResults_append_ofResults]
    cases hup : (StepResult.ofAnswer (upstreamCheck t root) b).succeeded
    case false => exact ⟨_, [_, _], _, m₁, by simp, .noUpstream hc hup⟩
    obtain ⟨xs, rs, f, m₂, hrun, hran⟩ := Executor.runAll_run
      (e.append [StepResult.ofAnswer (cleanCheck t root) a, StepResult.ofAnswer (upstreamCheck t root) b])
      [fetchStep t root, rebaseStep t root] (w.extend m₁ [((cleanCheck t root).command, a),
        ((upstreamCheck t root).command, b)] (StepEvent.ofResults e.started
          [StepResult.ofAnswer (cleanCheck t root) a, StepResult.ofAnswer (upstreamCheck t root) b]))
    refine ⟨_, _ :: _ :: rs, _, m₂, ?_, .rebased hc hup hran⟩
    simp only [Bool.not_true, Bool.false_eq_true, ↓reduceIte, StateT.run_bind, hrun, id_bind_apply]
    simp
  · rename_i hdev
    obtain ⟨b, m₁, hb⟩ := Executor.runStep_run (e.append [StepResult.ofAnswer (cleanCheck t root) a])
      (fetchStep t root) (w.extend m [((cleanCheck t root).command, a)]
        (StepEvent.ofResults e.started [StepResult.ofAnswer (cleanCheck t root) a]))
    simp only [StateT.run_bind, hb, id_bind_apply, World.extend_extend, Executor.append_append,
      Executor.append_started, List.length_singleton, List.singleton_append,
      StepEvent.ofResults_append_ofResults]
    cases hfetch : (StepResult.ofAnswer (fetchStep t root) b).succeeded
    case false => exact ⟨_, [_, _], _, m₁, by simp, .fetchFailed hdev hc hfetch⟩
    obtain ⟨l, m₂, hl, -⟩ := Executor.executeWithStdout_run (tagList t root)
      (w.extend m₁ [((cleanCheck t root).command, a), ((fetchStep t root).command, b)]
        (StepEvent.ofResults e.started
          [StepResult.ofAnswer (cleanCheck t root) a, StepResult.ofAnswer (fetchStep t root) b]))
    simp only [Bool.not_true, Bool.false_eq_true, ↓reduceIte, StateT.run_bind, hl, id_bind_apply,
      World.extend_extend, List.append_nil]
    cases hlist : (StepResult.ofAnswer (tagList t root) l).succeeded
    case false =>
      refine ⟨_, [_, _, _], _, m₂, ?_, .listFailed hdev hc hfetch hlist⟩
      simp [Executor.recordExecuted_run]
    simp only [Bool.not_true, Bool.false_eq_true, ↓reduceIte]
    cases htag : Git.latestReleaseTag (answerStdout l) ch
    case none => exact ⟨_, [_, _], _, m₂, by simp, .noReleaseTag hdev hc hfetch hlist htag⟩
    case some tag =>
      obtain ⟨d, m₃, hd⟩ := Executor.runStep_run
        (e.append [StepResult.ofAnswer (cleanCheck t root) a, StepResult.ofAnswer (fetchStep t root) b])
        (checkoutStep t root tag) (w.extend m₂ [((cleanCheck t root).command, a),
          ((fetchStep t root).command, b), ((tagList t root).command, l)] (StepEvent.ofResults e.started
            [StepResult.ofAnswer (cleanCheck t root) a, StepResult.ofAnswer (fetchStep t root) b]))
      refine ⟨_, [_, _, _], _, m₃, ?_, .checkedOut d hdev hc hfetch hlist htag⟩
      simp [hd]

end Updater.Pipeline

namespace Updater.Pipeline

theorem buildSteps_run (t : Nat) (root : String) (w : World) :
    ∃ mgr ui, (buildSteps t root).run w = (buildStepsFor t root mgr ui, w) := by
  obtain ⟨mgr, hm⟩ := Package.reads_lockfileManager root w
  obtain ⟨ui, hu⟩ := Act.reads_exists (Path.join (Path.join root "ui") "package.json") w
  exact ⟨mgr, ui, by simp only [buildSteps, StateT.run_bind, hm, hu, id_bind_apply]; rfl⟩

/-- Every run of `gitPhase`: a synchronisation that stopped, or one that went through (or none,
when not asked for) followed by the build steps until one fails. -/
inductive Phased (t : Nat) (root : String) (ch : Channel) :
    Bool → List (Command × Answer) → List StepResult → Option Stop → Prop
  | stopped {xs rs s} : Synced t root ch xs rs (some s) → Phased t root ch true xs rs (some s)
  | built {xs rs ys bs f} (mgr : Manager) (ui : Bool) : Synced t root ch xs rs none →
      RanAll (buildStepsFor t root mgr ui) ys bs f →
      Phased t root ch true (xs ++ ys) (rs ++ bs) (f.map fun n => (.error, n))
  | unsynced {ys bs f} (mgr : Manager) (ui : Bool) : RanAll (buildStepsFor t root mgr ui) ys bs f →
      Phased t root ch false ys bs (f.map fun n => (.error, n))

theorem gitPhase_run (t : Nat) (e : Executor) (root : String) (ch : Channel) (sync : Bool)
    (w : World) :
    ∃ xs rs stop m, (gitPhase t e root ch sync).run w =
      ((e.append rs, stop), w.extend m xs (StepEvent.ofResults e.started rs)) ∧
      Phased t root ch sync xs rs stop ∧
      (sync = true →
        xs.head? = some ((cleanCheck t root).command, ((run (cleanCheck t root).command).run w).1)) := by
  cases sync
  case false =>
    obtain ⟨mgr, ui, hb⟩ := buildSteps_run t root w
    obtain ⟨ys, bs, f, m, hrun, hran⟩ := e.runAll_run (buildStepsFor t root mgr ui) w
    refine ⟨ys, bs, _, m, ?_, .unsynced mgr ui hran, nofun⟩
    simp [gitPhase, hb, hrun]
  case true =>
    obtain ⟨xs, rs, stop, m, hs, hsync, hfirst⟩ := syncCheckout_run t e root ch w
    cases stop with
    | some s => exact ⟨xs, rs, some s, m, by simp [gitPhase, hs], .stopped hsync, fun _ => hfirst⟩
    | none =>
      obtain ⟨mgr, ui, hb⟩ := buildSteps_run t root (w.extend m xs (StepEvent.ofResults e.started rs))
      obtain ⟨ys, bs, f, m', hrun, hran⟩ := (e.append rs).runAll_run (buildStepsFor t root mgr ui)
        (w.extend m xs (StepEvent.ofResults e.started rs))
      refine ⟨xs ++ ys, rs ++ bs, _, m', ?_, .built mgr ui hsync hran, fun _ => ?_⟩
      · simp [gitPhase, hs, hb, hrun]
      · simp [List.head?_append, hfirst]

end Updater.Pipeline
