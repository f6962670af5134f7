import Updater.Proofs.Sync

/-! Every run of every plan. `Executed t plan xs r` says that running `plan` with step timeout
`t` can make the exchanges `xs` with the runner and return `r`; `execute_run` says every run
is such a run, and that the observer sees exactly the recorded steps. The relation keeps the
probes apart from the steps: the snapshots before and after (`snapshotProbes`), and the
manager's global root asked for by a switch to a package (`globalRootProbes`). -/

namespace Updater.Pipeline

def headProbe (root : String) : Command :=
  (Git.revParseHead root).withTimeout (some statusTimeoutMs)

def snapshotProbes (root : String) (withSha : Bool) : List Command :=
  if withSha then [headProbe root] else []

def globalRootCommand (m : Manager) : Command :=
  { program := m.program, args := ["root", "-g"], timeoutMs := some statusTimeoutMs }

def globalRootProbes : Manager → List Command
  | .bun => []
  | m => [globalRootCommand m]

theorem readHeadSha_run (root : String) (w : World) :
    ∃ a m, (Git.readHeadSha root statusTimeoutMs).run w =
      (probeValue a, w.extend m [(headProbe root, a)] []) :=
  Git.probe_extend (headProbe root) w

theorem snapshot_run (root : String) (withSha : Bool) (w : World) :
    ∃ v xs m, (snapshot root withSha).run w = (v, w.extend m xs []) ∧
      xs.map Prod.fst = snapshotProbes root withSha := by
  obtain ⟨v, hv⟩ := Package.reads_readVersion root w
  cases withSha
  case false => exact ⟨⟨v, none⟩, [], w.machine, by simp [snapshot, hv], rfl⟩
  case true =>
    obtain ⟨a, m, ha⟩ := readHeadSha_run root w
    refine ⟨⟨v, probeValue a⟩, [(headProbe root, a)], m, ?_, rfl⟩
    simp only [snapshot, StateT.run_bind, hv, ha, id_bind_apply, ↓reduceIte]
    rfl

/-- `r` is the result `conclude` returns for the recorded steps `rs` and the stop `stop`, and
`ax` are the exchanges of its snapshot after the run: none when the run was skipped, whose
snapshot after is the one before. -/
structure Concluded (mode : Mode) (root : String) (rs : List StepResult) (stop : Option Stop)
    (withSha : Bool) (r : RunResult) (ax : List (Command × Answer)) : Prop where
  status_eq : r.status = (outcome stop).1
  reason_eq : r.reason = (outcome stop).2
  mode_eq : r.mode = mode
  root_eq : r.root = root
  steps_eq : r.steps = rs
  skipped : (outcome stop).1 = .skipped → r.after = r.before ∧ ax = []
  probes : (outcome stop).1 ≠ .skipped → ax.map Prod.fst = snapshotProbes root withSha

theorem conclude_run (e : Executor) (mode : Mode) (root : String) (stop : Option Stop)
    (before : Snapshot) (withSha : Bool) (w : World) :
    ∃ r ax m, (conclude e mode root stop before withSha).run w = (r, w.extend m ax []) ∧
      r.before = before ∧ Concluded mode root e.steps stop withSha r ax := by
  by_cases hskip : (outcome stop).1 = .skipped
  · refine ⟨{ status := (outcome stop).1, mode := mode, root := root, reason := (outcome stop).2,
                before := before, after := before, steps := e.steps }, [], w.machine, ?_, rfl,
      ⟨rfl, rfl, rfl, rfl, rfl, fun _ => ⟨rfl, rfl⟩, fun h => absurd hskip h⟩⟩
    simp [conclude, hskip]
  · obtain ⟨after, ax, m, ha, hprobes⟩ := snapshot_run root withSha w
    refine ⟨{ status := (outcome stop).1, mode := mode, root := root, reason := (outcome stop).2,
                before := before, after := after, steps := e.steps }, ax, m, ?_, rfl,
      ⟨rfl, rfl, rfl, rfl, rfl, fun h => absurd h hskip, fun _ => hprobes⟩⟩
    simp [conclude, hskip, ha]

/-- What follows the phase of a switch to a checkout: nothing after a stop, else the global
install of the checkout. -/
inductive Installed (t : Nat) (m : Manager) (gitDir : String) :
    Option Stop → List (Command × Answer) → List StepResult → Option Stop → Prop
  | stopped {s : Stop} : Installed t m gitDir (some s) [] [] (some s)
  | ran {xs rs f} :
      RanAll (argvStep t "global install" (m.globalInstallArgs gitDir) (some gitDir)).toList xs rs f →
      Installed t m gitDir none xs rs (f.map fun n => (.error, n))

theorem installCheckout_run (t : Nat) (e : Executor) (m : Manager) (gitDir : String)
    (stop : Option Stop) (w : World) :
    ∃ xs rs stop' m', (installCheckout t e m gitDir stop).run w =
      ((e.append rs, stop'), w.extend m' xs (StepEvent.ofResults e.started rs)) ∧
      Installed t m gitDir stop xs rs stop' := by
  cases stop with
  | some s => exact ⟨[], [], some s, w.machine, by simp [installCheckout], .stopped⟩
  | none =>
    obtain ⟨xs, rs, f, m', h, hran⟩ := e.runAll_run
      (argvStep t "global install" (m.globalInstallArgs gitDir) (some gitDir)).toList w
    exact ⟨xs, rs, _, m', by simp [installCheckout, h], .ran hran⟩

/-- Every run of `updateGlobally`: the global update, then the doctor when it went through and
the package has its entry file. -/
inductive Updated (t : Nat) (m : Manager) (root spec : String) :
    List (Command × Answer) → List StepResult → Option String → Prop
  | failed {ux us n} : RanAll (argvStep t "global update" (m.globalInstallArgs spec) none).toList
      ux us (some n) → Updated t m root spec ux us (some n)
  | noDoctor {ux us} : RanAll (argvStep t "global update" (m.globalInstallArgs spec) none).toList
      ux us none → Updated t m root spec ux us none
  | doctor {ux us dx ds f} :
      RanAll (argvStep t "global update" (m.globalInstallArgs spec) none).toList ux us none →
      RanAll (argvStep t "openclaw doctor"
        (doctorArgv (Path.join (Path.join root "dist") "entry.js")) none).toList dx ds f →
      Updated t m root spec (ux ++ dx) (us ++ ds) f

theorem updateGlobally_run (t : Nat) (m : Manager) (root spec : String) (w : World) :
    ∃ xs rs f m', (updateGlobally t m root spec).run w =
      ((({} : Executor).append rs, f), w.extend m' xs (StepEvent.ofResults 0 rs)) ∧
      Updated t m root spec xs rs f := by
  obtain ⟨ux, us, f, m₁, hu, hran⟩ := Executor.runAll_run {}
    (argvStep t "global update" (m.globalInstallArgs spec) none).toList w
  obtain ⟨entry, he⟩ := Act.reads_exists (Path.join (Path.join root "dist") "entry.js")
    (w.extend m₁ ux (StepEvent.ofResults 0 us))
  cases f with
  | some n =>
    exact ⟨ux, us, some n, m₁, by simp [updateGlobally, hu, he], .failed hran⟩
  | none =>
    cases entry
    case false => exact ⟨ux, us, none, m₁, by simp [updateGlobally, hu, he], .noDoctor hran⟩
    case true =>
      obtain ⟨dx, ds, f', m₂, hd, hdoc⟩ := (({} : Executor).append us).runAll_run
        (argvStep t "openclaw doctor" (doctorArgv (Path.join (Path.join root "dist") "entry.js"))
          none).toList (w.extend m₁ ux (StepEvent.ofResults 0 us))
      exact ⟨ux ++ dx, us ++ ds, f', m₂, by simp [updateGlobally, hu, he, hd], .doctor hran hdoc⟩

theorem globalPackageRoot_run (m : Manager) (package : String) (w : World) :
    ∃ p xs m', (m.globalPackageRoot package statusTimeoutMs).run w = (p, w.extend m' xs []) ∧
      xs.map Prod.fst = globalRootProbes m := by
  obtain ⟨a, m', ha⟩ := run_extend (globalRootCommand m) w
  cases m
  case bun =>
    have hr : Act.Reads (Manager.bun.globalPackageRoot package statusTimeoutMs) := by
      intro w
      simp only [Manager.globalPackageRoot, Manager.globalRoot, Act.getEnv?, Act.machine,
        StateT.run_bind, StateT.run_get, id_bind_apply]
      split <;> exact ⟨_, rfl⟩
    obtain ⟨p, hp⟩ := hr w
    exact ⟨p, [], w.machine, by simp [hp], rfl⟩
  all_goals
    refine ⟨(probeValue a).map (Path.join · package), [(_, a)], m', ?_, rfl⟩
    simp only [globalRootCommand] at ha
    simp only [Manager.globalPackageRoot, Manager.globalRoot, StateT.run_bind, ha, id_bind_apply]
    cases a <;> rfl

theorem packageRoot_run (m : Manager) (known : Option String) (fallback : String) (w : World) :
    ∃ root xs m', (packageRoot m known fallback).run w = (root, w.extend m' xs []) ∧
      xs.map Prod.fst = (if known.isSome then [] else globalRootProbes m) ∧
      ∀ r, known = some r → root = r := by
  cases known with
  | some r => exact ⟨r, [], w.machine, by simp [packageRoot], rfl, fun _ h => Option.some.inj h⟩
  | none =>
    obtain ⟨p, xs, m', hp, hxs⟩ := globalPackageRoot_run m Version.corePackage w
    cases p with
    | none => exact ⟨fallback, xs, m', by simp [packageRoot, hp], hxs, fun _ h => (Option.some_ne_none _ h.symm).elim⟩
    | some p =>
      obtain ⟨there, ht⟩ := Act.reads_exists p (w.extend m' xs [])
      refine ⟨if there then p else fallback, xs, m', ?_, hxs, fun _ h => (Option.some_ne_none _ h.symm).elim⟩
      cases there <;> simp [packageRoot, hp, ht]

theorem Concluded.exchanges_nil {mode root rs stop r ax} (h : Concluded mode root rs stop false r ax) :
    ax = [] := by
  by_cases hs : (outcome stop).1 = .skipped
  · exact (h.skipped hs).2
  · exact List.map_eq_nil_iff.mp (h.probes hs)

/-- Every run of every plan: its exchanges with the runner and its result. A run of a checkout
takes the snapshot before (`bx`), runs its phase (`px`) and install (`ix`) and takes the
snapshot after (`ax`); a clone replaces the snapshot before by the clone step. -/
inductive Executed (t : Nat) : Plan → List (Command × Answer) → RunResult → Prop
  | git {root ch bx px rs stop r ax} : bx.map Prod.fst = snapshotProbes root true →
      Phased t root ch true px rs stop → Concluded .git root rs stop true r ax →
      Executed t (.git root ch) (bx ++ px ++ ax) r
  | cloneFailed {gitDir url m prev r ax} (a : Answer) :
      (StepResult.ofAnswer (cloneStep t url gitDir) a).succeeded = false →
      Concluded .git gitDir [StepResult.ofAnswer (cloneStep t url gitDir) a]
        (some (.error, "git clone")) true r ax →
      Executed t (.switchToGit gitDir (.clone url) m prev)
        (((cloneStep t url gitDir).command, a) :: ax) r
  | cloned {gitDir url m prev px rs stop ix is stop' r ax} (a : Answer) :
      (StepResult.ofAnswer (cloneStep t url gitDir) a).succeeded = true →
      Phased t gitDir .dev false px rs stop → Installed t m gitDir stop ix is stop' →
      Concluded .git gitDir (StepResult.ofAnswer (cloneStep t url gitDir) a :: (rs ++ is)) stop'
        true r ax →
      Executed t (.switchToGit gitDir (.clone url) m prev)
        (((cloneStep t url gitDir).command, a) :: (px ++ ix ++ ax)) r
  | existing {gitDir m prev bx px rs stop ix is stop' r ax} :
      bx.map Prod.fst = snapshotProbes gitDir true → Phased t gitDir .dev true px rs stop →
      Installed t m gitDir stop ix is stop' → Concluded .git gitDir (rs ++ is) stop' true r ax →
      Executed t (.switchToGit gitDir .existing m prev) (bx ++ px ++ ix ++ ax) r
  | package {root m target ux us f r} (name : String) :
      Updated t m root (name ++ "@" ++ target.tag) ux us f →
      Concluded (.ofManager m) root us (f.map fun n => (.error, n)) false r [] →
      Executed t (.package root m target) ux r
  | switchToPackage {fallback m target root gx ux us f r} (name : String) :
      gx.map Prod.fst = globalRootProbes m →
      Updated t m root (name ++ "@" ++ target.tag) ux us f →
      Concluded (.ofManager m) root us (f.map fun n => (.error, n)) false r [] →
      Executed t (.switchToPackage fallback m target) (gx ++ ux) r
  | unsupported {root r} :
      Concluded .other root [] (some (.skipped, reasonNotGitInstall)) false r [] →
      Executed t (.unsupported root) [] r

theorem runGit_run (t : Nat) (root : String) (ch : Channel) (w : World) :
    ∃ xs r m, (runGit t root ch).run w = (r, w.extend m xs (StepEvent.ofResults 0 r.steps)) ∧
      Executed t (.git root ch) xs r := by
  obtain ⟨before, bx, m₁, hb, hbx⟩ := snapshot_run root true w
  obtain ⟨px, rs, stop, m₂, hp, hph, -⟩ := gitPhase_run t {} root ch true (w.extend m₁ bx [])
  obtain ⟨r, ax, m₃, hc, -, hcon⟩ := conclude_run (({} : Executor).append rs) .git root stop
    before true (w.extend m₂ (bx ++ px) (StepEvent.ofResults 0 rs))
  have hsteps : r.steps = rs := by simpa using hcon.steps_eq
  refine ⟨bx ++ px ++ ax, r, m₃, ?_, .git hbx hph (by simpa using hcon)⟩
  simp [runGit, hb, hp, hc, hsteps]

theorem runSwitchToGit_run (t : Nat) (gitDir : String) (checkout : CheckoutAction) (m : Manager)
    (prev : String) (w : World) :
    ∃ xs r m', (runSwitchToGit t gitDir checkout m prev).run w =
      (r, w.extend m' xs (StepEvent.ofResults 0 r.steps)) ∧
      Executed t (.switchToGit gitDir checkout m prev) xs r := by
  obtain ⟨v, hv⟩ := Package.reads_readVersion prev w
  cases checkout with
  | existing =>
    obtain ⟨a, m₁, ha⟩ := readHeadSha_run gitDir w
    obtain ⟨px, rs, stop, m₂, hp, hph, -⟩ :=
      gitPhase_run t {} gitDir .dev true (w.extend m₁ [(headProbe gitDir, a)] [])
    obtain ⟨ix, is, stop', m₃, hi, hins⟩ := installCheckout_run t (({} : Executor).append rs) m
      gitDir stop (w.extend m₂ ((headProbe gitDir, a) :: px) (StepEvent.ofResults 0 rs))
    obtain ⟨r, ax, m₄, hc, -, hcon⟩ := conclude_run (({} : Executor).append (rs ++ is)) .git
      gitDir stop' ⟨v, probeValue a⟩ true
      (w.extend m₃ ((headProbe gitDir, a) :: (px ++ ix)) (StepEvent.ofResults 0 (rs ++ is)))
    have hsteps : r.steps = rs ++ is := by simpa using hcon.steps_eq
    refine ⟨[(headProbe gitDir, a)] ++ px ++ ix ++ ax, r, m₄, ?_,
      .existing rfl hph hins (by simpa using hcon)⟩
    simp [runSwitchToGit, hv, ha, hp, hi, hc, hsteps]
  | clone url =>
    obtain ⟨a, m₁, ha⟩ := Executor.runStep_run {} (cloneStep t url gitDir) w
    cases hok : (StepResult.ofAnswer (cloneStep t url gitDir) a).succeeded
    case false =>
      obtain ⟨r, ax, m₂, hc, -, hcon⟩ := conclude_run
        (({} : Executor).append [StepResult.ofAnswer (cloneStep t url gitDir) a]) .git gitDir
        (some (.error, "git clone")) ⟨v, none⟩ true
        (w.extend m₁ [((cloneStep t url gitDir).command, a)]
          (StepEvent.ofResults 0 [StepResult.ofAnswer (cloneStep t url gitDir) a]))
      have hsteps : r.steps = [StepResult.ofAnswer (cloneStep t url gitDir) a] := by
        simpa using hcon.steps_eq
      refine ⟨((cloneStep t url gitDir).command, a) :: ax, r, m₂, ?_,
        .cloneFailed a hok (by simpa using hcon)⟩
      simp [runSwitchToGit, hv, ha, hok, hc, hsteps]
    case true =>
      obtain ⟨px, rs, stop, m₂, hp, hph, -⟩ := gitPhase_run t
        (({} : Executor).append [StepResult.ofAnswer (cloneStep t url gitDir) a]) gitDir .dev false
        (w.extend m₁ [((cloneStep t url gitDir).command, a)]
          (StepEvent.ofResults 0 [StepResult.ofAnswer (cloneStep t url gitDir) a]))
      obtain ⟨ix, is, stop', m₃, hi, hins⟩ := installCheckout_run t
        (({} : Executor).append (StepResult.ofAnswer (cloneStep t url gitDir) a :: rs)) m gitDir stop
        (w.extend m₂ (((cloneStep t url gitDir).command, a) :: px)
          (StepEvent.ofResults 0 (StepResult.ofAnswer (cloneStep t url gitDir) a :: rs)))
      obtain ⟨r, ax, m₄, hc, -, hcon⟩ := conclude_run
        (({} : Executor).append (StepResult.ofAnswer (cloneStep t url gitDir) a :: (rs ++ is))) .git
        gitDir stop' ⟨v, none⟩ true
        (w.extend m₃ (((cloneStep t url gitDir).command, a) :: (px ++ ix))
          (StepEvent.ofResults 0 (StepResult.ofAnswer (cloneStep t url gitDir) a :: (rs ++ is))))
      have hsteps : r.steps = StepResult.ofAnswer (cloneStep t url gitDir) a :: (rs ++ is) := by
        simpa using hcon.steps_eq
      refine ⟨((cloneStep t url gitDir).command, a) :: (px ++ ix ++ ax), r, m₄, ?_,
        .cloned a hok hph hins (by simpa using hcon)⟩
      simp [runSwitchToGit, hv, ha, hok, hp, hi, hc, hsteps]

theorem runPackage_run (t : Nat) (known : Option String) (fallback : String) (m : Manager)
    (target : VersionTarget) (w : World) :
    ∃ gx ux root r m', (runPackage t known fallback m target).run w =
      (r, w.extend m' (gx ++ ux) (StepEvent.ofResults 0 r.steps)) ∧
      gx.map Prod.fst = (if known.isSome then [] else globalRootProbes m) ∧
      (∀ k, known = some k → root = k) ∧
      ∃ w₁, (packageRoot m known fallback).run w = (root, w₁) ∧
      ∃ us f, Updated t m root
          ((((Package.readName root).run w₁).1.getD Version.corePackage) ++ "@" ++ target.tag)
          ux us f ∧
        Concluded (.ofManager m) root us (f.map fun n => (.error, n)) false r [] := by
  obtain ⟨root, gx, m₁, hr, hgx, hknown⟩ := packageRoot_run m known fallback w
  obtain ⟨name, hn⟩ := Package.reads_readName root (w.extend m₁ gx [])
  obtain ⟨before, bx, m₂, hb, hbx⟩ := snapshot_run root false (w.extend m₁ gx [])
  obtain rfl : bx = [] := List.map_eq_nil_iff.mp hbx
  obtain ⟨ux, us, f, m₃, hu, hup⟩ := updateGlobally_run t m root
    (name.getD Version.corePackage ++ "@" ++ target.tag) (w.extend m₂ gx [])
  obtain ⟨r, ax, m₄, hc, -, hcon⟩ := conclude_run (({} : Executor).append us) (.ofManager m) root
    (f.map fun n => (.error, n)) before false (w.extend m₃ (gx ++ ux) (StepEvent.ofResults 0 us))
  obtain rfl := hcon.exchanges_nil
  have hsteps : r.steps = us := by simpa using hcon.steps_eq
  refine ⟨gx, ux, root, r, m₄, ?_, hgx, hknown, _, hr, us, f, by rw [hn]; exact hup,
    by simpa using hcon⟩
  simp [runPackage, hr, hn, hb, hu, hc, hsteps]

theorem execute_run (t : Nat) (plan : Plan) (w : World) :
    ∃ xs r m, (execute t plan).run w = (r, w.extend m xs (StepEvent.ofResults 0 r.steps)) ∧
      Executed t plan xs r := by
  cases plan with
  | git root ch => exact runGit_run t root ch w
  | switchToGit gitDir checkout m prev => exact runSwitchToGit_run t gitDir checkout m prev w
  | package root m target =>
    obtain ⟨gx, ux, root', r, m', h, hgx, hknown, _, -, us, f, hup, hcon⟩ :=
      runPackage_run t (some root) root m target w
    obtain rfl : gx = [] := by simpa using hgx
    obtain rfl := hknown root rfl
    exact ⟨ux, r, m', by simpa [execute] using h, .package _ hup hcon⟩
  | switchToPackage root m target =>
    obtain ⟨gx, ux, root', r, m', h, hgx, -, _, -, us, f, hup, hcon⟩ :=
      runPackage_run t none root m target w
    exact ⟨gx ++ ux, r, m', by simpa [execute] using h, .switchToPackage _ (by simpa using hgx) hup hcon⟩
  | unsupported root =>
    obtain ⟨before, bx, m₁, hb, hbx⟩ := snapshot_run root false w
    obtain rfl : bx = [] := List.map_eq_nil_iff.mp hbx
    obtain ⟨r, ax, m₂, hc, -, hcon⟩ := conclude_run {} .other root
      (some (.skipped, reasonNotGitInstall)) before false (w.extend m₁ [] [])
    obtain rfl := hcon.exchanges_nil
    have hsteps : r.steps = [] := hcon.steps_eq
    exact ⟨[], r, m₂, by simp [execute, hb, hc, hsteps], .unsupported hcon⟩

end Updater.Pipeline
