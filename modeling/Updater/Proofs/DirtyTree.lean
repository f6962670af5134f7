import Mathlib.Data.List.TakeWhile
import Updater.Proofs.Runs

/-! When a run leaves a checkout alone because its tree has local changes. The clean check is
judged on its output as its step result keeps it, the last `maxLogChars` characters: the run is
skipped as dirty exactly when those hold a character that is not blank, and then it asks the
runner nothing after the clean check, records nothing and keeps its snapshot. A change followed
by `maxLogChars` blank characters or more is not seen. -/

namespace Updater

namespace Text

theorem trimChars_eq_nil_iff (cs : List Char) : trimChars cs = [] ↔ ∀ c ∈ cs, isBlank c = true := by
  rw [← List.dropWhile_eq_nil_iff]
  constructor
  · intro h
    have hblank : ∀ c ∈ dropBlank cs, isBlank c = true := by
      rw [trimChars, List.reverse_eq_nil_iff, List.dropWhile_eq_nil_iff] at h
      exact fun c hc => h c (List.mem_reverse.mpr hc)
    -- the first character left after the leading blanks is not blank, yet trimming drops it
    cases hd : dropBlank cs with
    | nil => exact hd
    | cons c rest =>
      have hne : cs.dropWhile isBlank ≠ [] := by
        rw [← dropBlank, hd]
        exact List.cons_ne_nil c rest
      have hhead := List.head_dropWhile_not isBlank hne
      rw [hblank _ (List.head_mem hne)] at hhead
      exact absurd hhead (by decide)
  · intro h
    rw [trimChars, dropBlank, h]
    rfl

theorem trim_eq_empty_iff (s : String) : trim s = "" ↔ ∀ c ∈ s.toList, isBlank c = true := by
  rw [trim, String.ofList_eq_empty_iff, trimChars_eq_nil_iff]

end Text

/-- The answer shows local changes: the command ran and exited 0, and the last `maxLogChars`
characters of its output, the part a step result keeps, hold one that is not blank. -/
def Answer.ShowsChanges (a : Answer) : Prop :=
  ∃ o, a = .ok o ∧ o.code = some 0 ∧
    ∃ c ∈ o.stdout.toList.drop (o.stdout.toList.length - maxLogChars), Text.isBlank c = false

namespace Pipeline

theorem trimLogTail_shows_iff (text : String) (max : Nat) :
    ((trimLogTail text max).map fun o => !(Text.trim o).isEmpty).getD false = true ↔
      ∃ c ∈ text.toList.drop (text.toList.length - max), Text.isBlank c = false := by
  by_cases hempty : text.isEmpty = true
  · have hnil : text.toList = [] := String.toList_eq_nil_iff.mpr (String.isEmpty_iff.mp hempty)
    simp [trimLogTail, hempty, hnil]
  · simp [trimLogTail, hempty, Text.trim_eq_empty_iff]

theorem showsChanges_ofAnswer_iff (s : Step) (a : Answer) :
    showsChanges (StepResult.ofAnswer s a) = true ↔ a.ShowsChanges := by
  cases a with
  | error f =>
    simp [showsChanges, StepResult.ofAnswer, StepResult.ofOutput, StepResult.succeeded,
      Answer.ShowsChanges]
  | ok o =>
    by_cases hcode : o.code = some 0
    case neg =>
      simp [showsChanges, StepResult.ofAnswer, StepResult.ofOutput, StepResult.succeeded,
        Answer.ShowsChanges, hcode]
    have hsucc : (StepResult.ofAnswer s (.ok o)).succeeded = true := by
      simp [StepResult.ofAnswer, StepResult.ofOutput, StepResult.succeeded, hcode]
    have htail : (StepResult.ofAnswer s (.ok o)).stdoutTail = trimLogTail o.stdout maxLogChars := rfl
    rw [showsChanges, hsucc, Bool.true_and, htail, trimLogTail_shows_iff]
    simp [Answer.ShowsChanges, hcode]

theorem not_showsChanges {s : Step} {a : Answer} (h : showsChanges (StepResult.ofAnswer s a) = false) :
    ¬ a.ShowsChanges := by
  rw [← showsChanges_ofAnswer_iff s, h]
  exact Bool.false_ne_true

theorem dirtyVerdict_of_clean {a : Answer} {stop : Option Stop} {p : Prop}
    (hns : ¬ a.ShowsChanges) (hstop : stop ≠ some (.skipped, reasonDirty)) :
    (stop = some (.skipped, reasonDirty) ↔ a.ShowsChanges) ∧ (a.ShowsChanges → p) :=
  ⟨iff_of_false hstop hns, fun h => absurd h hns⟩

theorem Synced.head {t root ch xs rs stop} (h : Synced t root ch xs rs stop) :
    ∃ a ys, xs = ((cleanCheck t root).command, a) :: ys := by
  cases h <;> exact ⟨_, _, rfl⟩

theorem Synced.dirty_iff {t root ch xs rs stop} {a : Answer} (h : Synced t root ch xs rs stop)
    (hx : xs.head? = some ((cleanCheck t root).command, a)) :
    (stop = some (.skipped, reasonDirty) ↔ a.ShowsChanges) ∧
      (a.ShowsChanges → xs = [((cleanCheck t root).command, a)] ∧ rs = []) := by
  obtain ⟨a', ys, rfl⟩ := h.head
  obtain rfl : a' = a := by simpa using hx
  -- every other way to stop comes after a clean check that showed no changes
  cases h with
  | dirty hd => exact ⟨iff_of_true rfl ((showsChanges_ofAnswer_iff _ _).mp hd), fun _ => ⟨rfl, rfl⟩⟩
  | cleanFailed hd _ => exact dirtyVerdict_of_clean (not_showsChanges hd) (by simp)
  | noUpstream hc _ =>
    exact dirtyVerdict_of_clean (not_showsChanges hc.2) (by simp [reasonNoUpstream, reasonDirty])
  | rebased hc _ _ => exact dirtyVerdict_of_clean (not_showsChanges hc.2) (by simp)
  | fetchFailed _ hc _ => exact dirtyVerdict_of_clean (not_showsChanges hc.2) (by simp)
  | listFailed _ hc _ _ => exact dirtyVerdict_of_clean (not_showsChanges hc.2) (by simp)
  | noReleaseTag _ hc _ _ _ =>
    exact dirtyVerdict_of_clean (not_showsChanges hc.2) (by simp [reasonNoReleaseTag, reasonDirty])
  | checkedOut _ _ hc _ _ _ =>
    exact dirtyVerdict_of_clean (not_showsChanges hc.2) (by split <;> simp)

theorem Phased.dirty_iff {t root ch xs rs stop} {a : Answer} (h : Phased t root ch true xs rs stop)
    (hx : xs.head? = some ((cleanCheck t root).command, a)) :
    (stop = some (.skipped, reasonDirty) ↔ a.ShowsChanges) ∧
      (a.ShowsChanges → xs = [((cleanCheck t root).command, a)] ∧ rs = []) := by
  cases h with
  | stopped hs => exact hs.dirty_iff hx
  | built _ _ hs _ =>
    -- the synchronisation went through, so its clean check showed no changes
    obtain ⟨a', ys, rfl⟩ := hs.head
    have hx' : (((cleanCheck t root).command, a') :: ys).head? =
        some ((cleanCheck t root).command, a) := by
      simpa using hx
    have hns : ¬ a.ShowsChanges := fun hsh => by simpa using (hs.dirty_iff hx').1.mpr hsh
    exact dirtyVerdict_of_clean hns (by simp)

theorem Installed.of_stopped {t m gitDir s ix is stop'} (h : Installed t m gitDir (some s) ix is stop') :
    ix = [] ∧ is = [] ∧ stop' = some s := by
  cases h
  exact ⟨rfl, rfl, rfl⟩

theorem Installed.skipped_iff {t m gitDir stop ix is stop'} (h : Installed t m gitDir stop ix is stop')
    (n : String) : stop' = some (.skipped, n) ↔ stop = some (.skipped, n) := by
  cases h with
  | stopped => rfl
  | ran _ => simp

theorem outcome_skipped_iff (stop : Option Stop) (n : String) :
    ((outcome stop).1 = .skipped ∧ (outcome stop).2 = some n) ↔ stop = some (.skipped, n) := by
  rcases stop with _ | ⟨s, r⟩ <;> simp [outcome]

theorem Concluded.skipped_iff {mode root rs stop withSha r ax}
    (h : Concluded mode root rs stop withSha r ax) (n : String) :
    (r.status = .skipped ∧ r.reason = some n) ↔ stop = some (.skipped, n) := by
  rw [h.status_eq, h.reason_eq, outcome_skipped_iff]

/-- How a run of `plan` from `w` meets local changes in the checkout `root`. It asks first for
the head commit, then runs the clean check, which the runner of `w` answers `a`. The run is
skipped as dirty exactly when `a` shows changes, and then it asks the runner nothing more,
shows the observer nothing, records no step and keeps its snapshot. -/
def DirtyVerdict (t : Nat) (plan : Plan) (root : String) (w : World) : Prop :=
  ∃ h a xs evs r m, (execute t plan).run w =
      (r, w.extend m ((headProbe root, h) :: ((cleanCheck t root).command, a) :: xs) evs) ∧
    (∃ w₁ : World, w₁.runner = w.runner ∧ ((run (cleanCheck t root).command).run w₁).1 = a) ∧
    ((r.status = .skipped ∧ r.reason = some reasonDirty) ↔ a.ShowsChanges) ∧
    (a.ShowsChanges → xs = [] ∧ evs = [] ∧ r.steps = [] ∧ r.after = r.before)

theorem runGit_dirtyVerdict (t : Nat) (root : String) (ch : Channel) (w : World) :
    DirtyVerdict t (.git root ch) root w := by
  obtain ⟨v, hv⟩ := Package.reads_readVersion root w
  obtain ⟨h, m₁, hh⟩ := readHeadSha_run root w
  obtain ⟨px, rs, stop, m₂, hp, hph, hfirst⟩ :=
    gitPhase_run t {} root ch true (w.extend m₁ [(headProbe root, h)] [])
  generalize hA : ((run (cleanCheck t root).command).run
    (w.extend m₁ [(headProbe root, h)] [])).1 = a at hfirst
  obtain ⟨ys, rfl⟩ := List.head?_eq_some_iff.mp (hfirst rfl)
  obtain ⟨r, ax, m₃, hc, -, hcon⟩ := conclude_run (({} : Executor).append rs) .git root stop
    ⟨v, probeValue h⟩ true
    (w.extend m₂ ((headProbe root, h) :: ((cleanCheck t root).command, a) :: ys)
      (StepEvent.ofResults 0 rs))
  have hd := hph.dirty_iff (hfirst rfl)
  have hsteps : r.steps = rs := by simpa using hcon.steps_eq
  refine ⟨h, a, ys ++ ax, StepEvent.ofResults 0 rs, r, m₃, ?_,
    ⟨w.extend m₁ [(headProbe root, h)] [], rfl, hA⟩, ?_, fun hs => ?_⟩
  · simp [execute, runGit, snapshot, hv, hh, hp, hc]
  · rw [hcon.skipped_iff]
    exact hd.1
  · obtain ⟨hys, rfl⟩ := hd.2 hs
    have hskip := hcon.skipped (by rw [hd.1.mpr hs]; rfl)
    obtain rfl : ys = [] := by simpa using hys
    exact ⟨by rw [hskip.2]; rfl, rfl, hsteps, hskip.1⟩

theorem runSwitchToGit_dirtyVerdict (t : Nat) (root : String) (m : Manager) (prev : String)
    (w : World) : DirtyVerdict t (.switchToGit root .existing m prev) root w := by
  obtain ⟨v, hv⟩ := Package.reads_readVersion prev w
  obtain ⟨h, m₁, hh⟩ := readHeadSha_run root w
  obtain ⟨px, rs, stop, m₂, hp, hph, hfirst⟩ :=
    gitPhase_run t {} root .dev true (w.extend m₁ [(headProbe root, h)] [])
  generalize hA : ((run (cleanCheck t root).command).run
    (w.extend m₁ [(headProbe root, h)] [])).1 = a at hfirst
  obtain ⟨ys, rfl⟩ := List.head?_eq_some_iff.mp (hfirst rfl)
  obtain ⟨ix, is, stop', m₃, hi, hins⟩ := installCheckout_run t (({} : Executor).append rs) m root
    stop (w.extend m₂ ((headProbe root, h) :: ((cleanCheck t root).command, a) :: ys)
      (StepEvent.ofResults 0 rs))
  obtain ⟨r, ax, m₄, hc, -, hcon⟩ := conclude_run (({} : Executor).append (rs ++ is)) .git root
    stop' ⟨v, probeValue h⟩ true
    (w.extend m₃ ((headProbe root, h) :: ((cleanCheck t root).command, a) :: (ys ++ ix))
      (StepEvent.ofResults 0 (rs ++ is)))
  have hd := hph.dirty_iff (hfirst rfl)
  have hsteps : r.steps = rs ++ is := by simpa using hcon.steps_eq
  refine ⟨h, a, ys ++ ix ++ ax, StepEvent.ofResults 0 (rs ++ is), r, m₄, ?_,
    ⟨w.extend m₁ [(headProbe root, h)] [], rfl, hA⟩, ?_, fun hs => ?_⟩
  · simp [execute, runSwitchToGit, hv, hh, hp, hi, hc]
  · rw [hcon.skipped_iff, hins.skipped_iff]
    exact hd.1
  · -- a dirty tree stops the phase, so nothing is installed and the snapshot is kept
    obtain ⟨hys, rfl⟩ := hd.2 hs
    obtain rfl := hd.1.mpr hs
    obtain ⟨rfl, rfl, rfl⟩ := hins.of_stopped
    have hskip := hcon.skipped rfl
    obtain rfl : ys = [] := by simpa using hys
    exact ⟨by rw [hskip.2]; rfl, rfl, by simpa using hsteps, hskip.1⟩

/-- Whatever the runner answers, a run that synchronises a checkout, of a git install or of a
switch to an existing checkout, is skipped as dirty exactly when the clean check's answer shows
changes in the part of its output a step result keeps, and then it did nothing else. -/
theorem dirtyTree_skipped_iff (t : Nat) (root : String) (ch : Channel) (m : Manager)
    (prev : String) (w : World) :
    DirtyVerdict t (.git root ch) root w ∧ DirtyVerdict t (.switchToGit root .existing m prev) root w :=
  ⟨runGit_dirtyVerdict t root ch w, runSwitchToGit_dirtyVerdict t root m prev w⟩

theorem not_showsChanges_blank_tail (p : String) (o : Output)
    (h : o.stdout = p ++ String.ofList (List.replicate maxLogChars ' ')) :
    ¬ Answer.ShowsChanges (.ok o) := by
  rintro ⟨o', ho, -, c, hc, hblank⟩
  cases ho
  rw [h, String.toList_append, String.toList_ofList, List.length_append, List.length_replicate,
    Nat.add_sub_cancel, List.drop_left] at hc
  rw [List.eq_of_mem_replicate hc] at hblank
  exact absurd hblank (by decide)

def answeringWorld (o : Output) : World :=
  { runner := .scripted [{ pattern := "", reply := .output o }] }

theorem run_answering {o : Output} {w : World}
    (h : w.runner = .scripted [{ pattern := "", reply := .output o }]) (c : Command) :
    ((run c).run w).1 = .ok o := by
  simp [run, askRunner, Act.logCall, Act.logExchange, h, answerFromScript, Rule.select?, occursIn]

def changeBeforeBlankTail : Output :=
  { stdout := " M src/index.ts\n" ++ String.ofList (List.replicate maxLogChars ' ') }

/-- The clean check reports a change, yet a git run on `dev` is not skipped as dirty. -/
theorem change_before_blank_tail_not_dirty :
    (∃ c ∈ changeBeforeBlankTail.stdout.toList, Text.isBlank c = false) ∧
      ¬ (((execute defaultStepTimeoutMs (.git "/w/checkout" .dev)).run
            (answeringWorld changeBeforeBlankTail)).1.status = .skipped ∧
          ((execute defaultStepTimeoutMs (.git "/w/checkout" .dev)).run
            (answeringWorld changeBeforeBlankTail)).1.reason = some reasonDirty) := by
  have hstdout : changeBeforeBlankTail.stdout =
      " M src/index.ts\n" ++ String.ofList (List.replicate maxLogChars ' ') := rfl
  refine ⟨⟨'M', ?_, by decide⟩, ?_⟩
  · rw [hstdout, String.toList_append]
    exact List.mem_append_left _ (by decide)
  obtain ⟨_, a, _, _, r, _, hrun, ⟨w₁, hrunner, ha⟩, hiff, -⟩ :=
    runGit_dirtyVerdict defaultStepTimeoutMs "/w/checkout" .dev (answeringWorld changeBeforeBlankTail)
  rw [← ha, run_answering hrunner] at hiff
  rw [hrun]
  exact fun hdirty => not_showsChanges_blank_tail _ _ hstdout (hiff.mp hdirty)

end Pipeline

end Updater
