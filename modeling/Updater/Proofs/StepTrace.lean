import Mathlib
import Updater.Proofs.WellFormed

/-! What a run's recorded steps say about it. Their names follow the plan's canonical sequence
up to where the run stopped (`Canonical`, `Named`): the stop, a failed step or a skip, gives the
run's status and reason, every step before the last went through, and a run that ended `ok`
named the whole sequence. They are the commands the run sent the runner, in
order and under the step timeout, with only the exchanges that record nothing between them
(`Transcript`); a tag listing is recorded only when it failed, and a checkout checks out the
newest release tag of the full listing. -/

namespace Updater

def Plan.root : Plan → String
  | .git root _ | .package root _ _ | .switchToPackage root _ _ | .unsupported root => root
  | .switchToGit gitDir _ _ _ => gitDir

namespace Pipeline

@[simp] theorem step_name (t : Nat) (n : String) (c : Command) : (step t n c).name = n := rfl

@[simp] theorem step_timeout (t : Nat) (n : String) (c : Command) :
    (step t n c).command.timeoutMs = some t := rfl

def buildNames (ui : Bool) : List String :=
  ["deps install", "build"] ++ (if ui then ["ui:build"] else []) ++ ["openclaw doctor"]

def syncNames : Channel → List String
  | .dev => ["clean check", "upstream check", "git fetch", "git rebase"]
  | _ => ["clean check", "git fetch", "git checkout"]

def listFailedNames : List String := ["clean check", "git fetch", "git tag list"]

def updateNames (doctor : Bool) : List String :=
  "global update" :: (if doctor then ["openclaw doctor"] else [])

inductive Canonical : Plan → List String → Prop
  | git {root : String} {ch : Channel} (ui : Bool) :
      Canonical (.git root ch) (syncNames ch ++ buildNames ui)
  | listFailed {root : String} {ch : Channel} : ch ≠ .dev →
      Canonical (.git root ch) listFailedNames
  | clone {gitDir url : String} {m : Manager} {prev : String} (ui : Bool) :
      Canonical (.switchToGit gitDir (.clone url) m prev)
        ("git clone" :: (buildNames ui ++ ["global install"]))
  | existing {gitDir : String} {m : Manager} {prev : String} (ui : Bool) :
      Canonical (.switchToGit gitDir .existing m prev)
        (syncNames .dev ++ buildNames ui ++ ["global install"])
  | package {root : String} {m : Manager} {target : VersionTarget} (doctor : Bool) :
      Canonical (.package root m target) (updateNames doctor)
  | switchToPackage {root : String} {m : Manager} {target : VersionTarget} (doctor : Bool) :
      Canonical (.switchToPackage root m target) (updateNames doctor)
  | unsupported {root : String} : Canonical (.unsupported root) []

theorem syncNames_of_ne_dev {ch : Channel} (h : ch ≠ .dev) :
    syncNames ch = ["clean check", "git fetch", "git checkout"] := by
  cases ch <;> simp_all [syncNames]

theorem buildStepsFor_names (t : Nat) (root : String) (m : Manager) (ui : Bool) :
    (buildStepsFor t root m ui).map (·.name) = buildNames ui := by
  cases ui <;> simp [buildStepsFor, buildNames, argvStep, Command.ofArgv?, Manager.installDepsArgs,
    Manager.runScriptArgs, doctorArgv]

theorem globalInstall_names (t : Nat) (n : String) (m : Manager) (spec : String)
    (cwd : Option String) :
    (argvStep t n (m.globalInstallArgs spec) cwd).toList.map (·.name) = [n] := by
  cases m <;> simp [argvStep, Manager.globalInstallArgs, Command.ofArgv?]

structure Named (rs : List StepResult) (full : List String) (stop : Option Stop) : Prop where
  isPrefix : rs.map (·.name) <+: full
  whole : stop = none → rs.map (·.name) = full

namespace Named

variable {rs rs' : List StepResult} {full full' : List String} {stop : Option Stop}

theorem of_eq (h : rs.map (·.name) = full) : Named rs full stop :=
  ⟨h ▸ List.prefix_refl _, fun _ => h⟩

theorem of_stopped {s : Stop} (h : rs.map (·.name) <+: full) : Named rs full (some s) :=
  ⟨h, fun h => by cases h⟩

theorem extend {s : Stop} (h : Named rs full (some s)) (more : List String) :
    Named rs (full ++ more) (some s) :=
  .of_stopped (h.isPrefix.trans (List.prefix_append _ _))

theorem append (h : Named rs full none) (h' : Named rs' full' stop) :
    Named (rs ++ rs') (full ++ full') stop := by
  have hw := h.whole rfl
  refine ⟨?_, fun hs => ?_⟩
  · rw [List.map_append, hw]
    exact (List.prefix_append_right_inj full).mpr h'.isPrefix
  · rw [List.map_append, hw, h'.whole hs]

theorem mem (h : Named rs full stop) {s : StepResult} (hs : s ∈ rs) : s.name ∈ full :=
  h.isPrefix.subset (List.mem_map_of_mem hs)

theorem cons (h : Named rs full stop) (s : StepResult) : Named (s :: rs) (s.name :: full) stop :=
  ⟨by simpa using h.isPrefix, fun hs => by simp [h.whole hs]⟩

theorem whole_of_reason {r : RunResult} (h : Named r.steps full stop)
    (hreason : r.reason = (outcome stop).2) (hnone : r.reason = none) : r.steps.map (·.name) = full := by
  apply h.whole
  rw [hreason] at hnone
  cases stop with
  | none => rfl
  | some s => simp [outcome] at hnone

end Named

end Pipeline

theorem RanAll.named {ss xs rs f} (h : RanAll ss xs rs f) :
    Pipeline.Named rs (ss.map (·.name)) (f.map fun n => (.error, n)) := by
  induction h with
  | nil => exact .of_eq rfl
  | failed s a rest _ => exact .of_stopped (by simp)
  | next s a _ _ ih => exact ⟨by simpa using ih.isPrefix, fun h => by simpa using ih.whole h⟩

namespace Pipeline

theorem Synced.named {t root ch xs rs stop} (h : Synced t root ch xs rs stop) :
    Named rs (syncNames ch) stop ∨
      (ch ≠ .dev ∧ rs.map (·.name) = listFailedNames ∧ stop = some (.error, "git tag list")) := by
  cases h with
  | dirty _ => exact .inl (.of_stopped List.nil_prefix)
  | cleanFailed _ _ => exact .inl (.of_stopped (by cases ch <;> simp [cleanCheck, syncNames]))
  | noUpstream _ _ => exact .inl (.of_stopped (by simp [cleanCheck, upstreamCheck, syncNames]))
  | @rebased a b _ _ _ _ _ hran =>
    have h₁ : Named [StepResult.ofAnswer (cleanCheck t root) a,
        StepResult.ofAnswer (upstreamCheck t root) b] ["clean check", "upstream check"] none :=
      .of_eq (by simp [cleanCheck, upstreamCheck])
    exact .inl (h₁.append hran.named)
  | fetchFailed hch _ _ =>
    exact .inl (.of_stopped (by simp [syncNames_of_ne_dev hch, cleanCheck, fetchStep]))
  | listFailed hch _ _ _ =>
    exact .inr ⟨hch, by simp [listFailedNames, cleanCheck, fetchStep, tagList], rfl⟩
  | noReleaseTag hch _ _ _ _ =>
    exact .inl (.of_stopped (by simp [syncNames_of_ne_dev hch, cleanCheck, fetchStep]))
  | checkedOut _ hch _ _ _ _ =>
    exact .inl (.of_eq (by simp [syncNames_of_ne_dev hch, cleanCheck, fetchStep, checkoutStep]))

theorem Phased.named {t root ch xs rs stop} (h : Phased t root ch true xs rs stop) :
    ∃ ui, Named rs (syncNames ch ++ buildNames ui) stop ∨
      (ch ≠ .dev ∧ rs.map (·.name) = listFailedNames ∧ stop = some (.error, "git tag list")) := by
  cases h with
  | stopped hs => exact ⟨false, hs.named.imp (fun h => h.extend _) id⟩
  | built _ ui hs hran =>
    have hsync : Named _ (syncNames ch) none := hs.named.resolve_right (by simp)
    exact ⟨ui, .inl (hsync.append (buildStepsFor_names t root _ ui ▸ hran.named))⟩

theorem Phased.named_unsynced {t root ch xs rs stop} (h : Phased t root ch false xs rs stop) :
    ∃ ui, Named rs (buildNames ui) stop := by
  cases h with
  | unsynced _ ui hran => exact ⟨ui, buildStepsFor_names t root _ ui ▸ hran.named⟩

theorem Installed.named {t m gitDir stop ix is stop' rs full} (h : Installed t m gitDir stop ix is stop')
    (hn : Named rs full stop) : Named (rs ++ is) (full ++ ["global install"]) stop' := by
  cases h with
  | stopped => simpa using hn.extend ["global install"]
  | ran hran => exact hn.append (globalInstall_names t _ m gitDir _ ▸ hran.named)

theorem Updated.named {t m root spec xs rs f} (h : Updated t m root spec xs rs f) :
    ∃ doctor, Named rs (updateNames doctor) (f.map fun n => (.error, n)) := by
  cases h with
  | failed hran =>
    have hn := hran.named
    rw [globalInstall_names] at hn
    exact ⟨false, hn⟩
  | noDoctor hran =>
    have hn := hran.named
    rw [globalInstall_names] at hn
    exact ⟨false, hn⟩
  | doctor hu hd =>
    have hn := hu.named
    have hd' := hd.named
    rw [globalInstall_names] at hn
    simp only [argvStep, doctorArgv, Command.ofArgv?, Option.map_some, Option.toList_some,
      List.map_cons, List.map_nil, step_name] at hd'
    exact ⟨true, hn.append hd'⟩

/-- The exchanges of a run that record no step: a snapshot's head probe, a clean check that found
local changes, a tag listing that succeeded, and asking a manager for its global root. -/
inductive Probe (t : Nat) (root : String) : Command × Answer → Prop
  | head (a : Answer) : Probe t root (headProbe root, a)
  | dirty (a : Answer) : showsChanges (StepResult.ofAnswer (cleanCheck t root) a) = true →
      Probe t root ((cleanCheck t root).command, a)
  | listed (l : Answer) : (StepResult.ofAnswer (tagList t root) l).succeeded = true →
      Probe t root ((tagList t root).command, l)
  | globalRoot (m : Manager) (a : Answer) : Probe t root (globalRootCommand m, a)

/-- The exchanges `xs` with the runner are the recorded steps `rs`, each the result of its own
command issued under the step timeout `t`, in order, with probes between them. -/
inductive Transcript (t : Nat) (root : String) : List (Command × Answer) → List StepResult → Prop
  | nil : Transcript t root [] []
  | step {xs rs} (s : Step) (a : Answer) : s.command.timeoutMs = some t →
      Transcript t root xs rs → Transcript t root ((s.command, a) :: xs) (StepResult.ofAnswer s a :: rs)
  | probe {x xs rs} : Probe t root x → Transcript t root xs rs → Transcript t root (x :: xs) rs

namespace Transcript

variable {t : Nat} {root : String}

theorem append {xs ys rs qs} (h : Transcript t root xs rs) (h' : Transcript t root ys qs) :
    Transcript t root (xs ++ ys) (rs ++ qs) := by
  induction h with
  | nil => exact h'
  | step s a ht _ ih => exact .step s a ht ih
  | probe hp _ ih => exact .probe hp ih

theorem probes {xs} (h : ∀ x ∈ xs, Probe t root x) : Transcript t root xs [] := by
  induction xs with
  | nil => exact .nil
  | cons x xs ih => exact .probe (h x (by simp)) (ih fun y hy => h y (by simp [hy]))

theorem commands_sublist {xs rs} (h : Transcript t root xs rs) :
    List.Sublist (rs.map (·.command)) (xs.map (·.1.line)) := by
  induction h with
  | nil => exact .slnil
  | step s a _ _ ih => simpa using ih.cons_cons s.command.line
  | probe _ _ ih => exact ih.cons _

end Transcript

theorem Probe.of_snapshot {t root withSha} {bx : List (Command × Answer)}
    (h : bx.map Prod.fst = snapshotProbes root withSha) : Transcript t root bx [] := by
  refine .probes fun ⟨c, a⟩ hx => ?_
  have hc : c ∈ bx.map Prod.fst := List.mem_map_of_mem hx
  rw [h] at hc
  cases withSha <;> simp only [snapshotProbes, Bool.false_eq_true, ↓reduceIte, List.not_mem_nil,
    List.mem_singleton] at hc
  subst hc
  exact .head a

theorem Probe.of_globalRoot {t root m} {gx : List (Command × Answer)}
    (h : gx.map Prod.fst = globalRootProbes m) : Transcript t root gx [] := by
  refine .probes fun ⟨c, a⟩ hx => ?_
  have hc : c ∈ gx.map Prod.fst := List.mem_map_of_mem hx
  rw [h] at hc
  cases m <;> simp only [globalRootProbes, List.not_mem_nil, List.mem_singleton] at hc
  all_goals subst hc; exact .globalRoot _ a

theorem Executed.named {t plan xs r} (h : Executed t plan xs r) :
    ∃ names stop, Canonical plan names ∧ Named r.steps names stop ∧
      r.status = (outcome stop).1 ∧ r.reason = (outcome stop).2 := by
  cases h with
  | git _ hph hcon =>
    rw [hcon.steps_eq, hcon.status_eq, hcon.reason_eq]
    obtain ⟨ui, hn | ⟨hch, hnames, -⟩⟩ := hph.named
    · exact ⟨_, _, .git ui, hn, rfl, rfl⟩
    · exact ⟨_, _, .listFailed hch, .of_eq hnames, rfl, rfl⟩
  | cloneFailed a _ hcon =>
    rw [hcon.steps_eq, hcon.status_eq, hcon.reason_eq]
    exact ⟨_, some (.error, "git clone"), .clone false, .of_stopped (by simp [cloneStep]), rfl, rfl⟩
  | @cloned gitDir url _ _ _ _ _ _ _ _ _ _ a _ hph hins hcon =>
    rw [hcon.steps_eq, hcon.status_eq, hcon.reason_eq]
    obtain ⟨ui, hn⟩ := hph.named_unsynced
    have hall := (hins.named hn).cons (StepResult.ofAnswer (cloneStep t url gitDir) a)
    simp only [StepResult.ofAnswer_name, cloneStep, step_name] at hall
    exact ⟨_, _, .clone ui, hall, rfl, rfl⟩
  | existing _ hph hins hcon =>
    rw [hcon.steps_eq, hcon.status_eq, hcon.reason_eq]
    obtain ⟨ui, hn | ⟨hch, -⟩⟩ := hph.named
    · exact ⟨_, _, .existing ui, hins.named hn, rfl, rfl⟩
    · exact absurd rfl hch
  | package _ hup hcon =>
    rw [hcon.steps_eq, hcon.status_eq, hcon.reason_eq]
    obtain ⟨doctor, hn⟩ := hup.named
    exact ⟨_, _, .package doctor, hn, rfl, rfl⟩
  | switchToPackage _ _ hup hcon =>
    rw [hcon.steps_eq, hcon.status_eq, hcon.reason_eq]
    obtain ⟨doctor, hn⟩ := hup.named
    exact ⟨_, _, .switchToPackage doctor, hn, rfl, rfl⟩
  | unsupported hcon =>
    rw [hcon.steps_eq, hcon.status_eq, hcon.reason_eq]
    exact ⟨_, _, .unsupported, .of_eq rfl, rfl, rfl⟩

theorem Executed.canonical {t plan xs r} (h : Executed t plan xs r) :
    ∃ names, Canonical plan names ∧ r.steps.map (·.name) <+: names := by
  obtain ⟨names, _, hc, hn, -⟩ := h.named
  exact ⟨names, hc, hn.isPrefix⟩

theorem Executed.whole {t plan xs r} (h : Executed t plan xs r) :
    ∃ names stop, Canonical plan names ∧ Named r.steps names stop ∧
      r.status = (outcome stop).1 ∧ r.reason = (outcome stop).2 ∧
      (r.status = .ok → r.steps.map (·.name) = names) := by
  obtain ⟨names, stop, hc, hn, hstatus, hreason⟩ := h.named
  exact ⟨names, stop, hc, hn, hstatus, hreason,
    fun hok => hn.whole_of_reason hreason (h.wellFormed.ok hok).1⟩

theorem Canonical.git_of_mem {plan full} (h : Canonical plan full) {n : String} (hn : n ∈ full)
    (hsync : n ∈ ["git tag list", "git checkout"]) : ∃ root ch, plan = .git root ch := by
  simp only [List.mem_cons, List.not_mem_nil, or_false] at hsync
  cases h with
  | git | listFailed => exact ⟨_, _, rfl⟩
  | clone ui | existing ui =>
    rcases hsync with rfl | rfl <;> cases ui <;> simp [buildNames, syncNames] at hn
  | package doctor | switchToPackage doctor =>
    rcases hsync with rfl | rfl <;> cases doctor <;> simp [updateNames] at hn
  | unsupported => simp at hn

theorem argvStep_timeout (t : Nat) (n : String) (argv : List String) (cwd : Option String) :
    ∀ s ∈ (argvStep t n argv cwd).toList, s.command.timeoutMs = some t := by
  intro s hs
  simp only [argvStep, Option.mem_toList, Option.map_eq_some_iff] at hs
  obtain ⟨c, -, rfl⟩ := hs
  rfl

theorem buildStepsFor_timeout (t : Nat) (root : String) (m : Manager) (ui : Bool) :
    ∀ s ∈ buildStepsFor t root m ui, s.command.timeoutMs = some t := by
  intro s hs
  simp only [buildStepsFor, List.mem_filterMap] at hs
  obtain ⟨⟨n, argv⟩, -, hs⟩ := hs
  exact argvStep_timeout t n argv (some root) s (Option.mem_toList.mpr hs)

theorem buildNames_not_sync {ui : Bool} {n : String} (hn : n ∈ buildNames ui) :
    n ∉ ["git tag list", "git checkout"] := by
  cases ui <;> simp only [buildNames] at hn <;> simp at hn <;> rcases hn with rfl | rfl | rfl | rfl <;>
    simp

end Pipeline

theorem RanAll.transcript {t root ss xs rs f} (h : RanAll ss xs rs f)
    (ht : ∀ s ∈ ss, s.command.timeoutMs = some t) : Pipeline.Transcript t root xs rs := by
  induction h with
  | nil => exact .nil
  | failed s a rest => exact .step s a (ht s (by simp)) .nil
  | next s a _ _ ih => exact .step s a (ht s (by simp)) (ih fun s' hs' => ht s' (by simp [hs']))

namespace Pipeline

theorem Synced.transcript {t root ch xs rs stop} (h : Synced t root ch xs rs stop) :
    Transcript t root xs rs := by
  cases h with
  | dirty hd => exact .probe (.dirty _ hd) .nil
  | cleanFailed _ _ => exact .step _ _ rfl .nil
  | noUpstream _ _ => exact .step _ _ rfl (.step _ _ rfl .nil)
  | rebased _ _ hran =>
    exact .step _ _ rfl (.step _ _ rfl (hran.transcript (by simp [fetchStep, rebaseStep])))
  | fetchFailed _ _ _ => exact .step _ _ rfl (.step _ _ rfl .nil)
  | listFailed _ _ _ _ => exact .step _ _ rfl (.step _ _ rfl (.step _ _ rfl .nil))
  | noReleaseTag _ _ _ hl _ => exact .step _ _ rfl (.step _ _ rfl (.probe (.listed _ hl) .nil))
  | checkedOut d _ _ _ hl _ =>
    exact .step _ _ rfl (.step _ _ rfl (.probe (.listed _ hl) (.step _ _ rfl .nil)))

theorem Phased.transcript {t root ch sync xs rs stop} (h : Phased t root ch sync xs rs stop) :
    Transcript t root xs rs := by
  cases h with
  | stopped hs => exact hs.transcript
  | built _ _ hs hran => exact hs.transcript.append (hran.transcript (buildStepsFor_timeout _ _ _ _))
  | unsynced _ _ hran => exact hran.transcript (buildStepsFor_timeout _ _ _ _)

theorem Installed.transcript {t m gitDir stop ix is stop' root}
    (h : Installed t m gitDir stop ix is stop') : Transcript t root ix is := by
  cases h with
  | stopped => exact .nil
  | ran hran => exact hran.transcript (argvStep_timeout _ _ _ _)

theorem Updated.transcript {t m pkg spec ux us f root} (h : Updated t m pkg spec ux us f) :
    Transcript t root ux us := by
  cases h with
  | failed hran | noDoctor hran => exact hran.transcript (argvStep_timeout _ _ _ _)
  | doctor hu hd =>
    exact (hu.transcript (argvStep_timeout _ _ _ _)).append (hd.transcript (argvStep_timeout _ _ _ _))

theorem Concluded.transcript {t mode root rs stop withSha r ax}
    (h : Concluded mode root rs stop withSha r ax) : Transcript t root ax [] := by
  by_cases hs : (outcome stop).1 = .skipped
  · rw [(h.skipped hs).2]
    exact .nil
  · exact Probe.of_snapshot (h.probes hs)

theorem Executed.transcript {t plan xs r} (h : Executed t plan xs r) :
    Transcript t plan.root xs r.steps := by
  cases h with
  | git hbx hph hcon =>
    rw [hcon.steps_eq]
    simpa [Plan.root] using ((Probe.of_snapshot hbx).append hph.transcript).append hcon.transcript
  | cloneFailed a _ hcon =>
    rw [hcon.steps_eq]
    exact .step _ a rfl hcon.transcript
  | cloned a _ hph hins hcon =>
    rw [hcon.steps_eq]
    exact .step _ a rfl
      (by simpa [Plan.root] using (hph.transcript.append hins.transcript).append hcon.transcript)
  | existing hbx hph hins hcon =>
    rw [hcon.steps_eq]
    simpa [Plan.root] using
      (((Probe.of_snapshot hbx).append hph.transcript).append hins.transcript).append
      hcon.transcript
  | package _ hup hcon =>
    rw [hcon.steps_eq]
    exact hup.transcript
  | switchToPackage _ hgx hup hcon =>
    rw [hcon.steps_eq]
    simpa using (Probe.of_globalRoot hgx).append hup.transcript
  | unsupported hcon =>
    rw [hcon.steps_eq]
    exact .nil

theorem Synced.listing {t root ch xs rs stop} (h : Synced t root ch xs rs stop) {s : StepResult}
    (hs : s ∈ rs) (hn : s.name = "git tag list") :
    s.succeeded = false ∧ rs.getLast? = some s ∧ stop ≠ none := by
  have hmem : "git tag list" ∈ rs.map (·.name) := hn ▸ List.mem_map_of_mem hs
  cases h with
  | listFailed _ _ _ hl =>
    simp only [List.mem_cons, List.not_mem_nil, or_false] at hs
    rcases hs with rfl | rfl | rfl
    · simp [cleanCheck] at hn
    · simp [fetchStep] at hn
    · exact ⟨hl, rfl, Option.some_ne_none _⟩
  | rebased _ _ hran =>
    simp only [List.map_cons, List.mem_cons, StepResult.ofAnswer_name, cleanCheck, upstreamCheck,
      step_name] at hmem
    exact absurd (hran.named.isPrefix.subset (by simpa using hmem)) (by simp [fetchStep, rebaseStep])
  | _ => simp [cleanCheck, upstreamCheck, fetchStep, checkoutStep] at hmem

theorem Synced.checkout {t root ch xs rs stop} (h : Synced t root ch xs rs stop) {s : StepResult}
    (hs : s ∈ rs) (hn : s.name = "git checkout") :
    ∃ l tag, ((tagList t root).command, l) ∈ xs ∧ Git.latestReleaseTag (answerStdout l) ch = some tag ∧
      s.command = (checkoutStep t root tag).command.line := by
  have hmem : "git checkout" ∈ rs.map (·.name) := hn ▸ List.mem_map_of_mem hs
  cases h with
  | checkedOut d _ _ _ _ htag =>
    simp only [List.mem_cons, List.not_mem_nil, or_false] at hs
    rcases hs with rfl | rfl | rfl
    · simp [cleanCheck] at hn
    · simp [fetchStep] at hn
    · exact ⟨_, _, by simp, htag, by simp⟩
  | rebased _ _ hran =>
    simp only [List.map_cons, List.mem_cons, StepResult.ofAnswer_name, cleanCheck, upstreamCheck,
      step_name] at hmem
    exact absurd (hran.named.isPrefix.subset (by simpa using hmem)) (by simp [fetchStep, rebaseStep])
  | _ => simp [cleanCheck, upstreamCheck, fetchStep, tagList] at hmem

theorem Phased.listing {t root ch xs rs stop} (h : Phased t root ch true xs rs stop)
    {s : StepResult} (hs : s ∈ rs) (hn : s.name = "git tag list") :
    s.succeeded = false ∧ rs.getLast? = some s := by
  cases h with
  | stopped hsync => exact ⟨(hsync.listing hs hn).1, (hsync.listing hs hn).2.1⟩
  | built _ ui hsync hran =>
    rcases List.mem_append.mp hs with hs | hs
    · exact absurd rfl (hsync.listing hs hn).2.2
    · have hb := buildStepsFor_names t root _ ui ▸ hran.named.mem hs
      exact absurd (by simp [hn]) (buildNames_not_sync hb)

theorem Phased.checkout {t root ch xs rs stop} (h : Phased t root ch true xs rs stop)
    {s : StepResult} (hs : s ∈ rs) (hn : s.name = "git checkout") :
    ∃ l tag, ((tagList t root).command, l) ∈ xs ∧ Git.latestReleaseTag (answerStdout l) ch = some tag ∧
      s.command = (checkoutStep t root tag).command.line := by
  cases h with
  | stopped hsync => exact hsync.checkout hs hn
  | built _ ui hsync hran =>
    rcases List.mem_append.mp hs with hs | hs
    · obtain ⟨l, tag, hl, htag, hc⟩ := hsync.checkout hs hn
      exact ⟨l, tag, List.mem_append_left _ hl, htag, hc⟩
    · have hb := buildStepsFor_names t root _ ui ▸ hran.named.mem hs
      exact absurd (by simp [hn]) (buildNames_not_sync hb)

theorem Executed.listing {t plan xs r} (h : Executed t plan xs r) {s : StepResult}
    (hs : s ∈ r.steps) (hn : s.name = "git tag list") :
    s.succeeded = false ∧ r.steps.getLast? = some s := by
  have hmem : "git tag list" ∈ r.steps.map (·.name) := hn ▸ List.mem_map_of_mem hs
  obtain ⟨full, hc, hp⟩ := h.canonical
  obtain ⟨root, ch, rfl⟩ := hc.git_of_mem (hp.subset hmem) (by simp)
  cases h with
  | git _ hph hcon =>
    rw [hcon.steps_eq] at hs ⊢
    exact hph.listing hs hn

theorem Executed.checkout {t plan xs r} (h : Executed t plan xs r) {s : StepResult}
    (hs : s ∈ r.steps) (hn : s.name = "git checkout") :
    ∃ root ch l tag, plan = .git root ch ∧ ((tagList t root).command, l) ∈ xs ∧
      Git.latestReleaseTag (answerStdout l) ch = some tag ∧
      s.command = (checkoutStep t root tag).command.line := by
  have hmem : "git checkout" ∈ r.steps.map (·.name) := hn ▸ List.mem_map_of_mem hs
  obtain ⟨full, hc, hp⟩ := h.canonical
  obtain ⟨root, ch, rfl⟩ := hc.git_of_mem (hp.subset hmem) (by simp)
  cases h with
  | git _ hph hcon =>
    rw [hcon.steps_eq] at hs
    obtain ⟨l, tag, hl, htag, hcmd⟩ := hph.checkout hs hn
    exact ⟨root, ch, l, tag, rfl, by simp [hl], htag, hcmd⟩

/-- What the recorded steps of a run of `plan` with result `r` say about it, whose exchanges
with the runner were `xs`. -/
structure StepTrace (t : Nat) (plan : Plan) (xs : List (Command × Answer)) (r : RunResult) :
    Prop where
  transcript : Transcript t plan.root xs r.steps
  canonical : ∃ names stop, Canonical plan names ∧ Named r.steps names stop ∧
    r.status = (outcome stop).1 ∧ r.reason = (outcome stop).2 ∧
    (r.status = .ok → r.steps.map (·.name) = names)
  firstFailure : (∀ s ∈ r.steps.dropLast, s.succeeded = true) ∧
    (r.status = .error → ∃ s, r.steps.getLast? = some s ∧ s.succeeded = false)
  listing : ∀ s ∈ r.steps, s.name = "git tag list" →
    s.succeeded = false ∧ r.steps.getLast? = some s
  checkout : ∀ s ∈ r.steps, s.name = "git checkout" → ∃ root ch l tag, plan = .git root ch ∧
    ((tagList t root).command, l) ∈ xs ∧ Git.latestReleaseTag (answerStdout l) ch = some tag ∧
    s.command = (checkoutStep t root tag).command.line

theorem Executed.firstFailure {t plan xs r} (h : Executed t plan xs r) :
    (∀ s ∈ r.steps.dropLast, s.succeeded = true) ∧
      (r.status = .error → ∃ s, r.steps.getLast? = some s ∧ s.succeeded = false) := by
  have hw := h.wellFormed
  refine ⟨fun s hs => by simp [StepResult.succeeded, hw.prefix_succeeded s hs], fun herr => ?_⟩
  obtain ⟨last, hlast, -, hfail, -⟩ := hw.error herr
  exact ⟨last, hlast, hfail⟩

/-- Whatever the runner answers, the calls a run of a plan makes are its exchanges `xs`, and its
recorded steps are what `StepTrace` says of them. -/
theorem execute_stepTrace (t : Nat) (plan : Plan) (w : World) :
    ∃ xs r m, (execute t plan).run w = (r, w.extend m xs (StepEvent.ofResults 0 r.steps)) ∧
      StepTrace t plan xs r := by
  obtain ⟨xs, r, m, h, hex⟩ := execute_run t plan w
  exact ⟨xs, r, m, h, hex.transcript, hex.whole, hex.firstFailure, fun _ => hex.listing,
    fun _ => hex.checkout⟩

end Pipeline

end Updater
