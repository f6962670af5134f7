import Updater.Proofs.Runs

/-! The result of every run of every plan is well formed, whatever the runner answers. The
recorded steps stop at the first one that did not succeed (`StopsAt`); a run stops either there
or at a skip whose reason fixes the steps it recorded (`Ends`); `Concluded.wellFormed` turns
that into the shape of the result, and each rule of `Executed` supplies it. -/

namespace Updater

inductive SkipShape : String → List StepResult → Prop
  | dirty : SkipShape reasonDirty []
  | notGitInstall : SkipShape reasonNotGitInstall []
  | noReleaseTag {rs : List StepResult} : (∀ s ∈ rs, s.succeeded = true) →
      SkipShape reasonNoReleaseTag rs
  | noUpstream {c u : StepResult} : c.name = "clean check" → c.succeeded = true →
      u.name = "upstream check" → u.succeeded = false → SkipShape reasonNoUpstream [c, u]

inductive StopsAt : List StepResult → Option String → Prop
  | through {rs : List StepResult} : (∀ s ∈ rs, s.succeeded = true) → StopsAt rs none
  | failed {rs : List StepResult} (last : StepResult) : (∀ s ∈ rs, s.succeeded = true) →
      last.succeeded = false → StopsAt (rs ++ [last]) (some last.name)

structure RunResult.WellFormed (plan : Plan) (r : RunResult) : Prop where
  prefix_succeeded : ∀ s ∈ r.steps.dropLast, s.exitCode = some 0
  ok : r.status = .ok → r.reason = none ∧ ∀ s ∈ r.steps, s.succeeded = true
  error : r.status = .error → ∃ last, r.steps.getLast? = some last ∧ r.reason = some last.name ∧
    last.succeeded = false ∧ r.failedStep? = some last
  skipped : r.status = .skipped → r.after = r.before ∧ ∃ n, r.reason = some n ∧ SkipShape n r.steps
  mode_eq : r.mode = plan.mode

theorem StepResult.exitCode_of_succeeded {s : StepResult} (h : s.succeeded = true) :
    s.exitCode = some 0 := by
  simpa [StepResult.succeeded] using h

namespace StopsAt

theorem append (ps : List StepResult) {rs : List StepResult} {f : Option String}
    (hps : ∀ s ∈ ps, s.succeeded = true) (h : StopsAt rs f) : StopsAt (ps ++ rs) f := by
  cases h with
  | through hrs =>
    exact .through fun s hs => (List.mem_append.mp hs).elim (hps s) (hrs s)
  | failed last hrs hlast =>
    rw [← List.append_assoc]
    exact .failed last (fun s hs => (List.mem_append.mp hs).elim (hps s) (hrs s)) hlast

theorem last (rs : List StepResult) (s : Step) (a : Answer) (hrs : ∀ r ∈ rs, r.succeeded = true)
    (h : (StepResult.ofAnswer s a).succeeded = false) :
    StopsAt (rs ++ [StepResult.ofAnswer s a]) (some s.name) := by
  simpa using StopsAt.failed _ hrs h

theorem prefix_succeeded {rs : List StepResult} {f : Option String} (h : StopsAt rs f) :
    ∀ s ∈ rs.dropLast, s.succeeded = true := by
  cases h with
  | through hrs => exact fun s hs => hrs s (List.dropLast_subset rs hs)
  | failed last hrs => simpa using hrs

theorem succeeded_of_none {rs : List StepResult} (h : StopsAt rs none) :
    ∀ s ∈ rs, s.succeeded = true := by
  cases h with
  | through hrs => exact hrs

end StopsAt

theorem RanAll.stopsAt {ss xs rs f} (h : RanAll ss xs rs f) : StopsAt rs f := by
  induction h with
  | nil => exact .through nofun
  | failed s a rest hfail => exact StopsAt.last [] s a nofun hfail
  | next s a hok _ ih => exact StopsAt.append [_] (by simpa using hok) ih

namespace Pipeline

inductive Ends : List StepResult → Option Stop → Prop
  | ran {rs f} : StopsAt rs f → Ends rs (f.map fun n => (.error, n))
  | skipped {rs n} : SkipShape n rs → Ends rs (some (.skipped, n))

theorem Updated.stopsAt {t m root spec xs rs f} (h : Updated t m root spec xs rs f) :
    StopsAt rs f := by
  cases h with
  | failed hran => exact hran.stopsAt
  | noDoctor hran => exact hran.stopsAt
  | doctor hu hd => exact StopsAt.append _ hu.stopsAt.succeeded_of_none hd.stopsAt

namespace Ends

variable {rs : List StepResult} {stop : Option Stop}

theorem failedAt {n : String} (h : StopsAt rs (some n)) : Ends rs (some (.error, n)) := .ran h

theorem succeeded_of_none (h : Ends rs none) : ∀ s ∈ rs, s.succeeded = true := by
  generalize hstop : (none : Option Stop) = stop at h
  cases h with
  | ran hf =>
    cases hf with
    | through hrs => exact hrs
    | failed => simp at hstop
  | skipped => simp at hstop

theorem prefix_succeeded (h : Ends rs stop) : ∀ s ∈ rs.dropLast, s.succeeded = true := by
  cases h with
  | ran hf => exact hf.prefix_succeeded
  | skipped hshape =>
    cases hshape with
    | dirty | notGitInstall => nofun
    | noReleaseTag hrs => exact fun s hs => hrs s (List.dropLast_subset _ hs)
    | noUpstream _ hc => simpa using hc

theorem ok (h : Ends rs stop) (hok : (outcome stop).1 = .ok) :
    (outcome stop).2 = none ∧ ∀ s ∈ rs, s.succeeded = true := by
  cases h with
  | ran hf =>
    cases hf with
    | through hrs => exact ⟨rfl, hrs⟩
    | failed => simp [outcome] at hok
  | skipped => simp [outcome] at hok

theorem error (h : Ends rs stop) (herr : (outcome stop).1 = .error) :
    ∃ last, rs.getLast? = some last ∧ (outcome stop).2 = some last.name ∧
      last.succeeded = false ∧ rs.find? (!·.succeeded) = some last := by
  cases h with
  | ran hf =>
    cases hf with
    | through => simp [outcome] at herr
    | failed last hrs hlast =>
      refine ⟨last, by simp, rfl, hlast, ?_⟩
      rw [List.find?_append, List.find?_eq_none.mpr (by simpa using hrs)]
      simp [hlast]
  | skipped => simp [outcome] at herr

theorem skipped_shape (h : Ends rs stop) (hskip : (outcome stop).1 = .skipped) :
    ∃ n, (outcome stop).2 = some n ∧ SkipShape n rs := by
  cases h with
  | ran hf => cases hf <;> simp [outcome] at hskip
  | skipped hshape => exact ⟨_, rfl, hshape⟩

end Ends

theorem Synced.ends {t root ch xs rs stop} (h : Synced t root ch xs rs stop) : Ends rs stop := by
  cases h with
  | dirty _ => exact .skipped .dirty
  | cleanFailed _ hfail => exact .failedAt (StopsAt.last [] (cleanCheck t root) _ nofun hfail)
  | noUpstream hclean hfail =>
    exact .skipped (.noUpstream (by simp [cleanCheck, step, Step.mk']) hclean.1
      (by simp [upstreamCheck, step, Step.mk']) hfail)
  | rebased hclean hup hran =>
    exact .ran (StopsAt.append [_, _] (by simp [hclean.1, hup]) hran.stopsAt)
  | fetchFailed _ hclean hfail =>
    exact .failedAt (StopsAt.last [_] (fetchStep t root) _ (by simp [hclean.1]) hfail)
  | listFailed _ hclean hfetch hfail =>
    exact .failedAt (StopsAt.last [_, _] (tagList t root) _ (by simp [hclean.1, hfetch]) hfail)
  | noReleaseTag _ hclean hfetch _ _ => exact .skipped (.noReleaseTag (by simp [hclean.1, hfetch]))
  | checkedOut d _ hclean hfetch _ _ =>
    cases hd : (StepResult.ofAnswer (checkoutStep t root _) d).succeeded
    case true =>
      simp only [↓reduceIte]
      exact .ran (.through (by simp [hclean.1, hfetch, hd]))
    case false =>
      simp only [Bool.false_eq_true, ↓reduceIte]
      exact .failedAt (StopsAt.last [_, _] (checkoutStep t root _) d (by simp [hclean.1, hfetch]) hd)

theorem Phased.ends {t root ch sync xs rs stop} (h : Phased t root ch sync xs rs stop) :
    Ends rs stop := by
  cases h with
  | stopped hs => exact hs.ends
  | built _ _ hs hran => exact .ran (StopsAt.append _ hs.ends.succeeded_of_none hran.stopsAt)
  | unsynced _ _ hran => exact .ran hran.stopsAt

theorem Installed.ends {t m gitDir stop ix is stop' rs} (h : Installed t m gitDir stop ix is stop')
    (he : Ends rs stop) : Ends (rs ++ is) stop' := by
  cases h with
  | stopped => simpa using he
  | ran hran => exact .ran (StopsAt.append _ he.succeeded_of_none hran.stopsAt)

theorem Installed.stopsAt {t m gitDir ix is stop' rs f}
    (h : Installed t m gitDir (f.map fun n => (.error, n)) ix is stop') (hs : StopsAt rs f) :
    ∃ f', stop' = f'.map (fun n => (.error, n)) ∧ StopsAt (rs ++ is) f' := by
  cases f with
  | some n =>
    cases h with
    | stopped => exact ⟨some n, rfl, by simpa using hs⟩
  | none =>
    cases h with
    | ran hran => exact ⟨_, rfl, StopsAt.append _ hs.succeeded_of_none hran.stopsAt⟩

theorem Concluded.wellFormed {plan mode root rs stop withSha r ax}
    (h : Concluded mode root rs stop withSha r ax) (hmode : mode = plan.mode) (he : Ends rs stop) :
    r.WellFormed plan where
  prefix_succeeded s hs :=
    StepResult.exitCode_of_succeeded (he.prefix_succeeded s (h.steps_eq ▸ hs))
  ok hok := by
    rw [h.reason_eq, h.steps_eq]
    exact he.ok (h.status_eq ▸ hok)
  error herr := by
    rw [RunResult.failedStep?, h.reason_eq, h.steps_eq]
    exact he.error (h.status_eq ▸ herr)
  skipped hskip := by
    refine ⟨(h.skipped (h.status_eq ▸ hskip)).1, ?_⟩
    rw [h.reason_eq, h.steps_eq]
    exact he.skipped_shape (h.status_eq ▸ hskip)
  mode_eq := h.mode_eq.trans hmode

theorem Executed.wellFormed {t plan xs r} (h : Executed t plan xs r) : r.WellFormed plan := by
  cases h with
  | git _ hph hcon => exact hcon.wellFormed rfl hph.ends
  | cloneFailed a hfail hcon =>
    exact hcon.wellFormed rfl (.failedAt (StopsAt.last [] (cloneStep t _ _) a nofun hfail))
  | cloned a hok hph hins hcon =>
    cases hph with
    | unsynced _ _ hran =>
      obtain ⟨f, rfl, hs⟩ := hins.stopsAt hran.stopsAt
      exact hcon.wellFormed rfl (.ran (StopsAt.append [_] (by simpa using hok) hs))
  | existing _ hph hins hcon => exact hcon.wellFormed rfl (hins.ends hph.ends)
  | package _ hup hcon => exact hcon.wellFormed rfl (.ran hup.stopsAt)
  | switchToPackage _ _ hup hcon => exact hcon.wellFormed rfl (.ran hup.stopsAt)
  | unsupported hcon => exact hcon.wellFormed rfl (.skipped .notGitInstall)

/-- Whatever the runner answers and whatever the machine holds, running a plan returns a
well-formed result. -/
theorem execute_wellFormed (t : Nat) (plan : Plan) (w : World) :
    ((execute t plan).run w).1.WellFormed plan := by
  obtain ⟨xs, r, m, h, hex⟩ := execute_run t plan w
  rw [h]
  exact hex.wellFormed

end Pipeline

end Updater
