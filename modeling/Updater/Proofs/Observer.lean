import Updater.Proofs.FinishedRun

/-! What the observer of a run sees. Every run shows it the start and the completion of each
step its pipeline recorded, in order and numbered from zero, and nothing else: no probe, no
clean check that found changes and no tag listing that went through shows up
(`runUpdate_events`). For a finished run these are the report's steps, two events each
(`runUpdate_observer`); a recorder of completed steps therefore holds a prefix of them after every
event and all of them at the end. -/

namespace Updater

namespace StepEvent

variable (i : Nat) (rs : List StepResult)

theorem length_ofResults : (ofResults i rs).length = 2 * rs.length := by
  induction rs generalizing i with
  | nil => rfl
  | cons r rs ih => simp only [ofResults, List.length_cons, ih]; omega

theorem getElem?_ofResults {k : Nat} (hk : k < rs.length) :
    (ofResults i rs)[2 * k]? = some (.start (i + k) rs[k].name rs[k].command) ∧
      (ofResults i rs)[2 * k + 1]? = some (.complete rs[k]) := by
  induction rs generalizing i k with
  | nil => cases hk
  | cons r rs ih =>
    cases k with
    | zero => simp [ofResults]
    | succ k =>
      -- two events further on, the rest numbered from `i + 1`
      have h := ih (i + 1) (Nat.lt_of_succ_lt_succ hk)
      have h2 : 2 * (k + 1) = 2 * k + 2 := by omega
      simp only [ofResults, h2, List.getElem?_cons_succ, List.getElem_cons_succ]
      rw [show i + (k + 1) = i + 1 + k by omega]
      exact h

@[simp] theorem recorded_nil : recorded [] = [] := rfl

theorem recorded_cons_start (n : Nat) (name command : String) (evs : List StepEvent) :
    recorded (.start n name command :: evs) = recorded evs := rfl

theorem recorded_cons_complete (r : StepResult) (evs : List StepEvent) :
    recorded (.complete r :: evs) = r :: recorded evs := rfl

theorem recorded_ofResults : recorded (ofResults i rs) = rs := by
  induction rs generalizing i with
  | nil => rfl
  | cons r rs ih => simp [ofResults, recorded_cons_start, recorded_cons_complete, ih]

theorem recorded_take_ofResults (n : Nat) : recorded ((ofResults i rs).take n) <+: rs := by
  induction rs generalizing i n with
  | nil => simp
  | cons r rs ih =>
    -- the start adds nothing, the completion adds `r`, the rest by induction
    match n with
    | 0 => simp
    | 1 => simp [ofResults, recorded_cons_start]
    | n + 2 =>
      simp only [ofResults, List.take_succ_cons, recorded_cons_start, recorded_cons_complete]
      exact List.prefix_cons_inj r |>.mpr (ih (i + 1) n)

end StepEvent

/-! ### Events through the run -/

theorem LockedPart.events {store : String} {o : Options} {snap : Config.Snapshot} {plan : Plan}
    {channel : Resolution} {target : Option VersionTarget} {notes : List String} {w w' : World}
    {res : Except Failure UpdateReport}
    (h : LockedPart store o snap plan channel target notes w (res, w')) :
    ∃ rs, w'.events = w.events ++ StepEvent.ofResults 0 rs ∧
      ∀ rep, res = .ok rep → rs = rep.result.steps := by
  obtain ⟨m, xs, rs, c, rfl, hrs⟩ := h.frame
  exact ⟨rs, by simp [World.extend], hrs⟩

theorem runUpdate_events (store : String) (o : Options) (w : World) :
    ∃ rs, ((runUpdate store o).run w).2.events = w.events ++ StepEvent.ofResults 0 rs ∧
      ∀ rep, ((runUpdate store o).run w).1 = .ok (.finished rep) → rs = rep.result.steps := by
  generalize hres : (runUpdate store o).run w = res
  have hrun := runUpdate_run store o w
  rw [hres] at hrun
  -- a run that stops before its locked part shows nothing; one that proceeds shows what its
  -- locked part shows
  have hnone : ∀ {out : Except Failure Outcome} {w' : World}, w'.events = w.events →
      (∀ rep, out ≠ .ok (.finished rep)) →
      ∃ rs, (out, w').2.events = w.events ++ StepEvent.ofResults 0 rs ∧
        ∀ rep, (out, w').1 = .ok (.finished rep) → rs = rep.result.steps :=
    fun he hout => ⟨[], by simpa using he, fun rep h => absurd h (hout rep)⟩
  cases hrun with
  | loadFailed => exact hnone rfl fun _ h => by cases h
  | configInvalid => exact hnone rfl fun _ h => by cases h
  | refused hc => exact hnone (congrArg (·.1) hc.log_eq) fun _ h => by cases h
  | declined hc => exact hnone (congrArg (·.1) hc.log_eq) fun _ h => by cases h
  | promptFailed hc => exact hnone (congrArg (·.1) hc.log_eq) fun _ h => by cases h
  | @handedOver s wₛ _ hp hpl =>
    have hₛ : wₛ.events = w.events := congrArg (·.1) hp.consulted.log_eq
    cases hpl with
    | planFailed => exact hnone hₛ fun _ h => by cases h
    | lockFailed _ _ hl =>
      refine hnone ?_ fun _ h => by cases h
      cases hl <;> exact hₛ
    | proceeds hpr =>
      cases hpr with
      | @unlocked root r w' hplan hlocked =>
        have hpart := runLocked_part store o s.snap (.unsupported root) (s.channel o) s.target
          s.notes wₛ
        rw [hlocked] at hpart
        obtain ⟨rs, he, hrs⟩ := hpart.events
        refine ⟨rs, by rw [he, hₛ], fun rep hrep => hrs rep (Except.map_finished_eq_ok hrep)⟩
      | @locked plan lock w₀ w' r hplan _ hl hlocked =>
        have hpart := runLocked_part store o s.snap plan (s.channel o) s.target s.notes w₀
        rw [hlocked] at hpart
        obtain ⟨rs, he, hrs⟩ := hpart.events
        have h₀ : w₀.events = wₛ.events := by cases hl; rfl
        refine ⟨rs, by simp only; rw [he, h₀, hₛ], fun rep hrep =>
          hrs rep (Except.map_finished_eq_ok hrep)⟩

/-- A finished run shows the observer exactly two events for each step of its report, the start
of the `k`-th step numbered `k` with its name and command and then its completion with its result;
a recorder of completed steps holds a prefix of the report's steps after every event and all of
them at the end. -/
theorem runUpdate_observer (store : String) (o : Options) (w : World) {rep : UpdateReport}
    {w' : World} (h : (runUpdate store o).run w = (.ok (.finished rep), w')) :
    ∃ evs, w'.events = w.events ++ evs ∧ evs.length = 2 * rep.result.steps.length ∧
      (∀ k (hk : k < rep.result.steps.length),
        evs[2 * k]? = some (.start k rep.result.steps[k].name rep.result.steps[k].command) ∧
        evs[2 * k + 1]? = some (.complete rep.result.steps[k])) ∧
      (∀ n, StepEvent.recorded (evs.take n) <+: rep.result.steps) ∧
      StepEvent.recorded evs = rep.result.steps := by
  obtain ⟨rs, he, hrs⟩ := runUpdate_events store o w
  rw [h] at he hrs
  obtain rfl := hrs rep rfl
  refine ⟨_, he, StepEvent.length_ofResults 0 _, fun k hk => ?_,
    StepEvent.recorded_take_ofResults 0 _, StepEvent.recorded_ofResults 0 _⟩
  simpa using StepEvent.getElem?_ofResults 0 rep.result.steps hk

/-- The npm update with its doctor shows the observer four events, two for each of its steps. -/
theorem npm_update_observer :
    let w := npmInstall "1.0.0" true [("latest", "1.2.0")]
    ∃ rep w', (runUpdate "" (npmRequest false)).run w = (.ok (.finished rep), w') ∧
      rep.result.steps.map (·.name) = ["global update", "openclaw doctor"] ∧
      ∃ evs, w'.events = w.events ++ evs ∧ evs.length = 2 * rep.result.steps.length ∧
        (∀ k (hk : k < rep.result.steps.length),
          evs[2 * k]? = some (.start k rep.result.steps[k].name rep.result.steps[k].command) ∧
          evs[2 * k + 1]? = some (.complete rep.result.steps[k])) ∧
        (∀ n, StepEvent.recorded (evs.take n) <+: rep.result.steps) ∧
        StepEvent.recorded evs = rep.result.steps := by
  intro w
  obtain ⟨rep, w', h, -, hnames, -⟩ := npm_update_finishes
  exact ⟨rep, w', h, hnames, runUpdate_observer _ _ _ h⟩

end Updater
