import Updater.Proofs.Effects
import Updater.Update.Executor

/-! The executor's operations as equations on the world. A step's result is read off the
runner's answer (`StepResult.ofAnswer`); announcing and recording a result shows the observer a
start and a completion, so a run's events are determined by its recorded results alone
(`StepEvent.ofResults`). Running a list of steps until one fails is described by the relation
`RanAll`, which names every exchange and result of every possible run. -/

namespace Updater

def StepEvent.ofResults : Nat → List StepResult → List StepEvent
  | _, [] => []
  | i, r :: rs => .start i r.name r.command :: .complete r :: ofResults (i + 1) rs

@[simp] theorem StepEvent.ofResults_nil (i : Nat) : StepEvent.ofResults i [] = [] := rfl

theorem StepEvent.ofResults_append (i : Nat) (rs rs' : List StepResult) :
    StepEvent.ofResults i (rs ++ rs') =
      StepEvent.ofResults i rs ++ StepEvent.ofResults (i + rs.length) rs' := by
  induction rs generalizing i with
  | nil => rfl
  | cons r rs ih =>
    simp only [List.cons_append, ofResults, ih, List.length_cons, List.cons.injEq, true_and]
    rw [Nat.add_assoc, Nat.add_comm 1]

@[simp] theorem StepEvent.ofResults_append_ofResults (i j : Nat) (rs rs' : List StepResult)
    (h : j = i + rs.length) :
    StepEvent.ofResults i rs ++ StepEvent.ofResults j rs' = StepEvent.ofResults i (rs ++ rs') := by
  rw [ofResults_append, h]

namespace StepResult

@[simp] theorem ofAnswer_name (s : Step) (a : Answer) :
    (ofAnswer s a).name = s.name := by
  cases a <;> rfl

@[simp] theorem ofAnswer_command (s : Step) (a : Answer) :
    (ofAnswer s a).command = s.command.line := by
  cases a <;> rfl

theorem ofAnswer_succeeded (s : Step) (a : Answer) :
    (ofAnswer s a).succeeded = true ↔ ∃ o, a = .ok o ∧ o.code = some 0 := by
  cases a <;> simp [ofAnswer, ofOutput, succeeded]

end StepResult

namespace Executor

def append (e : Executor) (rs : List StepResult) : Executor :=
  { steps := e.steps ++ rs, started := e.started + rs.length }

@[simp] theorem append_steps (e : Executor) (rs : List StepResult) :
    (e.append rs).steps = e.steps ++ rs := rfl

@[simp] theorem append_started (e : Executor) (rs : List StepResult) :
    (e.append rs).started = e.started + rs.length := rfl

@[simp] theorem append_nil (e : Executor) : e.append [] = e := by
  simp [append]

@[simp] theorem append_append (e : Executor) (rs rs' : List StepResult) :
    (e.append rs).append rs' = e.append (rs ++ rs') := by
  simp [append, Nat.add_assoc]

theorem executeWithStdout_run (s : Step) (w : World) :
    ∃ a m, (executeWithStdout s).run w =
      ((StepResult.ofAnswer s a, answerStdout a), w.extend m [(s.command, a)] []) ∧
      ((run s.command).run w).1 = a := by
  obtain ⟨a, m, h⟩ := run_extend s.command w
  refine ⟨a, m, ?_, by rw [h]⟩
  simp only [executeWithStdout, StateT.run_bind, h]
  rfl

theorem execute_run (s : Step) (w : World) :
    ∃ a m, (execute s).run w = (StepResult.ofAnswer s a, w.extend m [(s.command, a)] []) ∧
      ((run s.command).run w).1 = a := by
  obtain ⟨a, m, h, ha⟩ := executeWithStdout_run s w
  refine ⟨a, m, ?_, ha⟩
  simp only [execute, StateT.run_bind, h]
  rfl

theorem recordExecuted_run (e : Executor) (s : Step) (a : Answer) (w : World) :
    (e.recordExecuted s (StepResult.ofAnswer s a)).run w =
      (e.append [StepResult.ofAnswer s a],
        w.extend w.machine [] (StepEvent.ofResults e.started [StepResult.ofAnswer s a])) := by
  simp [recordExecuted, announce, record, Act.emit_run, World.extend, StepEvent.ofResults, append]

theorem runStep_run (e : Executor) (s : Step) (w : World) :
    ∃ a m, (e.runStep s).run w =
      ((e.append [StepResult.ofAnswer s a], (StepResult.ofAnswer s a).succeeded),
        w.extend m [(s.command, a)] (StepEvent.ofResults e.started [StepResult.ofAnswer s a])) := by
  obtain ⟨a, m, h, -⟩ := execute_run s
    { w with events := w.events ++ [.start e.started s.name s.command.line] }
  refine ⟨a, m, ?_⟩
  simp [runStep, announce, record, Act.emit_run, h, World.extend, StepEvent.ofResults, append]

end Executor

/-- Every way of running `ss` until one fails: the exchanges with the runner, the recorded
results and the name of the failed step. -/
inductive RanAll : List Step → List (Command × Answer) → List StepResult →
    Option String → Prop
  | nil : RanAll [] [] [] none
  | failed (s : Step) (a : Answer) (rest : List Step) :
      (StepResult.ofAnswer s a).succeeded = false →
      RanAll (s :: rest) [(s.command, a)] [StepResult.ofAnswer s a] (some s.name)
  | next (s : Step) (a : Answer) {rest xs rs f} :
      (StepResult.ofAnswer s a).succeeded = true → RanAll rest xs rs f →
      RanAll (s :: rest) ((s.command, a) :: xs) (StepResult.ofAnswer s a :: rs) f

theorem Executor.runAll_run (e : Executor) (ss : List Step) (w : World) :
    ∃ xs rs f m, (e.runAll ss).run w =
      ((e.append rs, f), w.extend m xs (StepEvent.ofResults e.started rs)) ∧ RanAll ss xs rs f := by
  induction ss generalizing e w with
  | nil => exact ⟨[], [], none, w.machine, by simp [runAll], .nil⟩
  | cons s rest ih =>
    obtain ⟨a, m, h⟩ := e.runStep_run s w
    cases hok : (StepResult.ofAnswer s a).succeeded
    · refine ⟨[(s.command, a)], [StepResult.ofAnswer s a], some s.name, m, ?_, .failed s a rest hok⟩
      simp only [runAll, StateT.run_bind, h, hok]
      rfl
    · obtain ⟨xs, rs, f, m', h', hran⟩ := ih (e.append [StepResult.ofAnswer s a])
        (w.extend m [(s.command, a)] (StepEvent.ofResults e.started [StepResult.ofAnswer s a]))
      refine ⟨(s.command, a) :: xs, StepResult.ofAnswer s a :: rs, f, m', ?_, .next s a hok hran⟩
      simp only [runAll, StateT.run_bind, h, hok, id_bind_apply, ↓reduceIte]
      rw [h']
      simp [StepEvent.ofResults]

end Updater
