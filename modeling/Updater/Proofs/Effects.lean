import Updater.Install.Detect

/-! What the primitive actions of a run do to the world. Asking the runner appends the
command's line to the calls and the exchange to the transcript, and may change the machine
(a script's file effects, a program's writes); an observer event is appended to the events;
reading files, directories and variables changes nothing. Later proofs cite these equations
and never unfold the runner. -/

namespace Updater

@[simp] theorem id_bind_apply {α β : Type} (x : Id α) (f : α → Id β) : x >>= f = f x := rfl

-- The instance is written out, being the one a run unfolds to, so that no other instance of
-- `Functor Id` is chosen.
@[simp] theorem id_map_apply {α β : Type} (f : α → β) (x : Id α) :
    @Functor.map Id (@Applicative.toFunctor Id (@Monad.toApplicative Id Id.instMonad)) α β f x =
      f x := rfl

@[simp] theorem id_pure_apply {α : Type} (x : α) : (pure x : Id α) = x := rfl

/-- The world after a stretch of a run: a new machine, the exchanges with the runner (their
lines logged among the calls) and the events the observer saw. -/
def World.extend (w : World) (m : Machine) (xs : List (Command × Answer))
    (evs : List StepEvent) : World :=
  { w with machine := m, calls := w.calls ++ xs.map (·.1.line), exchanges := w.exchanges ++ xs,
           events := w.events ++ evs }

@[simp] theorem World.extend_extend (w : World) (m₁ m₂ : Machine)
    (xs₁ xs₂ : List (Command × Answer)) (evs₁ evs₂ : List StepEvent) :
    (w.extend m₁ xs₁ evs₁).extend m₂ xs₂ evs₂ = w.extend m₂ (xs₁ ++ xs₂) (evs₁ ++ evs₂) := by
  simp [World.extend]

@[simp] theorem World.extend_nil (w : World) : w.extend w.machine [] [] = w := by
  simp [World.extend]

@[simp] theorem World.extend_machine (w : World) (m : Machine) xs evs :
    (w.extend m xs evs).machine = m := rfl

def Act.OnMachine {α : Type} (x : Act α) : Prop :=
  ∀ w, ∃ a m, x.run w = (a, { w with machine := m })

def Act.Reads {α : Type} (x : Act α) : Prop := ∀ w, ∃ a, x.run w = (a, w)

namespace Act

variable {α β σ : Type}

theorem OnMachine.pure (a : α) : OnMachine (Pure.pure a : Act α) := fun w => ⟨a, w.machine, rfl⟩

theorem OnMachine.bind {x : Act α} {f : α → Act β} (hx : OnMachine x)
    (hf : ∀ a, OnMachine (f a)) : OnMachine (x >>= f) := by
  intro w
  obtain ⟨a, m, h⟩ := hx w
  obtain ⟨b, m', h'⟩ := hf a { w with machine := m }
  exact ⟨b, m', by rw [StateT.run_bind, h]; exact h'⟩

theorem OnMachine.forIn (xs : List α) (b : σ) (g : α → σ → Act (ForInStep σ))
    (hg : ∀ a b, OnMachine (g a b)) : OnMachine (forIn xs b g) := by
  induction xs generalizing b with
  | nil => exact .pure _
  | cons x xs ih =>
    rw [List.forIn_cons]
    refine .bind (hg x b) fun r => ?_
    cases r with
    | done b => exact .pure _
    | yield b => exact ih b

theorem onMachine_changeFs (f : FileSystem → String → Except IoError FileSystem) :
    OnMachine (changeFs f) := by
  intro w
  simp only [changeFs, machine, setFs, StateT.run_bind, StateT.run_get, StateT.run_pure, pure_bind]
  split <;> exact ⟨_, _, rfl⟩

theorem Reads.pure (a : α) : Reads (Pure.pure a : Act α) := fun _ => ⟨a, rfl⟩

theorem Reads.bind {x : Act α} {f : α → Act β} (hx : Reads x) (hf : ∀ a, Reads (f a)) :
    Reads (x >>= f) := by
  intro w
  obtain ⟨a, h⟩ := hx w
  obtain ⟨b, h'⟩ := hf a w
  exact ⟨b, by rw [StateT.run_bind, h]; exact h'⟩

theorem Reads.forIn (xs : List α) (b : σ) (g : α → σ → Act (ForInStep σ))
    (hg : ∀ a b, Reads (g a b)) : Reads (forIn xs b g) := by
  induction xs generalizing b with
  | nil => exact .pure _
  | cons x xs ih =>
    rw [List.forIn_cons]
    refine .bind (hg x b) fun r => ?_
    cases r with
    | done b => exact .pure _
    | yield b => exact ih b

theorem reads_machine : Reads machine := fun _ => ⟨_, rfl⟩

theorem reads_exists (p : String) : Reads (exists? p) := .bind reads_machine fun _ => .pure _

theorem reads_readFile (p : String) : Reads (readFile p) := .bind reads_machine fun _ => .pure _

theorem reads_getEnv (k : String) : Reads (getEnv? k) := .bind reads_machine fun _ => .pure _

theorem reads_isDir (p : String) : Reads (isDir p) := .bind reads_machine fun _ => .pure _

theorem reads_get : Reads (get : Act World) := fun w => ⟨w, rfl⟩

theorem emit_run (ev : StepEvent) (w : World) :
    (emit ev).run w = ((), w.extend w.machine [] [ev]) := by
  simp only [World.extend, List.map_nil, List.append_nil]
  rfl

end Act

theorem Effect.apply_onMachine (e : Effect) : e.apply.OnMachine := by
  cases e <;> exact .bind (Act.onMachine_changeFs _) fun _ => .pure _

theorem answerFromScript_onMachine (rules : List Rule) (line : String) :
    (answerFromScript rules line).OnMachine := by
  unfold answerFromScript
  split
  · exact .pure _
  · refine .bind (.forIn _ _ _ fun e _ => .bind (Effect.apply_onMachine e) fun _ => .pure _)
      fun _ => ?_
    split <;> exact .pure _

theorem spawn_onMachine (c : Command) : (spawn c).OnMachine := by
  intro w
  simp only [spawn, StateT.run_bind, StateT.run_get, pure_bind]
  split
  · exact ⟨_, _, rfl⟩
  · exact ⟨_, _, rfl⟩
  · split <;> exact ⟨_, _, rfl⟩

theorem askRunner_onMachine (c : Command) : (askRunner c).OnMachine := by
  intro w
  simp only [askRunner, StateT.run_bind, StateT.run_get, pure_bind]
  split
  · exact answerFromScript_onMachine _ _ w
  · exact (Act.OnMachine.bind (spawn_onMachine c) fun _ => .pure _) w

theorem run_extend (c : Command) (w : World) :
    ∃ a m, (run c).run w = (a, w.extend m [(c, a)] []) := by
  obtain ⟨a, m, h⟩ := askRunner_onMachine c { w with calls := w.calls ++ [c.line] }
  refine ⟨a, m, ?_⟩
  simp only [run, Act.logCall, Act.logExchange, StateT.run_bind, StateT.run_modify, pure_bind, h]
  simp only [World.extend, List.map_cons, List.map_nil, List.append_nil]
  rfl

def probeValue : Answer → Option String
  | .ok o => o.stdoutTrimmed?
  | .error _ => none

theorem Git.probe_extend (c : Command) (w : World) :
    ∃ a m, (Git.probe c).run w = (probeValue a, w.extend m [(c, a)] []) := by
  obtain ⟨a, m, h⟩ := run_extend c w
  refine ⟨a, m, ?_⟩
  simp only [Git.probe, StateT.run_bind, h]
  cases a <;> rfl

/-- An action that reads the world and asks the runner: its exchanges are logged and the runner
may change the machine, nothing else. -/
def Act.Probes {α : Type} (x : Act α) : Prop :=
  ∀ w, ∃ a m xs, x.run w = (a, w.extend m xs [])

def Act.OnRegistry {α : Type} (x : Act α) : Prop :=
  ∀ w, ∃ a reg n rq, x.run w = (a, { w with registry := reg, registryCalls := n, requests := rq })

namespace Act

variable {α β σ : Type}

theorem Probes.pure (a : α) : Probes (Pure.pure a : Act α) :=
  fun w => ⟨a, w.machine, [], by simp⟩

theorem Probes.bind {x : Act α} {f : α → Act β} (hx : Probes x) (hf : ∀ a, Probes (f a)) :
    Probes (x >>= f) := by
  intro w
  obtain ⟨a, m, xs, h⟩ := hx w
  obtain ⟨b, m', ys, h'⟩ := hf a (w.extend m xs [])
  refine ⟨b, m', xs ++ ys, ?_⟩
  rw [StateT.run_bind, h]
  simpa using h'

theorem Probes.forIn (xs : List α) (b : σ) (g : α → σ → Act (ForInStep σ))
    (hg : ∀ a b, Probes (g a b)) : Probes (forIn xs b g) := by
  induction xs generalizing b with
  | nil => exact .pure _
  | cons x xs ih =>
    rw [List.forIn_cons]
    refine .bind (hg x b) fun r => ?_
    cases r with
    | done b => exact .pure _
    | yield b => exact ih b

theorem Reads.probes {x : Act α} (hx : Reads x) : Probes x := fun w =>
  let ⟨a, h⟩ := hx w
  ⟨a, w.machine, [], by rw [h, World.extend_nil]⟩

theorem probes_run (c : Command) : Probes (run c) := fun w =>
  let ⟨a, m, h⟩ := run_extend c w
  ⟨a, m, [(c, a)], h⟩

theorem OnRegistry.pure (a : α) : OnRegistry (Pure.pure a : Act α) :=
  fun w => ⟨a, w.registry, w.registryCalls, w.requests, rfl⟩

theorem OnRegistry.bind {x : Act α} {f : α → Act β} (hx : OnRegistry x)
    (hf : ∀ a, OnRegistry (f a)) : OnRegistry (x >>= f) := by
  intro w
  obtain ⟨a, reg, n, rq, h⟩ := hx w
  obtain ⟨b, reg', n', rq', h'⟩ :=
    hf a { w with registry := reg, registryCalls := n, requests := rq }
  exact ⟨b, reg', n', rq', by rw [StateT.run_bind, h]; exact h'⟩

end Act

def RunnerMode.Quiet (r : RunnerMode) (cs : List Command) : Prop :=
  ∀ w c, w.runner = r → c ∈ cs → ((run c).run w).2.machine = w.machine

/-- An action that reads the world and asks the runner only commands of `cs`: its exchanges are
logged, and the machine changes only by what the runner does, not at all when the runner
answers `cs` quietly. -/
def Act.Asks {α : Type} (cs : List Command) (x : Act α) : Prop :=
  ∀ w, ∃ a m xs, x.run w = (a, w.extend m xs []) ∧ (∀ p ∈ xs, p.1 ∈ cs) ∧
    (w.runner.Quiet cs → m = w.machine)

namespace Act

variable {α β σ : Type} {cs : List Command}

theorem Asks.pure (a : α) : Asks cs (Pure.pure a : Act α) :=
  fun w => ⟨a, w.machine, [], by simp, by simp, fun _ => rfl⟩

theorem Asks.bind {x : Act α} {f : α → Act β} (hx : Asks cs x) (hf : ∀ a, Asks cs (f a)) :
    Asks cs (x >>= f) := by
  intro w
  obtain ⟨a, m, xs, h, hxs, hq⟩ := hx w
  obtain ⟨b, m', ys, h', hys, hq'⟩ := hf a (w.extend m xs [])
  refine ⟨b, m', xs ++ ys, ?_, ?_, fun hquiet => ?_⟩
  · rw [StateT.run_bind, h]
    simpa using h'
  · intro p hp
    rcases List.mem_append.mp hp with hp | hp
    · exact hxs p hp
    · exact hys p hp
  · -- the runner is the same after the first action, so it answers quietly for the second too
    rw [hq' hquiet, World.extend_machine, hq hquiet]

theorem Asks.forIn (xs : List α) (b : σ) (g : α → σ → Act (ForInStep σ))
    (hg : ∀ a b, Asks cs (g a b)) : Asks cs (forIn xs b g) := by
  induction xs generalizing b with
  | nil => exact .pure _
  | cons x xs ih =>
    rw [List.forIn_cons]
    refine .bind (hg x b) fun r => ?_
    cases r with
    | done b => exact .pure _
    | yield b => exact ih b

theorem Asks.probes {x : Act α} (hx : Asks cs x) : Probes x := fun w =>
  let ⟨a, m, xs, h, _⟩ := hx w
  ⟨a, m, xs, h⟩

theorem Reads.asks {x : Act α} (hx : Reads x) : Asks cs x := fun w =>
  let ⟨a, h⟩ := hx w
  ⟨a, w.machine, [], by rw [h, World.extend_nil], by simp, fun _ => rfl⟩

theorem asks_run {c : Command} (hc : c ∈ cs) : Asks cs (run c) := by
  intro w
  obtain ⟨a, m, h⟩ := run_extend c w
  refine ⟨a, m, [(c, a)], h, by simpa using hc, fun hquiet => ?_⟩
  have hm := hquiet w c rfl hc
  rwa [h] at hm

end Act

theorem Git.asks_probe {cs : List Command} {c : Command} (hc : c ∈ cs) :
    Act.Asks cs (Git.probe c) :=
  .bind (Act.asks_run hc) fun a => by cases a <;> exact .pure _

def Act.KeepsLocks {α : Type} (x : Act α) : Prop := ∀ w, (x.run w).2.locks = w.locks

namespace Act

variable {α β : Type}

theorem KeepsLocks.pure (a : α) : KeepsLocks (Pure.pure a : Act α) := fun _ => rfl

theorem KeepsLocks.bind {x : Act α} {f : α → Act β} (hx : KeepsLocks x)
    (hf : ∀ a, KeepsLocks (f a)) : KeepsLocks (x >>= f) :=
  fun w => (hf (x.run w).1 (x.run w).2).trans (hx w)

theorem keepsLocks_modify {f : World → World} (hf : ∀ w, (f w).locks = w.locks) :
    KeepsLocks (modify f) := hf

theorem Reads.onMachine {x : Act α} (hx : Reads x) : OnMachine x := fun w =>
  let ⟨a, h⟩ := hx w
  ⟨a, w.machine, h⟩

theorem OnMachine.keepsLocks {x : Act α} (hx : OnMachine x) : KeepsLocks x := fun w => by
  obtain ⟨a, m, h⟩ := hx w
  rw [h]

theorem Probes.keepsLocks {x : Act α} (hx : Probes x) : KeepsLocks x := fun w => by
  obtain ⟨a, m, xs, h⟩ := hx w
  rw [h]
  rfl

theorem Reads.keepsLocks {x : Act α} (hx : Reads x) : KeepsLocks x := hx.onMachine.keepsLocks

end Act

namespace Package

theorem reads_readManifest (dir : String) : Act.Reads (readManifest dir) :=
  .bind (Act.reads_readFile _) fun r => by cases r <;> exact .pure _

theorem reads_readVersion (dir : String) : Act.Reads (readVersion dir) :=
  .bind (reads_readManifest dir) fun _ => .pure _

theorem reads_readName (dir : String) : Act.Reads (readName dir) :=
  .bind (reads_readManifest dir) fun _ => .pure _

theorem reads_isCore (dir : String) : Act.Reads (isCore dir) :=
  .bind (reads_readManifest dir) fun _ => .pure _

theorem reads_lockfileManager (dir : String) : Act.Reads (lockfileManager dir) := by
  unfold lockfileManager
  refine .bind (Act.reads_exists _) fun a => ?_
  cases a
  · refine .bind (Act.reads_exists _) fun b => ?_
    cases b
    · exact .bind (Act.reads_exists _) fun c => by cases c <;> exact .pure _
    · exact .pure _
  · exact .pure _

end Package

end Updater
