import Updater.Proofs.DowngradeGate

/-! Every way a run of the engine goes. Up to its plan a run only reads: it loads the
configuration, probes the installation, asks the registry and perhaps the person at the
terminal (`Consulted`). It stops there on an unreadable or refused configuration, at the gate
or at a checkout it cannot use; otherwise it hands what it settled (`Settled`, `Prepares`) to
planning. A plan other than `unsupported` is run under the update lock, taken first
(`Locking`); `unsupported` is run without it (`Planned`). `runUpdate_run` says that every run
is one of these (`EngineRun`). -/

namespace Updater

def World.withFs (w : World) (fs : FileSystem) : World :=
  { w with machine := { w.machine with fs := fs } }

/-! ### The read-only part -/

/-- `w'` is `w` after reading, probing the installation at `root`, asking the registry and
asking questions: the runner was sent detection probes only, and nothing else changed; the
machine not at all when the runner answers those probes quietly. -/
def Consulted (root : String) (w w' : World) : Prop :=
  ∃ m xs reg n rq qs,
    w' = { w.extend m xs [] with
      registry := reg, registryCalls := n, requests := rq, asked := w.asked ++ qs } ∧
    (∀ p ∈ xs, p.1 ∈ detectionProbes root statusTimeoutMs) ∧
    (w.runner.Quiet (detectionProbes root statusTimeoutMs) → m = w.machine)

namespace Consulted

variable {root : String} {w w₁ : World}

theorem refl (root : String) (w : World) : Consulted root w w :=
  ⟨w.machine, [], w.registry, w.registryCalls, w.requests, [], by simp [World.extend],
    by simp, fun _ => rfl⟩

theorem of_detect {d : Descriptor} (h : (detect root statusTimeoutMs).run w = (d, w₁)) :
    Consulted root w w₁ := by
  obtain ⟨d', m, xs, hd, hxs, hq⟩ := asks_detect root statusTimeoutMs w
  obtain ⟨-, rfl⟩ := Prod.mk.inj (h.symm.trans hd)
  exact ⟨m, xs, w.registry, w.registryCalls, w.requests, [], by simp [World.extend], hxs, hq⟩

theorem registry (h : Consulted root w w₁) (reg : RegistryMode) (n : Nat) (rq : List String) :
    Consulted root w { w₁ with registry := reg, registryCalls := n, requests := rq } := by
  obtain ⟨m, xs, -, -, -, qs, rfl, hxs, hq⟩ := h
  exact ⟨m, xs, reg, n, rq, qs, rfl, hxs, hq⟩

theorem ask (h : Consulted root w w₁) (q : List String) :
    Consulted root w { w₁ with asked := w₁.asked ++ q } := by
  obtain ⟨m, xs, reg, n, rq, qs, rfl, hxs, hq⟩ := h
  exact ⟨m, xs, reg, n, rq, qs ++ q, by simp, hxs, hq⟩

theorem prompter_eq (h : Consulted root w w₁) : w₁.prompter = w.prompter := by
  obtain ⟨m, xs, reg, n, rq, qs, rfl, -, -⟩ := h
  rfl

end Consulted

/-! ### Planning -/

def Machine.holdsCore (m : Machine) (dir : String) : Bool :=
  match m.readFile (Package.descriptorPath dir) with
  | .ok text => ((Manifest.parse? text).map Manifest.isCore).getD false
  | .error _ => false

theorem Package.isCore_run (dir : String) (w : World) :
    (Package.isCore dir).run w = (w.machine.holdsCore dir, w) := by
  simp only [Package.isCore, Package.readManifest, Machine.holdsCore, Act.readFile, Act.machine,
    StateT.run_bind, StateT.run_get, StateT.run_pure, id_bind_apply, id_pure_apply]
  cases w.machine.readFile (descriptorPath dir) <;> rfl

/-- What the checkout directory of a switch to a checkout is used as, on the machine `m`: a
missing or empty directory is cloned into, one with a `.git` entry holding the core package is
used as it is; anything else is refused. -/
inductive CheckoutChoice (m : Machine) (gitDir : String) : Except Failure CheckoutAction → Prop
  | missing : m.exists? gitDir = false → CheckoutChoice m gitDir (.ok (.clone Git.repositoryUrl))
  | existing : m.exists? gitDir = true → m.exists? (Path.join gitDir ".git") = true →
      m.holdsCore gitDir = true → CheckoutChoice m gitDir (.ok .existing)
  | notCore : m.exists? gitDir = true → m.exists? (Path.join gitDir ".git") = true →
      m.holdsCore gitDir = false → CheckoutChoice m gitDir (.error (.ofUpdate (.gitDirNotCore gitDir)))
  | empty : m.exists? gitDir = true → m.exists? (Path.join gitDir ".git") = false →
      m.fs.readDir m.cwd gitDir = .ok [] → CheckoutChoice m gitDir (.ok (.clone Git.repositoryUrl))
  | notCheckout {n : String} {ns : List String} : m.exists? gitDir = true →
      m.exists? (Path.join gitDir ".git") = false → m.fs.readDir m.cwd gitDir = .ok (n :: ns) →
      CheckoutChoice m gitDir (.error (.ofUpdate (.gitDirNotCheckout gitDir)))
  | unreadable {e : IoError} : m.exists? gitDir = true →
      m.exists? (Path.join gitDir ".git") = false → m.fs.readDir m.cwd gitDir = .error e →
      CheckoutChoice m gitDir (.error (.ofIo e))

theorem planCheckout_run (gitDir : String) (w : World) :
    ∃ r, (planCheckout gitDir).run w = (r, w) ∧ CheckoutChoice w.machine gitDir r := by
  have hcore := Package.isCore_run gitDir w
  -- the directory is looked at in the order the code asks: there, `.git`, its package, its entries
  cases hthere : w.machine.exists? gitDir
  case false =>
    exact ⟨_, by simp [planCheckout, Act.exists?, Act.machine, hthere], .missing hthere⟩
  case true =>
    cases hgit : w.machine.exists? (Path.join gitDir ".git")
    case true =>
      cases hc : w.machine.holdsCore gitDir
      · exact ⟨_, by simp [planCheckout, Git.isCheckout, Act.exists?, Act.machine, hthere, hgit,
          hcore, hc], .notCore hthere hgit hc⟩
      · exact ⟨_, by simp [planCheckout, Git.isCheckout, Act.exists?, Act.machine, hthere, hgit,
          hcore, hc], .existing hthere hgit hc⟩
    case false =>
      cases hdir : w.machine.fs.readDir w.machine.cwd gitDir with
      | error e => exact ⟨_, by simp [planCheckout, Git.isCheckout, Act.exists?, Act.machine,
          hthere, hgit, hdir], .unreadable hthere hgit hdir⟩
      | ok names =>
        cases names with
        | nil => exact ⟨_, by simp [planCheckout, Git.isCheckout, Act.exists?, Act.machine,
            hthere, hgit, hdir], .empty hthere hgit hdir⟩
        | cons n ns => exact ⟨_, by simp [planCheckout, Git.isCheckout, Act.exists?, Act.machine,
            hthere, hgit, hdir], .notCheckout hthere hgit hdir⟩

theorem reads_which (program : String) : Act.Reads (which program) :=
  .bind Act.reads_machine fun _ => by
    unfold Act.Reads
    intro w
    split <;> exact ⟨_, rfl⟩

theorem reads_managerByPresence : Act.Reads managerByPresence := by
  unfold managerByPresence
  refine .bind (.forIn _ _ _ fun m _ => .bind (reads_which _) fun found => ?_) fun r => ?_
  · cases found.isSome <;> exact .pure _
  · obtain ⟨_ | m, _⟩ := r <;> exact .pure _

theorem reads_resolveGlobalManager (known : Option Manager) :
    Act.Reads (resolveGlobalManager known) := by
  unfold resolveGlobalManager
  cases known with
  | some m => exact .pure _
  | none => exact .bind reads_managerByPresence fun _ => .pure _

def packageTargetFor (ch : Channel) (target : Option VersionTarget) : VersionTarget :=
  target.getD ⟨(ch.distTag?).getD Registry.devTag, none⟩

/-- The plans built for a transition from an installation of kind `k`, with channel `ch`, the
target `target` and the machine `m`: a switch to a checkout uses the checkout directory as
`CheckoutChoice` says, a switch to a package installs the target, and staying follows the
kind. -/
inductive Builds (o : Options) (k : InstallKind) (ch : Channel) (target : Option VersionTarget)
    (m : Machine) : KindTransition → Except Failure Plan → Prop
  | switchToGit {r : Except Failure CheckoutAction} (mgr : Manager) :
      CheckoutChoice m o.gitDir r →
      Builds o k ch target m .switchToGit (r.map fun c => .switchToGit o.gitDir c mgr o.root)
  | switchToPackage (mgr : Manager) :
      Builds o k ch target m .switchToPackage
        (.ok (.switchToPackage o.root mgr (packageTargetFor ch target)))
  | git : k = .git → Builds o k ch target m .stay (.ok (.git o.root ch))
  | package (mgr : Manager) : k = .package →
      Builds o k ch target m .stay (.ok (.package o.root mgr (packageTargetFor ch target)))
  | unsupported : k = .unknown → Builds o k ch target m .stay (.ok (.unsupported o.root))

theorem planFor_run (o : Options) (d : Descriptor) (t : KindTransition) (ch : Channel)
    (target : Option VersionTarget) (w : World) :
    ∃ r, (planFor o d t ch target).run w = (r, w) ∧ Builds o d.kind ch target w.machine t r := by
  obtain ⟨mgr, hmgr⟩ := reads_resolveGlobalManager d.manager w
  obtain ⟨mgr', hmgr'⟩ := reads_resolveGlobalManager none w
  cases t with
  | switchToGit =>
    obtain ⟨r, hr, hchoice⟩ := planCheckout_run o.gitDir w
    refine ⟨r.map fun c => .switchToGit o.gitDir c mgr o.root, ?_, .switchToGit mgr hchoice⟩
    cases r <;> simp [planFor, hr, hmgr, Except.map]
  | switchToPackage =>
    exact ⟨_, by simp [planFor, hmgr', packageTargetFor], .switchToPackage mgr'⟩
  | stay =>
    cases hk : d.kind with
    | git => exact ⟨_, by simp [planFor, hk], .git rfl⟩
    | package => exact ⟨_, by simp [planFor, hk, hmgr, packageTargetFor], .package mgr rfl⟩
    | unknown => exact ⟨_, by simp [planFor, hk], .unsupported rfl⟩

/-! ### The lock -/

def Lock.pathIn (stateDir : String) : String := Path.join stateDir lockFileName

/-- Every attempt at the lock in `stateDir` from `w`: making the directory can fail, opening
the file can fail, its inode can be held already, or the lock is taken. -/
inductive Locking (stateDir : String) (w : World) : Except Failure Lock × World → Prop
  | dirFailed {e : IoError} : w.machine.fs.createDirs w.machine.cwd stateDir = .error e →
      Locking stateDir w
        (.error ((Failure.ofIo e).within ("Failed to create state directory: " ++ stateDir)), w)
  | openFailed {fs : FileSystem} {e : IoError} :
      w.machine.fs.createDirs w.machine.cwd stateDir = .ok fs →
      fs.touch w.machine.cwd (Lock.pathIn stateDir) = .error e →
      Locking stateDir w (.error ((Failure.ofIo e).within
        ("Failed to open lock file: " ++ Lock.pathIn stateDir)), w.withFs fs)
  | held {fs fs' : FileSystem} {i : Nat} :
      w.machine.fs.createDirs w.machine.cwd stateDir = .ok fs →
      fs.touch w.machine.cwd (Lock.pathIn stateDir) = .ok (fs', i) → i ∈ w.locks →
      Locking stateDir w (.error (.ofUpdate (.lockHeld (Lock.pathIn stateDir))), w.withFs fs')
  | taken {fs fs' : FileSystem} {i : Nat} :
      w.machine.fs.createDirs w.machine.cwd stateDir = .ok fs →
      fs.touch w.machine.cwd (Lock.pathIn stateDir) = .ok (fs', i) → i ∉ w.locks →
      Locking stateDir w (.ok ⟨Lock.pathIn stateDir, i⟩,
        { w.withFs fs' with locks := w.locks ++ [i] })

theorem Lock.acquire_run (stateDir : String) (w : World) :
    Locking stateDir w ((Lock.acquire stateDir).run w) := by
  have hpath : Lock.pathIn stateDir = Path.join stateDir lockFileName := rfl
  cases hdirs : w.machine.fs.createDirs w.machine.cwd stateDir with
  | error e =>
    have h : (Lock.acquire stateDir).run w = (.error ((Failure.ofIo e).within
        ("Failed to create state directory: " ++ stateDir)), w) := by
      simp [Lock.acquire, Act.changeFs, Act.machine, hdirs]
    exact h ▸ .dirFailed hdirs
  | ok fs =>
    cases htouch : fs.touch w.machine.cwd (Lock.pathIn stateDir) with
    | error e =>
      rw [hpath] at htouch
      have h : (Lock.acquire stateDir).run w = (.error ((Failure.ofIo e).within
          ("Failed to open lock file: " ++ Lock.pathIn stateDir)), w.withFs fs) := by
        simp [Lock.acquire, Act.changeFs, Act.machine, Act.setFs, hdirs, hpath,
          htouch, World.withFs]
      exact h ▸ .openFailed hdirs htouch
    | ok p =>
      obtain ⟨fs', i⟩ := p
      rw [hpath] at htouch
      by_cases hi : i ∈ w.locks
      · have h : (Lock.acquire stateDir).run w =
            (.error (.ofUpdate (.lockHeld (Lock.pathIn stateDir))), w.withFs fs') := by
          simp [Lock.acquire, Act.changeFs, Act.machine, Act.setFs, hdirs, hpath,
            htouch, hi, World.withFs]
        exact h ▸ .held hdirs htouch hi
      · have h : (Lock.acquire stateDir).run w = (.ok ⟨Lock.pathIn stateDir, i⟩,
            { w.withFs fs' with locks := w.locks ++ [i] }) := by
          simp [Lock.acquire, Act.changeFs, Act.machine, Act.setFs, hdirs, hpath,
            htouch, hi, World.withFs]
        exact h ▸ .taken hdirs htouch hi

/-! ### The stages of a run -/

/-- What the read-only part of a run settles for planning: the configuration read, the
installation detected, the target of a package and the notes. -/
structure Settled where
  snap : Config.Snapshot
  d : Descriptor
  target : Option VersionTarget
  notes : List String

namespace Settled

variable (s : Settled) (o : Options)

def transition : KindTransition := KindTransition.ofRequest o.requestedChannel s.d.kind

def targetKind : InstallKind := (s.transition o).targetKind s.d.kind

def channel : Resolution := Resolution.resolve o.requestedChannel s.snap.storedChannel (s.targetKind o)

end Settled

/-- The read-only part of a run from `w` settles `s` and hands it on in `w'`. The configuration
was read as `s.snap`, valid when a channel is asked for, and the installation detected as `s.d`
in `w₁`. A package target was resolved for the effective channel in `w₁` and let through by the
gate after at most one question; any other target kind has no target, and a note when a tag is
given for a checkout. -/
inductive Prepares (store : String) (o : Options) (w : World) : Settled → World → Prop
  | gated {s : Settled} {w₁ w₂ : World} {target : VersionTarget} {fellBack : Bool}
      {qs : List String} :
      ((Config.load store).run w).1 = .ok s.snap → (o.requestedChannel.isSome → s.snap.valid) →
      (detect o.root statusTimeoutMs).run w = (s.d, w₁) → s.targetKind o = .package →
      (resolveTarget o (s.channel o).channel).run w₁ = ((target, fellBack), w₂) →
      s.target = some target → s.notes = [] → qs.length ≤ 1 →
      Prepares store o w s { w₂ with asked := w₂.asked ++ qs }
  | ungated {s : Settled} {w₁ : World} :
      ((Config.load store).run w).1 = .ok s.snap → (o.requestedChannel.isSome → s.snap.valid) →
      (detect o.root statusTimeoutMs).run w = (s.d, w₁) → s.targetKind o ≠ .package →
      s.target = none →
      s.notes = (if s.targetKind o = .git ∧ o.tag.isSome then [gitTagIgnoredNote] else []) →
      Prepares store o w s w₁

theorem Prepares.consulted {store : String} {o : Options} {w w' : World} {s : Settled}
    (h : Prepares store o w s w') : Consulted o.root w w' := by
  cases h with
  | gated _ _ hd _ hres =>
    obtain ⟨a, reg, n, rq, hr⟩ := onRegistry_resolveTarget o _ _
    obtain ⟨-, rfl⟩ := Prod.mk.inj (hres.symm.trans hr)
    exact ((Consulted.of_detect hd).registry reg n rq).ask _
  | ungated _ _ hd => exact Consulted.of_detect hd

/-- Planning gave a plan and the run went on into its locked part: under the lock it took, given
back after, or without one for `unsupported`. The answer is the locked part's. -/
inductive Proceeds (store : String) (o : Options) (s : Settled) (w : World) :
    Except Failure Outcome × World → Prop
  | unlocked {root : String} {r : Except Failure UpdateReport} {w' : World} :
      (planFor o s.d (s.transition o) (s.channel o).channel s.target).run w =
        (.ok (.unsupported root), w) →
      (runLocked store o s.snap (.unsupported root) (s.channel o) s.target s.notes).run w =
        (r, w') →
      Proceeds store o s w (r.map .finished, w')
  | locked {p : Plan} {lock : Lock} {w' w'' : World} {r : Except Failure UpdateReport} :
      (planFor o s.d (s.transition o) (s.channel o).channel s.target).run w = (.ok p, w) →
      (∀ root, p ≠ .unsupported root) → Locking o.stateDir w (.ok lock, w') →
      (runLocked store o s.snap p (s.channel o) s.target s.notes).run w' = (r, w'') →
      Proceeds store o s w (r.map .finished, { w'' with locks := w''.locks.erase lock.inode })

/-- What follows the handover of `s` in `w`: planning fails, the lock cannot be had, or the run
proceeds. -/
inductive Planned (store : String) (o : Options) (s : Settled) (w : World) :
    Except Failure Outcome × World → Prop
  | planFailed {f : Failure} :
      (planFor o s.d (s.transition o) (s.channel o).channel s.target).run w = (.error f, w) →
      Planned store o s w (.error f, w)
  | lockFailed {p : Plan} {f : Failure} {w' : World} :
      (planFor o s.d (s.transition o) (s.channel o).channel s.target).run w = (.ok p, w) →
      (∀ root, p ≠ .unsupported root) → Locking o.stateDir w (.error f, w') →
      Planned store o s w (.error f, w')
  | proceeds {res : Except Failure Outcome × World} : Proceeds store o s w res →
      Planned store o s w res

theorem runPlanned_run (store : String) (o : Options) (s : Settled) (w : World) :
    Planned store o s w ((runPlanned store o s.snap s.d (s.transition o) (s.channel o) s.target
      s.notes).run w) := by
  obtain ⟨r, hr, -⟩ := planFor_run o s.d (s.transition o) (s.channel o).channel s.target w
  cases r with
  | error f =>
    have h : (runPlanned store o s.snap s.d (s.transition o) (s.channel o) s.target s.notes).run w =
        (.error f, w) := by
      simp [runPlanned, hr]
    exact h ▸ .planFailed hr
  | ok p =>
    simp only [runPlanned, StateT.run_bind, hr, id_bind_apply, StateT.run_pure, id_pure_apply]
    split
    next _ root =>
      obtain ⟨r, w', hrun⟩ : ∃ r w', (runLocked store o s.snap (.unsupported root) (s.channel o)
          s.target s.notes).run w = (r, w') := ⟨_, _, rfl⟩
      simp only [StateT.run_bind, hrun, id_bind_apply, StateT.run_pure, id_pure_apply]
      exact .proceeds (.unlocked hr hrun)
    next hnot =>
      -- every other plan takes the lock first
      obtain ⟨acq, w', hacq⟩ : ∃ acq w', (Lock.acquire o.stateDir).run w = (acq, w') :=
        ⟨_, _, rfl⟩
      have hl : Locking o.stateDir w (acq, w') := hacq ▸ Lock.acquire_run o.stateDir w
      cases acq with
      | error f =>
        simp only [StateT.run_bind, hacq, id_bind_apply, StateT.run_pure, id_pure_apply]
        exact .lockFailed hr hnot hl
      | ok lock =>
        obtain ⟨r, w'', hrun⟩ : ∃ r w'', (runLocked store o s.snap p (s.channel o) s.target
            s.notes).run w' = (r, w'') := ⟨_, _, rfl⟩
        simp only [StateT.run_bind, hacq, hrun, id_bind_apply, StateT.run_pure, id_pure_apply,
          Lock.release, StateT.run_modify]
        exact .proceeds (.locked hr hnot hl hrun)

/-- Every way a run of the engine from `w` goes: it stops on a configuration it cannot read, on
an invalid one when a channel is asked for, or at the gate (refused, declined, or failing to read
the answer), having only consulted; or it hands what it settled on to planning. -/
inductive EngineRun (store : String) (o : Options) (w : World) :
    Except Failure Outcome × World → Prop
  | loadFailed {f : Failure} : ((Config.load store).run w).1 = .error f →
      EngineRun store o w (.error f, w)
  | configInvalid {snap : Config.Snapshot} : ((Config.load store).run w).1 = .ok snap →
      o.requestedChannel.isSome = true → snap.valid = false →
      EngineRun store o w (.error (.ofUpdate (.configInvalid snap.path snap.issues)), w)
  | refused {w' : World} {current target reason : String} : Consulted o.root w w' →
      EngineRun store o w (.error (.ofUpdate (.confirmationRequired current target reason)), w')
  | declined {w' : World} : Consulted o.root w w' → EngineRun store o w (.ok .cancelled, w')
  | promptFailed {w' : World} {f : Failure} : Consulted o.root w w' → w.prompter.reply = .error f →
      EngineRun store o w (.error f, w')
  | handedOver {s : Settled} {w' : World} {res : Except Failure Outcome × World} :
      Prepares store o w s w' → Planned store o s w' res → EngineRun store o w res

theorem EngineRun.of_gate {store : String} {o : Options} {w w₁ w₂ : World} {s : Settled}
    {target : VersionTarget} {fellBack : Bool} {current : Option String}
    {res : Except Failure Outcome × World}
    (hload : ((Config.load store).run w).1 = .ok s.snap)
    (hvalid : o.requestedChannel.isSome → s.snap.valid)
    (hd : (detect o.root statusTimeoutMs).run w = (s.d, w₁)) (hpkg : s.targetKind o = .package)
    (hres : (resolveTarget o (s.channel o).channel).run w₁ = ((target, fellBack), w₂))
    (hs : s.target = some target) (hn : s.notes = [])
    (hg : GateOutcome o w₂.prompter current target fellBack w₂
      (fun w => (runPlanned store o s.snap s.d (s.transition o) (s.channel o) s.target
        s.notes).run w) res) :
    EngineRun store o w res := by
  obtain ⟨a, reg, n, rq, hr⟩ := onRegistry_resolveTarget o (s.channel o).channel w₁
  obtain ⟨-, rfl⟩ := Prod.mk.inj (hres.symm.trans hr)
  have hc := (Consulted.of_detect hd).registry reg n rq
  cases hg with
  | unasked =>
    have hp := Prepares.gated hload hvalid hd hpkg hres hs hn
      (show ([] : List String).length ≤ 1 by simp)
    rw [List.append_nil] at hp
    exact .handedOver hp (runPlanned_run store o s _)
  | refused => exact .refused hc
  | declined => exact .declined (hc.ask _)
  | failed _ _ _ _ hr => exact .promptFailed hc (hc.prompter_eq ▸ hr)
  | confirmed =>
    exact .handedOver (Prepares.gated hload hvalid hd hpkg hres hs hn (by simp))
      (runPlanned_run store o s _)

theorem runUpdate_run (store : String) (o : Options) (w : World) :
    EngineRun store o w ((runUpdate store o).run w) := by
  obtain ⟨r, hr⟩ := Config.reads_load store w
  cases r with
  | error f =>
    have h : (runUpdate store o).run w = (.error f, w) := by simp [runUpdate, hr]
    exact h ▸ .loadFailed (by rw [hr])
  | ok snap =>
    by_cases hinv : o.requestedChannel.isSome = true ∧ snap.valid = false
    · have h : (runUpdate store o).run w =
          (.error (.ofUpdate (.configInvalid snap.path snap.issues)), w) := by
        simp [runUpdate, hr, hinv]
      exact h ▸ .configInvalid (by rw [hr]) hinv.1 hinv.2
    have hvalid : o.requestedChannel.isSome = true → snap.valid = true := fun hs => by
      simpa [hs] using hinv
    obtain ⟨d, w₁, hd⟩ : ∃ d w₁, (detect o.root statusTimeoutMs).run w = (d, w₁) := ⟨_, _, rfl⟩
    have hload : ((Config.load store).run w).1 = .ok snap := by rw [hr]
    by_cases hpkg : (KindTransition.ofRequest o.requestedChannel d.kind).targetKind d.kind = .package
    · have h : (runUpdate store o).run w = (runGated store o snap d
          (KindTransition.ofRequest o.requestedChannel d.kind)
          (Resolution.resolve o.requestedChannel snap.storedChannel
            ((KindTransition.ofRequest o.requestedChannel d.kind).targetKind d.kind))).run w₁ := by
        simp [runUpdate, hr, hinv, hd, hpkg]
      rw [h]
      obtain ⟨⟨target, fellBack⟩, w₂, hres⟩ : ∃ a w₂, (resolveTarget o
          (Resolution.resolve o.requestedChannel snap.storedChannel
            ((KindTransition.ofRequest o.requestedChannel d.kind).targetKind d.kind)).channel).run w₁ =
          (a, w₂) := ⟨_, _, rfl⟩
      exact EngineRun.of_gate (s := ⟨snap, d, some target, []⟩) hload hvalid hd hpkg hres rfl rfl
        (runGated_gate store o snap d _ _ _ target fellBack w₁ w₂ rfl hres)
    · have h : (runUpdate store o).run w = (runPlanned store o snap d
          (KindTransition.ofRequest o.requestedChannel d.kind)
          (Resolution.resolve o.requestedChannel snap.storedChannel
            ((KindTransition.ofRequest o.requestedChannel d.kind).targetKind d.kind)) none
          (if (KindTransition.ofRequest o.requestedChannel d.kind).targetKind d.kind = .git ∧
              o.tag.isSome then [gitTagIgnoredNote] else [])).run w₁ := by
        by_cases hg : (KindTransition.ofRequest o.requestedChannel d.kind).targetKind d.kind = .git ∧
            o.tag.isSome <;> simp [runUpdate, hr, hinv, hd, hpkg, hg]
      rw [h]
      exact .handedOver (Prepares.ungated (s := ⟨snap, d, none, _⟩) hload hvalid hd hpkg rfl rfl)
        (runPlanned_run store o _ w₁)

end Updater
