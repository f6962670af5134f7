import Updater.Proofs.DowngradeGate

/-! How an installation is recognised. A root is a checkout when it holds a `.git` entry and
its `package.json` reads as a descriptor naming the core package (`CoreCheckout`). Otherwise the
managers are asked in turn, npm, pnpm then bun, where their global packages are (`Reported`),
and the first whose global root is the root's parent, once both are resolved on the machine as
it is after that manager answered, owns it (`Owner`). `detect_classifies` says every detection
is one of the three outcomes of `Detected` and sends the runner only its probes.

A descriptor is read strictly: JSON whose version is a number names nothing, so a checkout whose
`package.json` is such JSON is not recognised (`numeric_version_checkout_unknown`). -/

namespace Updater

/-- A checkout of the core package: a `.git` entry, beside a `package.json` that reads as a
descriptor naming the core package. -/
def CoreCheckout (mach : Machine) (root : String) : Prop :=
  mach.exists? (Path.join root ".git") = true ∧
    ∃ text d, mach.readFile (Package.descriptorPath root) = .ok text ∧ Manifest.parse? text = some d ∧
      d.name = some Version.corePackage

/-- Whether two paths name the same place on a machine: their real paths are the same path, a
path that does not resolve standing for itself. -/
def sameDir (mach : Machine) (a b : String) : Bool :=
  Path.same ((mach.fs.canonical? mach.cwd a).getD a) ((mach.fs.canonical? mach.cwd b).getD b)

/-- Where bun keeps its global packages: under `BUN_INSTALL` when it is set and not empty, else
under `~/.bun`. -/
def bunRoot (mach : Machine) : String :=
  let base := ((mach.getEnv? "BUN_INSTALL").filter (!·.isEmpty)).getD (Path.join mach.home ".bun")
  Path.join (Path.join (Path.join base "install") "global") "node_modules"

def rootQuery (m : Manager) (t : Nat) : Command :=
  { program := m.program, args := ["root", "-g"], timeoutMs := some t }

/-- What a manager reports as its global root when asked from `w`, and the world after: npm and
pnpm answer `root -g`, bun is not asked. -/
inductive Reported (t : Nat) : Manager → World → Option String → World → Prop
  | query {m : Manager} {w : World} : m ≠ .bun →
      Reported t m w (probeValue ((run (rootQuery m t)).run w).1) ((run (rootQuery m t)).run w).2
  | bun {w : World} : Reported t .bun w (some (bunRoot w.machine)) w

def Holds (root : String) (mach : Machine) (reported : Option String) : Prop :=
  ∃ g p, reported = some g ∧ Path.parent? root = some p ∧ sameDir mach p g = true

/-- The managers `ms` asked in turn from `w`, until one's global root holds `root`: that
manager, if any, and the world left. -/
inductive Owner (root : String) (t : Nat) : List Manager → World → Option Manager → World → Prop
  | nobody {w : World} : Owner root t [] w none w
  | found {m : Manager} {ms : List Manager} {w w₁ : World} {g : Option String} :
      Reported t m w g w₁ → Holds root w₁.machine g → Owner root t (m :: ms) w (some m) w₁
  | next {m : Manager} {ms : List Manager} {w w₁ w₂ : World} {g : Option String}
      {r : Option Manager} :
      Reported t m w g w₁ → ¬ Holds root w₁.machine g → Owner root t ms w₁ r w₂ →
      Owner root t (m :: ms) w r w₂

inductive Detected (root : String) (t : Nat) (w : World) : Descriptor → World → Prop
  | git : CoreCheckout w.machine root →
      Detected root t w { kind := .git, root := root, git := some ((Git.readInfo root t).run w).1 }
        ((Git.readInfo root t).run w).2
  | package {m : Manager} {w' : World} : ¬ CoreCheckout w.machine root →
      Owner root t Manager.all w (some m) w' →
      Detected root t w { kind := .package, root := root, manager := some m } w'
  | unknown {w' : World} : ¬ CoreCheckout w.machine root → Owner root t Manager.all w none w' →
      Detected root t w { kind := .unknown, root := root } w'

theorem probeValue_eq_some_iff (a : Answer) (v : String) :
    probeValue a = some v ↔ ∃ o, a = .ok o ∧ o.success = true ∧ Text.trim o.stdout = v ∧ v ≠ "" := by
  cases a with
  | error f => simp [probeValue]
  | ok o =>
    simp only [probeValue, Output.stdoutTrimmed?, Except.ok.injEq, exists_eq_left']
    cases hs : o.success
    · simp
    · by_cases he : Text.trim o.stdout = ""
      · simp only [he, String.isEmpty_iff, ↓reduceIte, reduceCtorEq, false_iff, not_and]
        exact fun _ h hv => hv h.symm
      · have hne : (Text.trim o.stdout).isEmpty = false := by simpa [String.isEmpty_iff] using he
        simp only [hne, Bool.false_eq_true, ↓reduceIte, Option.some.injEq, true_and]
        exact ⟨fun h => ⟨h, h ▸ he⟩, fun h => h.1⟩

theorem Manager.globalRoot_query {m : Manager} (hm : m ≠ .bun) (t : Nat) (w : World) :
    (m.globalRoot t).run w =
      (probeValue ((run (rootQuery m t)).run w).1, ((run (rootQuery m t)).run w).2) := by
  cases m with
  | bun => exact absurd rfl hm
  | npm | pnpm =>
    simp only [Manager.globalRoot, rootQuery, StateT.run_bind]
    generalize (run _).run w = asked
    obtain ⟨a, w₁⟩ := asked
    cases a <;> rfl

theorem Manager.bun_globalRoot (t : Nat) (w : World) :
    (Manager.bun.globalRoot t).run w = (some (bunRoot w.machine), w) := by
  cases he : w.machine.getEnv? "BUN_INSTALL" with
  | none => simp [Manager.globalRoot, Act.getEnv?, Act.machine, bunRoot, he]
  | some d =>
    by_cases hd : d = ""
    · subst hd
      simp [Manager.globalRoot, Act.getEnv?, Act.machine, bunRoot, he, Option.filter]
    · simp [Manager.globalRoot, Act.getEnv?, Act.machine, bunRoot, he, hd, Option.filter]

theorem Manager.reported_globalRoot (m : Manager) (t : Nat) (w : World) :
    Reported t m w ((m.globalRoot t).run w).1 ((m.globalRoot t).run w).2 := by
  by_cases hm : m = .bun
  · subst hm
    rw [Manager.bun_globalRoot]
    exact .bun
  · -- npm and pnpm are asked through the runner; a failure to answer reports nothing
    rw [Manager.globalRoot_query hm]
    exact .query hm

theorem samePath_run (a b : String) (w : World) :
    (samePath a b).run w = (sameDir w.machine a b, w) := by
  simp [samePath, Act.machine, sameDir]

theorem Owner.of_forIn (root : String) (t : Nat)
    (g : Manager → Option (Option Manager) × Unit → Act (ForInStep (Option (Option Manager) × Unit)))
    (hg : ∀ m s w, ∃ r w₁, Reported t m w r w₁ ∧
      ((g m s).run w = (.done (some (some m), ()), w₁) ∧ Holds root w₁.machine r ∨
        (g m s).run w = (.yield (none, ()), w₁) ∧ ¬ Holds root w₁.machine r))
    (k : Option (Option Manager) × Unit → Act (Option Manager))
    (hk : ∀ s w, (k s).run w = (s.1.join, w)) (ms : List Manager) (w : World) :
    Owner root t ms w ((forIn ms (none, ()) g >>= k).run w).1 ((forIn ms (none, ()) g >>= k).run w).2 := by
  induction ms generalizing w with
  | nil =>
    simp only [List.forIn_nil, StateT.run_bind, StateT.run_pure, hk, id_bind_apply]
    exact .nobody
  | cons m ms ih =>
    obtain ⟨r, w₁, hrep, ⟨hrun, hholds⟩ | ⟨hrun, hnot⟩⟩ := hg m (none, ()) w
    · simpa [List.forIn_cons, hrun, hk] using (Owner.found hrep hholds : Owner root t (m :: ms) w _ _)
    · have hrest := ih w₁
      simp only [StateT.run_bind, id_bind_apply] at hrest
      simpa [List.forIn_cons, hrun] using Owner.next hrep hnot hrest

theorem managerForRoot_owner (root : String) (t : Nat) (w : World) :
    Owner root t Manager.all w ((managerForRoot root t).run w).1 ((managerForRoot root t).run w).2 := by
  unfold managerForRoot
  refine Owner.of_forIn root t _ (fun m s w => ?_) _ (fun s w => ?_) Manager.all w
  · have hrep := m.reported_globalRoot t w
    generalize hx : (m.globalRoot t).run w = asked at hrep
    obtain ⟨r, w₁⟩ := asked
    refine ⟨r, w₁, hrep, ?_⟩
    -- the manager holds the package only when it reported a root and the root has a parent
    cases r with
    | none =>
      refine .inr ⟨by simp [hx], ?_⟩
      rintro ⟨_, _, h, _⟩
      cases h
    | some g =>
      cases hp : Path.parent? root with
      | none =>
        refine .inr ⟨by simp [hx], ?_⟩
        rintro ⟨_, _, _, h, _⟩
        simp [hp] at h
      | some p =>
        by_cases hs : sameDir w₁.machine p g = true
        · exact .inl ⟨by simp [hx, samePath_run, hs], g, p, rfl, hp, hs⟩
        · refine .inr ⟨by simp [hx, samePath_run, hs], ?_⟩
          rintro ⟨g', p', hg', hp', hs'⟩
          obtain rfl := Option.some.inj hg'
          obtain rfl := Option.some.inj (hp'.symm.trans hp)
          exact hs hs'
  · obtain ⟨_ | _, ⟨⟩⟩ := s <;> rfl

theorem isCheckout_isCore_iff (root : String) (w : World) :
    (((Git.isCheckout root).run w).1 && ((Package.isCore root).run w).1) = true ↔
      CoreCheckout w.machine root := by
  cases hr : w.machine.readFile (Package.descriptorPath root) with
  | error e =>
    simp [Git.isCheckout, Act.exists?, Act.machine, Package.isCore, Package.readManifest,
      Act.readFile, CoreCheckout, hr]
  | ok text =>
    cases hp : Manifest.parse? text with
    | none =>
      simp [Git.isCheckout, Act.exists?, Act.machine, Package.isCore, Package.readManifest,
        Act.readFile, CoreCheckout, hr, hp]
    | some d =>
      simp [Git.isCheckout, Act.exists?, Act.machine, Package.isCore, Package.readManifest,
        Act.readFile, CoreCheckout, hr, hp, Manifest.isCore]

theorem detect_detected (root : String) (t : Nat) (w : World) :
    Detected root t w ((detect root t).run w).1 ((detect root t).run w).2 := by
  have hcore := isCheckout_isCore_iff root w
  obtain ⟨c, hc⟩ := Act.reads_exists (Path.join root ".git") w
  obtain ⟨k, hk⟩ := Package.reads_isCore root w
  simp only [Git.isCheckout, hc, hk] at hcore
  by_cases h : CoreCheckout w.machine root
  · obtain ⟨rfl, rfl⟩ := Bool.and_eq_true_iff.mp (hcore.mpr h)
    simpa [detect, Git.isCheckout, hc, hk] using Detected.git (t := t) h
  · -- not a checkout of the core package: the managers are asked
    have hck : ¬ (c = true ∧ k = true) := by simpa using mt hcore.mp h
    have hown := managerForRoot_owner root t w
    generalize hm : (managerForRoot root t).run w = found at hown
    obtain ⟨_ | m, w'⟩ := found
    · simpa [detect, Git.isCheckout, hc, hk, hck, hm] using Detected.unknown h hown
    · simpa [detect, Git.isCheckout, hc, hk, hck, hm] using Detected.package h hown

theorem Detected.kind_eq_git_iff {root : String} {t : Nat} {w w' : World} {d : Descriptor}
    (h : Detected root t w d w') : d.kind = .git ↔ CoreCheckout w.machine root := by
  cases h with
  | git hc => simp [hc]
  | package hc _ => simp [hc]
  | unknown hc _ => simp [hc]

/-- Detection is one of the outcomes `Detected` describes, a checkout exactly when the root is
a checkout of the core package, and it sends the runner only its probes: the three questions to
a checkout, or npm's and pnpm's global roots. -/
theorem detect_classifies (root : String) (t : Nat) (w : World) :
    Detected root t w ((detect root t).run w).1 ((detect root t).run w).2 ∧
      (((detect root t).run w).1.kind = .git ↔ CoreCheckout w.machine root) ∧
      ∃ M xs, ((detect root t).run w).2 = w.extend M xs [] ∧
        (∀ x ∈ xs, x.1 ∈ detectionProbes root t) ∧
        (w.runner.Quiet (detectionProbes root t) → M = w.machine) := by
  have hd := detect_detected root t w
  obtain ⟨d, M, xs, hrun, hxs, hq⟩ := asks_detect root t w
  exact ⟨hd, hd.kind_eq_git_iff, M, xs, by rw [hrun], hxs, hq⟩

/-- The descriptor text of `numericVersionWorld`: JSON naming the core package, with a number
for its version. -/
def numericVersionText : String := "\x7b\"name\": \"openclaw\", \"version\": 2\x7d"

def numericVersionWorld : World :=
  { machine := { fs := { entries := [(["r"], .dir 0o755), (["r", ".git"], .dir 0o755),
      (["r", "package.json"], .file numericVersionText 0o644 1)], nextInode := 2 } } }

/-- A `.git` entry beside JSON whose `name` is the core package's, yet the root is unknown. -/
theorem numeric_version_checkout_unknown :
    numericVersionWorld.machine.exists? "/r/.git" = true ∧
      (numericVersionWorld.machine.readFile "/r/package.json").toOption = some numericVersionText ∧
      ((Json.parse? numericVersionText).bind (·.get? "name")).map Json.render = some "\"openclaw\"" ∧
      ((detect "/r" statusTimeoutMs).run numericVersionWorld).1.kind = .unknown :=
  ⟨by decide +kernel, by decide +kernel, by decide +kernel, by decide +kernel⟩

end Updater
