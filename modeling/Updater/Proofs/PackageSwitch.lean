import Updater.Proofs.StepTrace

/-! Where a run of a package plan finds the package it updates. An update in place knows its
root; a switch from a checkout asks the manager for its global root before anything is
installed, and takes the core package under it only when that directory is already there,
staying with the checkout it replaces otherwise (`switchRoot`). Whatever root was chosen, the
run reports it, reads its version again once the steps are done, and starts the doctor from
its entry file (`runPackage_reports`, `switchToPackage_reports`). So a first switch, onto a
machine where the package appears only with the global install, reports the checkout
(`first_switch_keeps_checkout`). -/

namespace Updater.Pipeline

/-- The package a switch to a package install works on: the core package under the global
root the manager reported, when the machine has it at that moment, else the checkout. -/
def switchRoot (reported : Option String) (mach : Machine) (checkout : String) : String :=
  match reported with
  | some g =>
    if mach.exists? (Path.join g Version.corePackage) then Path.join g Version.corePackage
    else checkout
  | none => checkout

def doctorLine (root : String) : String :=
  " ".intercalate (doctorArgv (Path.join (Path.join root "dist") "entry.js"))

/-- What a run of a package plan reports about the package at `root`, in the world `w'` it
ends in: that root, its version read at the end, and a doctor started from its entry file. -/
structure ReportsPackage (root : String) (r : RunResult) (w' : World) : Prop where
  root_eq : r.root = root
  after_eq : r.after = ⟨((Package.readVersion root).run w').1, none⟩
  doctor : ∀ s ∈ r.steps, s.name = "openclaw doctor" → s.command = doctorLine root

theorem argvStep_mem {t : Nat} {n : String} {argv : List String} {cwd : Option String} {s : Step}
    (h : s ∈ (argvStep t n argv cwd).toList) : s.name = n ∧ s.command.line = " ".intercalate argv := by
  simp only [argvStep, Option.mem_toList, Option.map_eq_some_iff] at h
  obtain ⟨c, hc, rfl⟩ := h
  cases argv with
  | nil => simp [Command.ofArgv?] at hc
  | cons p args =>
    simp only [Command.ofArgv?, Option.some.injEq] at hc
    subst hc
    cases cwd <;> exact ⟨rfl, rfl⟩

end Pipeline

theorem RanAll.mem_results {ss xs rs f} (h : RanAll ss xs rs f) {r : StepResult} (hr : r ∈ rs) :
    ∃ s ∈ ss, ∃ a, r = StepResult.ofAnswer s a := by
  induction h with
  | nil => simp at hr
  | failed s a rest _ =>
    rw [List.mem_singleton] at hr
    exact ⟨s, by simp, a, hr⟩
  | next s a _ _ ih =>
    rcases List.mem_cons.mp hr with rfl | hr
    · exact ⟨s, by simp, a, rfl⟩
    · obtain ⟨s', hs', a', rfl⟩ := ih hr
      exact ⟨s', List.mem_cons_of_mem s hs', a', rfl⟩

theorem RanAll.argvStep_result {t : Nat} {n : String} {argv : List String} {cwd : Option String}
    {xs rs f} (h : RanAll (Pipeline.argvStep t n argv cwd).toList xs rs f) {r : StepResult}
    (hr : r ∈ rs) : r.name = n ∧ r.command = " ".intercalate argv := by
  obtain ⟨s, hs, a, rfl⟩ := h.mem_results hr
  obtain ⟨hn, hl⟩ := Pipeline.argvStep_mem hs
  simp [hn, hl]

namespace Pipeline

theorem Updated.doctor_line {t : Nat} {m : Manager} {root spec : String} {xs rs f}
    (h : Updated t m root spec xs rs f) : ∀ r ∈ rs, r.name = "openclaw doctor" → r.command = doctorLine root := by
  intro r hr hn
  cases h with
  | failed hran | noDoctor hran =>
    -- the global update alone ran, and it has a name of its own
    have := (hran.argvStep_result hr).1
    simp [hn] at this
  | doctor hu hd =>
    rcases List.mem_append.mp hr with hr | hr
    · have := (hu.argvStep_result hr).1
      simp [hn] at this
    · exact (hd.argvStep_result hr).2

theorem packageRoot_switch (m : Manager) (checkout : String) (w : World) :
    (packageRoot m none checkout).run w =
      (switchRoot ((m.globalRoot statusTimeoutMs).run w).1
        ((m.globalRoot statusTimeoutMs).run w).2.machine checkout,
        ((m.globalRoot statusTimeoutMs).run w).2) := by
  generalize hg : (m.globalRoot statusTimeoutMs).run w = asked
  obtain ⟨reported, w₁⟩ := asked
  cases reported with
  | none => simp [packageRoot, Manager.globalPackageRoot, hg, switchRoot]
  | some g =>
    -- the package directory is looked for in the world the manager's answer left
    cases hthere : w₁.machine.exists? (Path.join g Version.corePackage) <;>
      simp [packageRoot, Manager.globalPackageRoot, hg, switchRoot, Act.exists?, Act.machine,
        hthere]

theorem runPackage_reports (t : Nat) (known : Option String) (fallback : String) (m : Manager)
    (target : VersionTarget) (w : World) :
    ReportsPackage ((packageRoot m known fallback).run w).1
      ((runPackage t known fallback m target).run w).1
      ((runPackage t known fallback m target).run w).2 := by
  generalize hroot : (packageRoot m known fallback).run w = chosen
  obtain ⟨root, w₁⟩ := chosen
  obtain ⟨name, hn⟩ := Package.reads_readName root w₁
  obtain ⟨before, hb⟩ := Package.reads_readVersion root w₁
  obtain ⟨ux, us, f, m₂, hu, hup⟩ := updateGlobally_run t m root
    (name.getD Version.corePackage ++ "@" ++ target.tag) w₁
  obtain ⟨after, ha⟩ := Package.reads_readVersion root (w₁.extend m₂ ux (StepEvent.ofResults 0 us))
  -- a package run is never skipped, so the snapshot after is taken at the end
  have hrun : (runPackage t known fallback m target).run w =
      ({ status := (outcome (f.map fun n => (.error, n))).1, mode := .ofManager m, root := root,
         reason := (outcome (f.map fun n => (.error, n))).2, before := ⟨before, none⟩,
         after := ⟨after, none⟩, steps := us },
        w₁.extend m₂ ux (StepEvent.ofResults 0 us)) := by
    cases f <;> simp [runPackage, hroot, hn, hb, hu, ha, conclude, snapshot, outcome]
  rw [hrun]
  exact ⟨rfl, by simp [ha], hup.doctor_line⟩

/-- A switch from a checkout to a package install works on `switchRoot` of what the manager
reported: the core package under the global root when it was there before the install, else
the checkout. That is the root it reports, whose version it reads at the end and whose entry
file its doctor starts. -/
theorem switchToPackage_reports (t : Nat) (checkout : String) (m : Manager)
    (target : VersionTarget) (w : World) :
    ReportsPackage
      (switchRoot ((m.globalRoot statusTimeoutMs).run w).1
        ((m.globalRoot statusTimeoutMs).run w).2.machine checkout)
      ((execute t (.switchToPackage checkout m target)).run w).1
      ((execute t (.switchToPackage checkout m target)).run w).2 := by
  have h := runPackage_reports t none checkout m target w
  rw [packageRoot_switch] at h
  exact h

/-- A machine holding the checkout `/c`, with bun's global packages under `BUN_INSTALL=/b`, and a
runner under which every command leaves the core package's directory there. -/
def firstSwitchWorld : World :=
  { machine := { fs := { entries := [(["c"], .dir 0o755)] }, env := [("BUN_INSTALL", "/b")] },
    runner := .scripted [{ pattern := "", effects := [.mkdir "/b/install/global/node_modules/openclaw"] }] }

/-- bun reports its global root, the global update leaves the core package in it, and yet the
switch reports the checkout it replaces. -/
theorem first_switch_keeps_checkout :
    ((Manager.bun.globalRoot statusTimeoutMs).run firstSwitchWorld).1 =
        some "/b/install/global/node_modules" ∧
      ((execute defaultStepTimeoutMs (.switchToPackage "/c" .bun ⟨"latest", none⟩)).run
          firstSwitchWorld).2.machine.exists? "/b/install/global/node_modules/openclaw" = true ∧
      ((execute defaultStepTimeoutMs (.switchToPackage "/c" .bun ⟨"latest", none⟩)).run
          firstSwitchWorld).1.root = "/c" := by
  refine ⟨by decide +kernel, by decide +kernel, ?_⟩
  rw [(switchToPackage_reports _ _ _ _ _).root_eq]
  decide +kernel

end Updater.Pipeline
