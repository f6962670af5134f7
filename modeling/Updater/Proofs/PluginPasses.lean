import Mathlib
import Updater.Proofs.Reconcile

/-! The two passes of the synchronizer that installs plugins with a package manager, record by
record. An install runs the manager's global install command once and, when it succeeds, asks
where the package landed (`Installs`). The sync pass moves each record to the source its channel
wants (`SyncStep`); the update pass installs every registry record it is not told to skip again
(`UpdateStep`). `SyncSteps` and `UpdateSteps` chain the steps over the records in id order, and
every run of a pass is such a chain (`sync_steps`, `updateInstalled_steps`). Read off the chains:
both passes keep the ids, a record the sync pass does not name stays as it was, on `dev` the sync
pass changes nothing but the records, and the update pass reports one outcome for each registry
record it does not skip (`passes_keep_records`). -/

namespace Updater.Plugin

open Config

/-! ### One install -/

def installCommand (m : Manager) (t : Nat) (spec : String) : Command :=
  { program := m.program, args := (m.globalInstallArgs spec).tail, timeoutMs := some t,
    context := some "plugin install" }

@[simp] theorem installCommand_argv (m : Manager) (t : Nat) (spec : String) :
    (installCommand m t spec).argv = m.globalInstallArgs spec := by
  cases m <;> rfl

/-- Why an install failed, read off the runner's answer to the install command; none when it
succeeded. -/
def installError : Answer → Option String
  | .ok out =>
    if out.success then none else some ((firstLine out.stderr).getD ("exit code " ++ codeText out.code))
  | .error f => some f.fullText

/-- An install of `spec` from `w`: the install command runs once; after a success the manager is
asked where the package landed, after a failure the reason is the answer. -/
inductive Installs (m : Manager) (t : Nat) (spec : String) (w : World) :
    Except String (Option String) → World → Prop
  | landed {a : Answer} {w₁ : World} : (run (installCommand m t spec)).run w = (a, w₁) →
      installError a = none →
      Installs m t spec w (.ok ((m.globalPackageRoot (packageNameOfSpec spec) t).run w₁).1)
        ((m.globalPackageRoot (packageNameOfSpec spec) t).run w₁).2
  | failed {a : Answer} {w₁ : World} {msg : String} : (run (installCommand m t spec)).run w = (a, w₁) →
      installError a = some msg → Installs m t spec w (.error msg) w₁

theorem install_installs (m : Manager) (t : Nat) (spec : String) (w : World) :
    Installs m t spec w ((install m t spec).run w).1 ((install m t spec).run w).2 := by
  have hc : Command.ofArgv? (m.globalInstallArgs spec) =
      some { program := m.program, args := (m.globalInstallArgs spec).tail } := by
    cases m <;> rfl
  generalize ha : (run (installCommand m t spec)).run w = asked
  obtain ⟨a, w₁⟩ := asked
  have hcmd : (({ program := m.program, args := (m.globalInstallArgs spec).tail } : Command).withTimeout
      (some t)).withContext "plugin install" = installCommand m t spec := rfl
  simp only [install, hc, hcmd, StateT.run_bind, ha]
  cases a with
  | error f => exact .failed ha rfl
  | ok out =>
    cases hs : out.success
    · simp [hs]
      exact .failed ha (by simp [installError, hs])
    · simp [hs]
      exact .landed ha (by simp [installError, hs])

/-! ### The sync pass -/

instance : Append SyncSummary where
  append s d := { switchedToBundled := s.switchedToBundled ++ d.switchedToBundled,
                  switchedToNpm := s.switchedToNpm ++ d.switchedToNpm,
                  warnings := s.warnings ++ d.warnings, errors := s.errors ++ d.errors,
                  changed := s.changed || d.changed }

@[simp] theorem SyncSummary.append_eq (s d : SyncSummary) :
    s ++ d = { switchedToBundled := s.switchedToBundled ++ d.switchedToBundled,
               switchedToNpm := s.switchedToNpm ++ d.switchedToNpm,
               warnings := s.warnings ++ d.warnings, errors := s.errors ++ d.errors,
               changed := s.changed || d.changed } := rfl

theorem SyncSummary.empty_append (s : SyncSummary) : {} ++ s = s := by
  cases s
  simp

theorem SyncSummary.append_assoc (s d e : SyncSummary) : s ++ d ++ e = s ++ (d ++ e) := by
  simp [Bool.or_assoc]

/-- What the sync pass on `ch` does to the record `(id, r)` from `w`, the bundled copies lying
under `ext`: what it adds to the summary, the record it leaves and the world after. On `dev` a
registry record whose bundled copy is a directory moves to it, and a bundled record whose
directory is missing is warned about; on a release channel a bundled record is installed from the
registry under its spec, or the default one, and moves there when the install succeeds. -/
inductive SyncStep (m : Manager) (t : Nat) (ext : String) (ch : Channel) (w : World) :
    String × InstallRecord → SyncSummary → InstallRecord → World → Prop
  | toBundled {id : String} {r : InstallRecord} : ch = .dev → r.source = .npm →
      w.machine.isDir (Path.join ext id) = true →
      SyncStep m t ext ch w (id, r) { switchedToBundled := [id] }
        { r with source := .bundled, version := ((Package.readVersion (Path.join ext id)).run w).1,
                 installPath := some (Path.join ext id) } w
  | noBundled {id : String} {r : InstallRecord} : ch = .dev → r.source = .npm →
      w.machine.isDir (Path.join ext id) = false → SyncStep m t ext ch w (id, r) {} r w
  | bundledFound {id : String} {r : InstallRecord} : ch = .dev → r.source = .bundled →
      w.machine.isDir (r.installPath.getD (Path.join ext id)) = true →
      SyncStep m t ext ch w (id, r) {} r w
  | bundledMissing {id : String} {r : InstallRecord} : ch = .dev → r.source = .bundled →
      w.machine.isDir (r.installPath.getD (Path.join ext id)) = false →
      SyncStep m t ext ch w (id, r)
        { warnings := ["bundled plugin " ++ id ++ " not found at " ++ r.installPath.getD (Path.join ext id)] } r w
  | toRegistry {id : String} {r : InstallRecord} {path : Option String} {w₁ : World} :
      ch ≠ .dev → r.source = .bundled → Installs m t (r.spec.getD (defaultSpec id)) w (.ok path) w₁ →
      SyncStep m t ext ch w (id, r) { switchedToNpm := [id] }
        { r with source := .npm, version := ((versionAt path).run w₁).1, installPath := path,
                 spec := some (r.spec.getD (defaultSpec id)) } w₁
  | installFailed {id : String} {r : InstallRecord} {msg : String} {w₁ : World} :
      ch ≠ .dev → r.source = .bundled → Installs m t (r.spec.getD (defaultSpec id)) w (.error msg) w₁ →
      SyncStep m t ext ch w (id, r)
        { errors := [id ++ ": failed to install " ++ r.spec.getD (defaultSpec id) ++ ": " ++ msg] } r w₁
  | registryKept {id : String} {r : InstallRecord} : ch ≠ .dev → r.source = .npm →
      SyncStep m t ext ch w (id, r) {} r w

/-- The sync pass over records in order from `w`: the summary their steps add up to, the records
they leave and the world after the last. -/
inductive SyncSteps (m : Manager) (t : Nat) (ext : String) (ch : Channel) :
    World → List (String × InstallRecord) → SyncSummary → List (String × InstallRecord) → World →
      Prop
  | nil {w : World} : SyncSteps m t ext ch w [] {} [] w
  | cons {w w₁ w₂ : World} {id : String} {r r' : InstallRecord} {d e : SyncSummary}
      {rest rest' : List (String × InstallRecord)} :
      SyncStep m t ext ch w (id, r) d r' w₁ → SyncSteps m t ext ch w₁ rest e rest' w₂ →
      SyncSteps m t ext ch w ((id, r) :: rest) (d ++ e) ((id, r') :: rest') w₂

theorem syncRecord_step (m : Manager) (t : Nat) (ch : Channel) (ext : String) (s : SyncSummary)
    (id : String) (r : InstallRecord) (w : World) :
    ∃ d r' w', (syncRecord m t ch ext s (id, r)).run w = ((s ++ d, r'), w') ∧
      SyncStep m t ext ch w (id, r) d r' w' := by
  obtain ⟨b, n, ws, es, c⟩ := s
  cases hsrc : r.source <;> cases ch
  case npm.dev =>
    cases hd : w.machine.isDir (Path.join ext id)
    · exact ⟨{}, r, w, by simp [syncRecord, hsrc, Act.isDir, Act.machine, hd], .noBundled rfl hsrc hd⟩
    · obtain ⟨v, hv⟩ := Package.reads_readVersion (Path.join ext id) w
      refine ⟨_, _, w, ?_, .toBundled rfl hsrc hd⟩
      simp [syncRecord, hsrc, Act.isDir, Act.machine, hd, hv]
  case bundled.dev =>
    cases hd : w.machine.isDir (r.installPath.getD (Path.join ext id))
    · exact ⟨_, r, w, by simp [syncRecord, hsrc, Act.isDir, Act.machine, hd], .bundledMissing rfl hsrc hd⟩
    · exact ⟨{}, r, w, by simp [syncRecord, hsrc, Act.isDir, Act.machine, hd], .bundledFound rfl hsrc hd⟩
  case bundled.stable | bundled.beta =>
    -- a release channel installs the bundled plugin from the registry
    have hi := install_installs m t (r.spec.getD (defaultSpec id)) w
    generalize hres : (install m t (r.spec.getD (defaultSpec id))).run w = res at hi
    obtain ⟨res, w₁⟩ := res
    cases res with
    | ok path =>
      obtain ⟨v, hv⟩ := reads_versionAt path w₁
      refine ⟨_, _, w₁, ?_, .toRegistry (by decide) hsrc hi⟩
      simp [syncRecord, hsrc, hres, hv]
    | error msg =>
      exact ⟨_, r, w₁, by simp [syncRecord, hsrc, hres], .installFailed (by decide) hsrc hi⟩
  case npm.stable | npm.beta =>
    exact ⟨{}, r, w, by simp [syncRecord, hsrc], .registryKept (by decide) hsrc⟩

theorem syncRecords_steps (m : Manager) (t : Nat) (ch : Channel) (ext : String)
    (rs : List (String × InstallRecord)) (s : SyncSummary) (w : World) :
    ∃ d rs' w', (syncRecords m t ch ext s rs).run w = ((s ++ d, rs'), w') ∧
      SyncSteps m t ext ch w rs d rs' w' := by
  induction rs generalizing s w with
  | nil => exact ⟨{}, [], w, by simp [syncRecords], .nil⟩
  | cons x rest ih =>
    obtain ⟨id, r⟩ := x
    obtain ⟨d, r', w₁, h₁, hstep⟩ := syncRecord_step m t ch ext s id r w
    obtain ⟨e, rest', w₂, h₂, hrest⟩ := ih (s ++ d) w₁
    refine ⟨d ++ e, (id, r') :: rest', w₂, ?_, .cons hstep hrest⟩
    simp only [syncRecords, StateT.run_bind, h₁, id_bind_apply, h₂, SyncSummary.append_assoc]
    rfl

theorem sync_steps {m : Manager} {t : Nat} (c : AppConfig) (ch : Channel) (ws : String) (w : World)
    (hw : w.plugins = .real m t) :
    ∃ d installs w', (sync c ch ws).run w =
        (.ok ({ c with plugins := { c.plugins with installs := installs } },
          { d with changed := !d.switchedToBundled.isEmpty || !d.switchedToNpm.isEmpty }), w') ∧
      SyncSteps m t (Path.join ws "extensions") ch (w.call { syncs := [ch] }) c.plugins.installs d
        installs w' := by
  have hlog :
      (modify fun w : World => { w with syncCalls := w.syncCalls ++ [ch] } : Act Unit).run w =
        ((), w.call { syncs := [ch] }) := by
    simp [World.call]
  have hp : (w.call { syncs := [ch] }).plugins = .real m t := hw
  obtain ⟨d, installs, w', h, hsteps⟩ := syncRecords_steps m t ch (Path.join ws "extensions")
    c.plugins.installs {} (w.call { syncs := [ch] })
  refine ⟨d, installs, w', ?_, hsteps⟩
  simp only [sync, StateT.run_bind, hlog, id_bind_apply, StateT.run_get, id_pure_apply, hp, h,
    SyncSummary.empty_append]
  rfl

namespace SyncStep

variable {m : Manager} {t : Nat} {ext : String} {ch : Channel} {w w' : World} {id : String}
  {r r' : InstallRecord} {d : SyncSummary}

theorem switched_sublist (h : SyncStep m t ext ch w (id, r) d r' w') :
    List.Sublist (d.switchedToBundled ++ d.switchedToNpm) [id] := by
  cases h <;> simp

theorem kept (h : SyncStep m t ext ch w (id, r) d r' w') (hb : id ∉ d.switchedToBundled)
    (hn : id ∉ d.switchedToNpm) : r' = r := by
  cases h <;> simp_all

theorem dev (h : SyncStep m t ext ch w (id, r) d r' w') (hch : ch = .dev) :
    w' = w ∧ d.switchedToNpm = [] ∧
      d.switchedToBundled =
        if r.source = .npm ∧ w.machine.isDir (Path.join ext id) = true then [id] else [] := by
  cases h <;> simp_all

theorem release (h : SyncStep m t ext ch w (id, r) d r' w') (hch : ch ≠ .dev) :
    d.switchedToBundled = [] := by
  cases h <;> simp_all

end SyncStep

namespace SyncSteps

variable {m : Manager} {t : Nat} {ext : String} {ch : Channel} {w w' : World}
  {rs rs' : List (String × InstallRecord)} {d : SyncSummary}

theorem ids (h : SyncSteps m t ext ch w rs d rs' w') : rs'.map Prod.fst = rs.map Prod.fst := by
  induction h with
  | nil => rfl
  | cons _ _ ih => simp [ih]

theorem switched_sublist (h : SyncSteps m t ext ch w rs d rs' w') :
    List.Sublist d.switchedToBundled (rs.map Prod.fst) ∧ List.Sublist d.switchedToNpm (rs.map Prod.fst) := by
  induction h with
  | nil => simp
  | cons hstep _ ih =>
    have hs := hstep.switched_sublist
    simp only [SyncSummary.append_eq, List.map_cons]
    exact ⟨((List.sublist_append_left _ _).trans hs).append ih.1,
      ((List.sublist_append_right _ _).trans hs).append ih.2⟩

theorem frame (h : SyncSteps m t ext ch w rs d rs' w') :
    List.Forall₂ (fun a b => a.1 ∉ d.switchedToBundled → a.1 ∉ d.switchedToNpm → b = a) rs rs' := by
  induction h with
  | nil => exact .nil
  | cons hstep _ ih =>
    refine .cons (fun hb hn => ?_) (ih.imp fun a b hab hb hn => hab ?_ ?_)
    · rw [hstep.kept (fun h => hb ?_) (fun h => hn ?_)] <;> simp [h]
    all_goals
      intro h
      simp_all

theorem dev (h : SyncSteps m t ext ch w rs d rs' w') (hch : ch = .dev) :
    w' = w ∧ d.switchedToNpm = [] ∧
      d.switchedToBundled =
        (rs.filter fun x => x.2.source == .npm && w.machine.isDir (Path.join ext x.1)).map Prod.fst := by
  induction h with
  | nil => simp
  | cons hstep _ ih =>
    obtain ⟨rfl, hn, hb⟩ := hstep.dev hch
    obtain ⟨rfl, hn', hb'⟩ := ih
    refine ⟨rfl, by simp [hn, hn'], ?_⟩
    simp only [SyncSummary.append_eq, hb, hb', List.filter_cons]
    split_ifs <;> simp_all

theorem release (h : SyncSteps m t ext ch w rs d rs' w') (hch : ch ≠ .dev) :
    d.switchedToBundled = [] := by
  induction h with
  | nil => rfl
  | cons hstep _ ih => simp [hstep.release hch, ih]

end SyncSteps

/-! ### The update pass -/

/-- What the update pass does to the record `(id, r)` from `w`, skipping the ids `skip`: the
outcomes it reports, the record it leaves and the world after. A record not from the registry, or
whose id is skipped, is passed over; a registry record without a spec is reported skipped; any
other is installed again under its spec and takes the version found where the package landed (at
its recorded path when the manager does not say) when that version is known and new. -/
inductive UpdateStep (m : Manager) (t : Nat) (skip : List String) (w : World) :
    String × InstallRecord → List Outcome → InstallRecord → World → Prop
  | passed {id : String} {r : InstallRecord} : (r.source = .npm → id ∈ skip) →
      UpdateStep m t skip w (id, r) [] r w
  | noSpec {id : String} {r : InstallRecord} : r.source = .npm → id ∉ skip → r.spec = none →
      UpdateStep m t skip w (id, r) [⟨id, .skipped, some "no registry spec recorded"⟩] r w
  | failed {id spec msg : String} {r : InstallRecord} {w₁ : World} : r.source = .npm →
      id ∉ skip → r.spec = some spec → Installs m t spec w (.error msg) w₁ →
      UpdateStep m t skip w (id, r) [⟨id, .failed, some msg⟩] r w₁
  | updated {id spec v : String} {r : InstallRecord} {path : Option String} {w₁ : World} :
      r.source = .npm → id ∉ skip → r.spec = some spec → Installs m t spec w (.ok path) w₁ →
      ((versionAt (path.or r.installPath)).run w₁).1 = some v → some v ≠ r.version →
      UpdateStep m t skip w (id, r) [⟨id, .updated, none⟩]
        { r with version := some v, installPath := path.or r.installPath } w₁
  | unchanged {id spec : String} {r : InstallRecord} {path : Option String} {w₁ : World} :
      r.source = .npm → id ∉ skip → r.spec = some spec → Installs m t spec w (.ok path) w₁ →
      (((versionAt (path.or r.installPath)).run w₁).1 = none ∨
        ((versionAt (path.or r.installPath)).run w₁).1 = r.version) →
      UpdateStep m t skip w (id, r) [⟨id, .unchanged, none⟩] r w₁

/-- The update pass over records in order from `w`: the outcomes of their steps in order, the
records they leave and the world after the last. -/
inductive UpdateSteps (m : Manager) (t : Nat) (skip : List String) :
    World → List (String × InstallRecord) → List Outcome → List (String × InstallRecord) → World →
      Prop
  | nil {w : World} : UpdateSteps m t skip w [] [] [] w
  | cons {w w₁ w₂ : World} {id : String} {r r' : InstallRecord} {os os' : List Outcome}
      {rest rest' : List (String × InstallRecord)} :
      UpdateStep m t skip w (id, r) os r' w₁ → UpdateSteps m t skip w₁ rest os' rest' w₂ →
      UpdateSteps m t skip w ((id, r) :: rest) (os ++ os') ((id, r') :: rest') w₂

theorem updateRecord_step (m : Manager) (t : Nat) (skip : List String) (id : String)
    (r : InstallRecord) (w : World) :
    ∃ os r' w', (updateRecord m t skip (id, r)).run w = ((os, os.any (·.status == .updated), r'), w') ∧
      UpdateStep m t skip w (id, r) os r' w' := by
  by_cases hpass : r.source = .npm → id ∈ skip
  · have hp : ¬r.source = .npm ∨ id ∈ skip := by
      by_cases hs : r.source = .npm <;> simp_all
    exact ⟨[], r, w, by simp [updateRecord, hp], .passed hpass⟩
  obtain ⟨hsrc, hskip⟩ : r.source = .npm ∧ id ∉ skip := by simpa using hpass
  cases hspec : r.spec with
  | none =>
    refine ⟨_, r, w, ?_, .noSpec hsrc hskip hspec⟩
    -- `simp` leaves the change flag as a comparison of two statuses, which evaluates
    simp [updateRecord, hsrc, hskip, hspec]
    rfl
  | some spec =>
    have hi := install_installs m t spec w
    generalize hres : (install m t spec).run w = res at hi
    obtain ⟨res, w₁⟩ := res
    cases res with
    | error msg =>
      refine ⟨_, r, w₁, ?_, .failed hsrc hskip hspec hi⟩
      simp [updateRecord, hsrc, hskip, hspec, hres]
      rfl
    | ok path =>
      -- the version is read where the package landed, which only reads the world
      obtain ⟨v, hv⟩ := reads_versionAt (path.or r.installPath) w₁
      cases v with
      | none =>
        refine ⟨_, r, w₁, ?_, .unchanged hsrc hskip hspec hi (.inl (by rw [hv]))⟩
        simp [updateRecord, hsrc, hskip, hspec, hres, hv]
        rfl
      | some v =>
        by_cases hne : some v = r.version
        · refine ⟨_, r, w₁, ?_, .unchanged hsrc hskip hspec hi (.inr (by rw [hv, hne]))⟩
          simp [updateRecord, hsrc, hskip, hspec, hres, hv, hne]
          rfl
        · refine ⟨_, _, w₁, ?_, .updated hsrc hskip hspec hi (by rw [hv]) hne⟩
          simp [updateRecord, hsrc, hskip, hspec, hres, hv, hne]

theorem updateRecords_steps (m : Manager) (t : Nat) (skip : List String)
    (rs : List (String × InstallRecord)) (w : World) :
    ∃ outs rs' w', (updateRecords m t skip rs).run w =
        ((outs, outs.any (·.status == .updated), rs'), w') ∧ UpdateSteps m t skip w rs outs rs' w' := by
  induction rs generalizing w with
  | nil => exact ⟨[], [], w, rfl, .nil⟩
  | cons x rest ih =>
    obtain ⟨id, r⟩ := x
    obtain ⟨os, r', w₁, h₁, hstep⟩ := updateRecord_step m t skip id r w
    obtain ⟨os', rest', w₂, h₂, hrest⟩ := ih w₁
    refine ⟨os ++ os', (id, r') :: rest', w₂, ?_, .cons hstep hrest⟩
    simp only [updateRecords, StateT.run_bind, h₁, id_bind_apply, h₂, List.any_append]
    rfl

theorem updateInstalled_steps {m : Manager} {t : Nat} (c : AppConfig) (skip : List String)
    (w : World) (hw : w.plugins = .real m t) :
    ∃ outs installs w', (updateInstalled c skip).run w =
        (.ok ({ c with plugins := { c.plugins with installs := installs } }, outs,
          outs.any (·.status == .updated)), w') ∧
      UpdateSteps m t skip (w.call { skips := [skip] }) c.plugins.installs outs installs w' := by
  have hlog : (modify fun w : World => { w with skipIdsSeen := w.skipIdsSeen ++ [skip] } :
      Act Unit).run w = ((), w.call { skips := [skip] }) := by
    simp [World.call]
  have hp : (w.call { skips := [skip] }).plugins = .real m t := hw
  obtain ⟨outs, installs, w', h, hsteps⟩ :=
    updateRecords_steps m t skip c.plugins.installs (w.call { skips := [skip] })
  refine ⟨outs, installs, w', ?_, hsteps⟩
  simp only [updateInstalled, StateT.run_bind, hlog, id_bind_apply, StateT.run_get, id_pure_apply,
    hp, h]
  rfl

namespace UpdateStep

variable {m : Manager} {t : Nat} {skip : List String} {w w' : World} {id : String}
  {r r' : InstallRecord} {os : List Outcome}

theorem outcome_ids (h : UpdateStep m t skip w (id, r) os r' w') :
    os.map Outcome.id = if r.source = .npm ∧ id ∉ skip then [id] else [] := by
  cases h with
  | passed hp =>
    by_cases hs : r.source = .npm <;> simp_all
  | _ => simp_all

theorem kept (h : UpdateStep m t skip w (id, r) os r' w') :
    r' = r ∨ os = [⟨id, .updated, none⟩] ∧
      r' = { r with version := r'.version, installPath := r'.installPath } := by
  cases h <;> simp

end UpdateStep

namespace UpdateSteps

variable {m : Manager} {t : Nat} {skip : List String} {w w' : World}
  {rs rs' : List (String × InstallRecord)} {outs : List Outcome}

theorem ids (h : UpdateSteps m t skip w rs outs rs' w') : rs'.map Prod.fst = rs.map Prod.fst := by
  induction h with
  | nil => rfl
  | cons _ _ ih => simp [ih]

theorem outcome_ids (h : UpdateSteps m t skip w rs outs rs' w') :
    outs.map Outcome.id =
      (rs.filter fun x => x.2.source == .npm && !skip.contains x.1).map Prod.fst := by
  induction h with
  | nil => rfl
  | cons hstep _ ih =>
    rw [List.map_append, hstep.outcome_ids, ih, List.filter_cons]
    split_ifs <;> simp_all

theorem frame (h : UpdateSteps m t skip w rs outs rs' w') :
    List.Forall₂ (fun a b => b = a ∨ ⟨a.1, .updated, none⟩ ∈ outs ∧
      b = (a.1, { a.2 with version := b.2.version, installPath := b.2.installPath })) rs rs' := by
  induction h with
  | nil => exact .nil
  | cons hstep _ ih =>
    refine .cons ?_ (ih.imp fun a b hab => hab.imp_right fun hu => ⟨by simp [hu.1], hu.2⟩)
    rcases hstep.kept with hr | ⟨ho, hr⟩
    · exact .inl (by rw [hr])
    · exact .inr ⟨by simp [ho], by rw [← hr]⟩

end UpdateSteps

/-! ### Both passes -/

/-- What a sync pass on `ch` from `w` did to the records `rs`, the bundled copies lying under
`ext`: the summary `d` its steps add up to, and the records `rs'` and world `w'` it left. -/
structure SyncPass (m : Manager) (t : Nat) (ext : String) (ch : Channel) (w : World)
    (rs : List (String × InstallRecord)) (d : SyncSummary) (rs' : List (String × InstallRecord))
    (w' : World) : Prop where
  steps : SyncSteps m t ext ch w rs d rs' w'
  ids : rs'.map Prod.fst = rs.map Prod.fst
  frame : List.Forall₂ (fun a b => a.1 ∉ d.switchedToBundled → a.1 ∉ d.switchedToNpm → b = a) rs rs'
  bundled_sublist : List.Sublist d.switchedToBundled (rs.map Prod.fst)
  npm_sublist : List.Sublist d.switchedToNpm (rs.map Prod.fst)
  one_list : d.switchedToBundled = [] ∨ d.switchedToNpm = []
  dev : ch = .dev → w' = w ∧
    d.switchedToBundled =
      (rs.filter fun x => x.2.source == .npm && w.machine.isDir (Path.join ext x.1)).map Prod.fst

theorem SyncSteps.pass {m : Manager} {t : Nat} {ext : String} {ch : Channel} {w w' : World}
    {rs rs' : List (String × InstallRecord)} {d : SyncSummary}
    (h : SyncSteps m t ext ch w rs d rs' w') : SyncPass m t ext ch w rs d rs' w' := by
  have hone : d.switchedToBundled = [] ∨ d.switchedToNpm = [] := by
    by_cases hch : ch = .dev
    · exact .inr (h.dev hch).2.1
    · exact .inl (h.release hch)
  exact ⟨h, h.ids, h.frame, h.switched_sublist.1, h.switched_sublist.2, hone,
    fun hch => ⟨(h.dev hch).1, (h.dev hch).2.2⟩⟩

/-- What an update pass from `w`, skipping `skip`, did to the records `rs`: the outcomes `outs`
its steps report, and the records `rs'` and world `w'` it left. -/
structure UpdatePass (m : Manager) (t : Nat) (skip : List String) (w : World)
    (rs : List (String × InstallRecord)) (outs : List Outcome) (rs' : List (String × InstallRecord))
    (w' : World) : Prop where
  steps : UpdateSteps m t skip w rs outs rs' w'
  ids : rs'.map Prod.fst = rs.map Prod.fst
  outcome_ids : outs.map Outcome.id =
    (rs.filter fun x => x.2.source == .npm && !skip.contains x.1).map Prod.fst
  frame : List.Forall₂ (fun a b => b = a ∨ ⟨a.1, .updated, none⟩ ∈ outs ∧
    b = (a.1, { a.2 with version := b.2.version, installPath := b.2.installPath })) rs rs'

theorem UpdateSteps.pass {m : Manager} {t : Nat} {skip : List String} {w w' : World}
    {rs rs' : List (String × InstallRecord)} {outs : List Outcome}
    (h : UpdateSteps m t skip w rs outs rs' w') : UpdatePass m t skip w rs outs rs' w' :=
  ⟨h, h.ids, h.outcome_ids, h.frame⟩

/-- The two passes of the synchronizer that installs with `m`, on any configuration whose records
are in strictly increasing id order. The sync pass is a chain of `SyncStep`s from the world that
logged it and keeps all of the configuration but the records; of those it keeps the ids, leaves
every one it does not name as it was, names them in increasing id order and all in one list, on
`dev` names exactly the registry records whose bundled copy is a directory and changes nothing
else of the world, and reports a change exactly when it names one. The update pass is a chain of
`UpdateStep`s that keeps all but the records and their ids, reports one outcome for each registry
record it does not skip, in id order, changes a record only in the version and path of one it
reports updated, and reports a change exactly when it reports an update. -/
theorem passes_keep_records {m : Manager} {t : Nat} (c : AppConfig) (ch : Channel) (ws : String)
    (skip : List String) (w : World) (hw : w.plugins = .real m t)
    (hsorted : (c.plugins.installs.map Prod.fst).Pairwise (· < ·)) :
    (∃ d installs w', (sync c ch ws).run w =
        (.ok ({ c with plugins := { c.plugins with installs := installs } },
          { d with changed := !d.switchedToBundled.isEmpty || !d.switchedToNpm.isEmpty }), w') ∧
      SyncPass m t (Path.join ws "extensions") ch (w.call { syncs := [ch] }) c.plugins.installs d
        installs w' ∧
      d.switchedToBundled.Pairwise (· < ·) ∧ d.switchedToNpm.Pairwise (· < ·)) ∧
    ∃ outs installs w', (updateInstalled c skip).run w =
        (.ok ({ c with plugins := { c.plugins with installs := installs } }, outs,
          outs.any (·.status == .updated)), w') ∧
      UpdatePass m t skip (w.call { skips := [skip] }) c.plugins.installs outs installs w' := by
  obtain ⟨d, installs, w', hrun, hsteps⟩ := sync_steps c ch ws w hw
  obtain ⟨outs, installs₂, w₂, hrun₂, hsteps₂⟩ := updateInstalled_steps c skip w hw
  have hpass := hsteps.pass
  -- the lists the sync pass names inherit the order of the records
  exact ⟨⟨d, installs, w', hrun, hpass, hsorted.sublist hpass.bundled_sublist,
    hsorted.sublist hpass.npm_sublist⟩, outs, installs₂, w₂, hrun₂, hsteps₂.pass⟩

def twoPlugins : AppConfig :=
  { plugins := { installs := [("a", { source := .bundled }), ("b", { source := .npm, spec := some "b" })] } }

def npmPluginWorld : World := { plugins := .real .npm 1000 }

theorem passes_keep_two_records :
    npmPluginWorld.plugins = .real .npm 1000 ∧
      (twoPlugins.plugins.installs.map Prod.fst).Pairwise (· < ·) ∧
      (∃ d installs w', (sync twoPlugins .stable "/w").run npmPluginWorld =
          (.ok ({ twoPlugins with plugins := { twoPlugins.plugins with installs := installs } },
            { d with changed := !d.switchedToBundled.isEmpty || !d.switchedToNpm.isEmpty }), w') ∧
        SyncPass .npm 1000 (Path.join "/w" "extensions") .stable
          (npmPluginWorld.call { syncs := [.stable] }) twoPlugins.plugins.installs d installs w' ∧
        d.switchedToBundled.Pairwise (· < ·) ∧ d.switchedToNpm.Pairwise (· < ·)) ∧
      ∃ outs installs w', (updateInstalled twoPlugins []).run npmPluginWorld =
          (.ok ({ twoPlugins with plugins := { twoPlugins.plugins with installs := installs } }, outs,
            outs.any (·.status == .updated)), w') ∧
        UpdatePass .npm 1000 [] (npmPluginWorld.call { skips := [[]] }) twoPlugins.plugins.installs
          outs installs w' :=
  ⟨rfl, by decide, passes_keep_records twoPlugins .stable "/w" [] npmPluginWorld rfl (by decide)⟩

end Updater.Plugin
