import Updater.Proofs.EngineRun
import Updater.Proofs.DocumentReading

/-! A run that stops before it stores its channel has changed nothing that matters. Up to the
gate and the plan a run only consults (`Consulted`): it sends the detection probes, asks the
registry and perhaps the person at the terminal. A lock it could not take has at most made the
state directory and the empty lock file, which keeps every entry of the file system as it was
(`FileSystem.Grows`). `runUpdate_early_stop` says that every run either stops so (`EarlyStop`)
or proceeds into its locked part. -/

namespace Updater

/-! ### A file system that only grew -/

namespace FileSystem

def Grows (fs fs' : FileSystem) : Prop := ∀ loc n, fs.find? loc = some n → fs'.find? loc = some n

theorem Grows.refl (fs : FileSystem) : fs.Grows fs := fun _ _ h => h

theorem Grows.trans {fs₁ fs₂ fs₃ : FileSystem} (h₁ : fs₁.Grows fs₂) (h₂ : fs₂.Grows fs₃) :
    fs₁.Grows fs₃ := fun loc n h => h₂ loc n (h₁ loc n h)

theorem find?_put_of_ne (fs : FileSystem) {loc loc' : Location} (n : Node) (h : loc' ≠ loc) :
    (fs.put loc n).find? loc' = fs.find? loc' := by
  unfold find? put
  split
  · rfl
  · rw [List.find?_cons_of_neg (by simpa using Ne.symm h), List.find?_filter]
    congr 2
    funext e
    by_cases he : e.1 = loc' <;> simp [he, h]

theorem Grows.put {fs : FileSystem} {loc : Location} (n : Node) (h : fs.find? loc = none) :
    fs.Grows (fs.put loc n) := by
  intro loc' n' h'
  have hne : loc' ≠ loc := by
    rintro rfl
    rw [h] at h'
    cases h'
  rwa [find?_put_of_ne fs n hne]

theorem mkdir_grows {fs fs' : FileSystem} {cwd p : String} {mode : Nat}
    (h : fs.mkdir cwd p mode = .ok fs') : fs.Grows fs' := by
  unfold mkdir at h
  obtain ⟨loc, -, h⟩ := except_bind_eq_ok h
  split at h
  · cases h
  · next hnone =>
    cases h
    exact .put _ hnone

theorem createDirAll_grows {fs fs' : FileSystem} {cwd : String} :
    ∀ {fuel : Nat} {p : String}, fs.createDirAll cwd fuel p = .ok fs' → fs.Grows fs'
  | 0, _, h => by simp [createDirAll] at h
  | fuel + 1, p, h => by
    unfold createDirAll at h
    -- a directory already there is kept, a new one is made where nothing was; the parents first
    split at h
    · cases h
      exact .refl fs
    split at h
    · next hmk => cases h; exact mkdir_grows hmk
    split at h
    · cases h
      exact .refl fs
    split at h
    · cases h
    split at h
    · cases h
    next _ q _ =>
    obtain ⟨fs₁, hq, h⟩ := except_bind_eq_ok h
    have h₁ : fs.Grows fs₁ := createDirAll_grows hq
    split at h
    · next hmk => cases h; exact h₁.trans (mkdir_grows hmk)
    split at h
    · cases h
      exact h₁
    · cases h

theorem touch_grows {fs fs' : FileSystem} {cwd p : String} {i : Nat}
    (h : fs.touch cwd p = .ok (fs', i)) : fs.Grows fs' := by
  unfold touch at h
  obtain ⟨loc, -, h⟩ := except_bind_eq_ok h
  split at h
  · cases h
  split at h
  · cases h
  · cases h
    exact .refl fs
  · next hnone =>
    cases h
    exact .put _ hnone

theorem createDirs_grows {fs fs' : FileSystem} {cwd p : String}
    (h : fs.createDirs cwd p = .ok fs') : fs.Grows fs' := createDirAll_grows h

/-! What could be read before can be read the same way after. -/

/-- Every directory of `fs` is a directory of `fs'`, its mode perhaps changed: a path is looked
up only through directories, so what resolved before resolves the same way after. -/
def KeepsDirs (fs fs' : FileSystem) : Prop :=
  ∀ loc m, fs.find? loc = some (.dir m) → ∃ m', fs'.find? loc = some (.dir m')

theorem Grows.keepsDirs {fs fs' : FileSystem} (h : fs.Grows fs') : fs.KeepsDirs fs' :=
  fun loc m hm => ⟨m, h loc _ hm⟩

theorem KeepsDirs.refl (fs : FileSystem) : fs.KeepsDirs fs := fun _ m h => ⟨m, h⟩

theorem KeepsDirs.trans {fs₁ fs₂ fs₃ : FileSystem} (h₁ : fs₁.KeepsDirs fs₂) (h₂ : fs₂.KeepsDirs fs₃) :
    fs₁.KeepsDirs fs₃ := fun loc m hm =>
  let ⟨m', hm'⟩ := h₁ loc m hm
  h₂ loc m' hm'

theorem KeepsDirs.walk {fs fs' : FileSystem} (h : fs.KeepsDirs fs') :
    ∀ {here : Location} {ss : List String} {loc : Location},
      fs.walk here ss = .ok loc → fs'.walk here ss = .ok loc
  | _, [], _, hw => hw
  | here, s :: rest, loc, hw => by
    unfold FileSystem.walk at hw ⊢
    cases hf : fs.find? here with
    | none => simp [hf] at hw
    | some n =>
      rw [hf] at hw
      cases n with
      | file => simp at hw
      | dir m =>
        obtain ⟨m', hm'⟩ := h here m hf
        rw [hm']
        exact h.walk hw

theorem KeepsDirs.resolve {fs fs' : FileSystem} (h : fs.KeepsDirs fs') {cwd p : String}
    {loc : Location} (hr : fs.resolve cwd p = .ok loc) : fs'.resolve cwd p = .ok loc := by
  unfold FileSystem.resolve at hr ⊢
  by_cases he : p.isEmpty = true
  · simp [he] at hr
  by_cases ha : Path.isAbsolute p = true
  · simp only [he, ha, Bool.false_eq_true, ↓reduceIte] at hr ⊢
    exact h.walk hr
  · simp only [he, ha, Bool.false_eq_true, ↓reduceIte] at hr ⊢
    -- the working directory is found again first, then the path from there
    obtain ⟨base, hb, hr⟩ := except_bind_eq_ok hr
    rw [h.walk hb]
    exact h.walk hr

theorem Grows.resolve {fs fs' : FileSystem} (h : fs.Grows fs') {cwd p : String} {loc : Location}
    (hr : fs.resolve cwd p = .ok loc) : fs'.resolve cwd p = .ok loc :=
  h.keepsDirs.resolve hr

theorem Grows.stat {fs fs' : FileSystem} (h : fs.Grows fs') {cwd p : String} {n : Node}
    (hs : fs.stat cwd p = .ok n) : fs'.stat cwd p = .ok n := by
  unfold FileSystem.stat at hs ⊢
  obtain ⟨loc, hr, hs⟩ := except_bind_eq_ok hs
  rw [h.resolve hr]
  cases hf : fs.find? loc with
  | none => simp [hf] at hs
  | some m => simp_all [h loc m hf, bind, Except.bind]

theorem Grows.readFile {fs fs' : FileSystem} (h : fs.Grows fs') {cwd p c : String}
    (hr : fs.readFile cwd p = .ok c) : fs'.readFile cwd p = .ok c := by
  unfold FileSystem.readFile at hr ⊢
  obtain ⟨n, hs, hr⟩ := except_bind_eq_ok hr
  rw [h.stat hs]
  exact hr

end FileSystem

theorem Locking.failed_grows {stateDir : String} {w w' : World} {f : Failure}
    (h : Locking stateDir w (.error f, w')) : ∃ fs, w' = w.withFs fs ∧ w.machine.fs.Grows fs := by
  cases h with
  | dirFailed _ => exact ⟨w.machine.fs, rfl, .refl _⟩
  | openFailed hd _ => exact ⟨_, rfl, FileSystem.createDirs_grows hd⟩
  | held hd ht _ => exact ⟨_, rfl, (FileSystem.createDirs_grows hd).trans (FileSystem.touch_grows ht)⟩


theorem Consulted.machine_eq {root : String} {w w' : World} (h : Consulted root w w')
    (hq : w.runner.Quiet (detectionProbes root statusTimeoutMs)) : w'.machine = w.machine := by
  obtain ⟨m, xs, reg, n, rq, qs, rfl, -, hm⟩ := h
  exact hm hq

/-! ### Stopping early -/

/-- How a run that stops before it stores its channel leaves the world. An unreadable
configuration, or an invalid one when a channel is asked for, stops it before anything else:
no probe, no registry lookup. A decline, a refusal or an answer that cannot be read at the
gate, and a checkout that cannot be used, stop it having only consulted. A lock it cannot have
stops it having also made directories and the lock file at most. -/
inductive EarlyStop (store : String) (o : Options) (w : World) :
    Except Failure Outcome × World → Prop
  | unread {f : Failure} : ((Config.load store).run w).1 = .error f → EarlyStop store o w (.error f, w)
  | invalid {snap : Config.Snapshot} : ((Config.load store).run w).1 = .ok snap →
      o.requestedChannel.isSome = true → snap.valid = false →
      EarlyStop store o w (.error (.ofUpdate (.configInvalid snap.path snap.issues)), w)
  | cancelled {w' : World} : Consulted o.root w w' → EarlyStop store o w (.ok .cancelled, w')
  | failed {f : Failure} {w' : World} : Consulted o.root w w' → EarlyStop store o w (.error f, w')
  | lockFailed {f : Failure} {w' : World} {fs : FileSystem} : Consulted o.root w w' →
      w'.machine.fs.Grows fs → EarlyStop store o w (.error f, w'.withFs fs)

theorem EarlyStop.grows {store : String} {o : Options} {w : World}
    {res : Except Failure Outcome × World} (h : EarlyStop store o w res)
    (hq : w.runner.Quiet (detectionProbes o.root statusTimeoutMs)) :
    w.machine.fs.Grows res.2.machine.fs := by
  cases h with
  | unread => exact .refl _
  | invalid => exact .refl _
  | cancelled hc => exact hc.machine_eq hq ▸ .refl _
  | failed hc => exact hc.machine_eq hq ▸ .refl _
  | lockFailed hc hg => exact hc.machine_eq hq ▸ hg

theorem EngineRun.stops_or_proceeds {store : String} {o : Options} {w : World}
    {res : Except Failure Outcome × World} (h : EngineRun store o w res) :
    EarlyStop store o w res ∨ ∃ s w₁, Prepares store o w s w₁ ∧ Proceeds store o s w₁ res := by
  cases h with
  | loadFailed hf => exact .inl (.unread hf)
  | configInvalid hs hr hv => exact .inl (.invalid hs hr hv)
  | refused hc => exact .inl (.failed hc)
  | declined hc => exact .inl (.cancelled hc)
  | promptFailed hc _ => exact .inl (.failed hc)
  | handedOver hp hplan =>
    cases hplan with
    | planFailed _ => exact .inl (.failed hp.consulted)
    | lockFailed _ _ hl =>
      obtain ⟨fs, rfl, hg⟩ := hl.failed_grows
      exact .inl (.lockFailed hp.consulted hg)
    | proceeds hpr => exact .inr ⟨_, _, hp, hpr⟩

theorem runUpdate_early_stop (store : String) (o : Options) (w : World) :
    EarlyStop store o w ((runUpdate store o).run w) ∨
      ∃ s w₁, Prepares store o w s w₁ ∧ Proceeds store o s w₁ ((runUpdate store o).run w) :=
  (runUpdate_run store o w).stops_or_proceeds

end Updater
