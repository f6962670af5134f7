import Mathlib
import Updater.Proofs.EarlyStop
import Updater.Proofs.ChannelEdit

/-! The configuration file through its writes.

A write of the configuration makes the directories above the file, writes the text and sets its
mode; when it succeeds the file holds the text (`writeConfig_readFile`), so the next load reads
what was written. Storing a channel in a file that held a configuration writes the document
with the channel set (`persistChannel_run_of_readFile`), and a file that does not read as a
document is refused with nothing written (`persistChannel_run_of_parse_error`). -/

namespace Updater

namespace FileSystem

theorem find?_put_self (fs : FileSystem) {loc : Location} (hloc : loc ≠ []) (n : Node) :
    (fs.put loc n).find? loc = some n := by
  simp [find?, put, hloc]

theorem readFile_of_find? {fs : FileSystem} {cwd p c : String} {loc : Location} {m i : Nat}
    (hr : fs.resolve cwd p = .ok loc) (hf : fs.find? loc = some (.file c m i)) :
    fs.readFile cwd p = .ok c := by
  simp [readFile, stat, hr, hf, bind, Except.bind]

theorem find?_of_readFile {fs : FileSystem} {cwd p c : String} (h : fs.readFile cwd p = .ok c) :
    ∃ loc m i, fs.resolve cwd p = .ok loc ∧ fs.find? loc = some (.file c m i) := by
  unfold readFile stat at h
  obtain ⟨n, hs, h⟩ := except_bind_eq_ok h
  obtain ⟨loc, hloc, hs⟩ := except_bind_eq_ok hs
  split at hs
  · next n' hf =>
    cases hs
    cases n with
    | file c' m i =>
      cases h
      exact ⟨loc, m, i, hloc, hf⟩
    | dir m => cases h
  · cases hs

theorem keepsDirs_put_file {fs : FileSystem} {loc : Location} (h : ∀ m, fs.find? loc ≠ some (.dir m))
    (c : String) (m i : Nat) : fs.KeepsDirs (fs.put loc (.file c m i)) := by
  intro loc' m' hm'
  by_cases hl : loc' = loc
  · subst hl
    exact absurd hm' (h m')
  · exact ⟨m', by rwa [find?_put_of_ne fs _ hl]⟩

theorem writeFile_spec {fs fs' : FileSystem} {cwd p content : String} {mode : Nat}
    (h : fs.writeFile cwd p content mode = .ok fs') :
    fs.KeepsDirs fs' ∧ fs'.readFile cwd p = .ok content := by
  unfold writeFile at h
  obtain ⟨loc, hloc, h⟩ := except_bind_eq_ok h
  split at h
  · cases h
  · next hne =>
    have hroot : loc ≠ [] := by
      rintro rfl
      simp at hne
    split at h
    · cases h
    · next c m i hfile =>
      -- the text of a file there is replaced
      cases h
      have hnodir : ∀ m', fs.find? loc ≠ some (.dir m') := by simp [hfile]
      have hkeep := keepsDirs_put_file hnodir content m i
      exact ⟨hkeep, readFile_of_find? (hkeep.resolve hloc) (find?_put_self fs hroot _)⟩
    · next hnone =>
      -- a new file is made
      cases h
      have hnodir : ∀ m', fs.find? loc ≠ some (.dir m') := by simp [hnone]
      have hput := keepsDirs_put_file hnodir content mode fs.nextInode
      -- taking the inode number changes no entry
      have hkeep : fs.KeepsDirs
          { fs.put loc (.file content mode fs.nextInode) with nextInode := fs.nextInode + 1 } := hput
      exact ⟨hkeep, readFile_of_find? (hkeep.resolve hloc) (find?_put_self fs hroot _)⟩

theorem chmod_spec {fs fs' : FileSystem} {cwd p c : String} {mode : Nat}
    (h : fs.chmod cwd p mode = .ok fs') (hc : fs.readFile cwd p = .ok c) :
    fs.KeepsDirs fs' ∧ fs'.readFile cwd p = .ok c := by
  obtain ⟨loc, m, i, hloc, hf⟩ := find?_of_readFile hc
  have hroot : loc ≠ [] := by
    rintro rfl
    simp [find?] at hf
  unfold chmod at h
  rw [hloc] at h
  simp only [bind, Except.bind, hf] at h
  cases h
  have hnodir : ∀ m', fs.find? loc ≠ some (.dir m') := by simp [hf]
  have hkeep := keepsDirs_put_file hnodir c mode i
  exact ⟨hkeep, readFile_of_find? (hkeep.resolve hloc) (find?_put_self fs hroot _)⟩

end FileSystem

namespace Config

theorem writeConfig_ok {path content : String} {w w' : World}
    (h : (writeConfig path content).run w = (.ok (), w')) :
    ∃ fs₁ fs₂ fs₃, w.machine.fs.KeepsDirs fs₁ ∧ fs₁.writeFile w.machine.cwd path content = .ok fs₂ ∧
      fs₂.chmod w.machine.cwd path 0o600 = .ok fs₃ ∧ w' = w.withFs fs₃ := by
  by_cases hp : ((Path.parent? path).getD "").isEmpty = true
  · -- no directory to make
    cases hwrite : w.machine.fs.writeFile w.machine.cwd path content with
    | error e =>
      simp [writeConfig, withContext, Act.changeFs, Act.machine, hp, hwrite] at h
      cases h
    | ok fs₂ =>
      cases hstat : fs₂.stat w.machine.cwd path with
      | error e =>
        simp [writeConfig, withContext, Act.changeFs, Act.machine, Act.setFs, hp, hwrite, hstat] at h
        cases h
      | ok n =>
        cases hchmod : fs₂.chmod w.machine.cwd path 0o600 with
        | error e =>
          simp [writeConfig, withContext, Act.changeFs, Act.machine, Act.setFs, hp, hwrite, hstat,
            hchmod] at h
          cases h
        | ok fs₃ =>
          simp [writeConfig, withContext, Act.changeFs, Act.machine, Act.setFs, hp, hwrite, hstat,
            hchmod] at h
          cases h
          exact ⟨_, fs₂, fs₃, FileSystem.KeepsDirs.refl _, hwrite, hchmod, rfl⟩
  · -- the directories first
    cases hdirs : w.machine.fs.createDirs w.machine.cwd ((Path.parent? path).getD "") with
    | error e =>
      simp [writeConfig, withContext, Act.changeFs, Act.machine, hp, hdirs] at h
      cases h
    | ok fs₁ =>
      have hkeep := (FileSystem.createDirs_grows hdirs).keepsDirs
      cases hwrite : fs₁.writeFile w.machine.cwd path content with
      | error e =>
        simp [writeConfig, withContext, Act.changeFs, Act.machine, Act.setFs, hp, hdirs, hwrite] at h
        cases h
      | ok fs₂ =>
        cases hstat : fs₂.stat w.machine.cwd path with
        | error e =>
          simp [writeConfig, withContext, Act.changeFs, Act.machine, Act.setFs, hp, hdirs, hwrite,
            hstat] at h
          cases h
        | ok n =>
          cases hchmod : fs₂.chmod w.machine.cwd path 0o600 with
          | error e =>
            simp [writeConfig, withContext, Act.changeFs, Act.machine, Act.setFs, hp, hdirs, hwrite,
              hstat, hchmod] at h
            cases h
          | ok fs₃ =>
            simp [writeConfig, withContext, Act.changeFs, Act.machine, Act.setFs, hp, hdirs, hwrite,
              hstat, hchmod] at h
            cases h
            exact ⟨fs₁, fs₂, fs₃, hkeep, hwrite, hchmod, rfl⟩

theorem writeConfig_readFile {path content : String} {w w' : World}
    (h : (writeConfig path content).run w = (.ok (), w')) : w'.machine.readFile path = .ok content := by
  obtain ⟨fs₁, fs₂, fs₃, -, hwrite, hchmod, rfl⟩ := writeConfig_ok h
  exact (FileSystem.chmod_spec hchmod (FileSystem.writeFile_spec hwrite).2).2

theorem eq_ok_of_toOption {ε α : Type} {x : Except ε α} {a : α} (h : x.toOption = some a) :
    x = .ok a := by
  cases x <;> simp_all [Except.toOption]

def loaded (path : String) (c : AppConfig) : Snapshot :=
  { path := path, present := true, valid := true, config := c }

theorem exists?_of_readFile {m : Machine} {path text : String} (h : m.readFile path = .ok text) :
    m.exists? path = true := by
  obtain ⟨loc, k, i, hloc, hf⟩ := FileSystem.find?_of_readFile h
  simp [Machine.exists?, FileSystem.exists?, FileSystem.stat, hloc, hf, bind, Except.bind]

theorem load_run_of_readFile {path text : String} {c : AppConfig} {w : World}
    (hfile : w.machine.readFile path = .ok text) (hc : parseConfig text = .ok c) :
    (load path).run w = (.ok (loaded path c), w) := by
  simp [load, loaded, Act.exists?, Act.readFile, Act.machine, exists?_of_readFile hfile, hfile, hc]

theorem persistChannel_run_of_readFile {path F : String} {doc : Toml.Document} {ch : Channel}
    {w : World} (hfile : w.machine.readFile path = .ok F) (hedit : Toml.Document.parse .int64 F = .ok doc) :
    (persistChannel path ch).run w = (writeConfig path (withChannel doc ch).render).run w := by
  simp [persistChannel, Act.exists?, Act.readFile, Act.machine, exists?_of_readFile hfile, hfile, hedit]

theorem persistChannel_run_of_missing {path : String} {ch : Channel} {w : World}
    (hmissing : w.machine.exists? path = false) :
    (persistChannel path ch).run w = (writeConfig path (withChannel {} ch).render).run w := by
  have hempty : Toml.Document.parse .int64 "" = .ok {} := by cbv
  simp [persistChannel, Act.exists?, Act.machine, hmissing, hempty]

theorem persistChannel_run_of_parse_error {path F : String} {e : Toml.ParseError} {ch : Channel}
    {w : World} (hfile : w.machine.readFile path = .ok F) (hbroken : Toml.Document.parse .int64 F = .error e) :
    (persistChannel path ch).run w =
      (.error (.ofUpdate (.configError ("cannot edit " ++ path ++ ": " ++ e.show F))), w) := by
  simp [persistChannel, Act.exists?, Act.readFile, Act.machine, exists?_of_readFile hfile, hfile, hbroken]

/-! ## Reading back what was written -/

theorem persistChannel_load {path F : String} {c : AppConfig} {doc : Toml.Document} {ch : Channel}
    {w w' : World} (hfile : w.machine.readFile path = .ok F) (hc : parseConfig F = .ok c)
    (hedit : Toml.Document.parse .int64 F = .ok doc)
    (hback : (Toml.Document.parse .any (withChannel doc ch).render).toOption.map (·.root.toValue) =
      some (withChannel doc ch).root.toValue)
    (hrun : (persistChannel path ch).run w = (.ok (), w')) :
    (load path).run w' = (.ok (loaded path
      { c with update := ⟨some ch, if updateIsDatetime doc then [] else c.update.extra⟩ }), w') := by
  obtain ⟨es, hroot, hnodup⟩ := Toml.parse_root_nodup hedit
  have hvalue : configOf doc.root.toValue = some c := by
    have := parseConfig_toOption F
    rw [hc, Toml.parse_any hedit] at this
    simpa using this.symm
  have hwritten := writeConfig_readFile ((persistChannel_run_of_readFile hfile hedit).symm.trans hrun)
  refine load_run_of_readFile hwritten (eq_ok_of_toOption ?_)
  obtain ⟨doc', hdoc', hval⟩ := Option.map_eq_some_iff.mp hback
  rw [parseConfig_toOption, hdoc', Option.bind_some, hval, configOf_withChannel ch hroot hnodup hvalue,
    isTableLike_update hroot hnodup hvalue]
  cases updateIsDatetime doc <;> rfl

theorem save_load {path F : String} {c : AppConfig} {w w' : World} (hc : parseConfig F = .ok c)
    (hpretty : (Toml.Document.parse .any c.render).toOption.map (·.root.toValue) =
      some (Toml.Value.table c.entries).canon)
    (hrun : (save path c).run w = (.ok (), w')) :
    (load path).run w' = (.ok (loaded path c), w') := by
  have hread := parseConfig_toOption F
  rw [hc] at hread
  obtain ⟨doc, hdoc, hvalue⟩ := Option.bind_eq_some_iff.mp hread.symm
  refine load_run_of_readFile (writeConfig_readFile hrun) (eq_ok_of_toOption ?_)
  obtain ⟨doc', hdoc', hval⟩ := Option.map_eq_some_iff.mp hpretty
  rw [parseConfig_toOption, hdoc', Option.bind_some, hval]
  exact configOf_canon_entries (Toml.canon_toValue doc.root) hvalue

theorem parseConfig_fresh (ch : Channel) :
    parseConfig (withChannel {} ch).render = .ok { update := { channel := some ch } } := by
  -- one evaluation for every channel
  have hall : [Channel.stable, .beta, .dev].map (fun ch => parseConfig (withChannel {} ch).render) =
      [Channel.stable, .beta, .dev].map (fun ch => .ok { update := { channel := some ch } }) := by
    cbv
  simp only [List.map_cons, List.map_nil, List.cons.injEq] at hall
  obtain ⟨hstable, hbeta, hdev, -⟩ := hall
  cases ch
  · exact hstable
  · exact hbeta
  · exact hdev

theorem persistChannel_load_of_missing {path : String} {ch : Channel} {w w' : World}
    (hmissing : w.machine.exists? path = false) (hrun : (persistChannel path ch).run w = (.ok (), w')) :
    (load path).run w' = (.ok (loaded path { update := { channel := some ch } }), w') :=
  load_run_of_readFile
    (writeConfig_readFile ((persistChannel_run_of_missing hmissing).symm.trans hrun)) (parseConfig_fresh ch)

def fileWorld (text : String) : World :=
  { machine := { fs := { entries := [(["cfg.toml"], .file text 0o600 1)], nextInode := 2 } } }

/-- The configuration file through its writes. Storing a channel in a file that held a
configuration gives, read back, that configuration with the channel set, provided the document
reads back as written; of the other keys of `[update]` only the value of a date or time is lost.
A saved configuration reads back as itself, provided the text saved reads as the value written.
A channel stored where there was no file reads back alone. A file that does not read as a
document is refused and the world is left as it was. -/
theorem configFile_round_trips (path : String) :
    (∀ (F : String) (c : AppConfig) (doc : Toml.Document) (ch : Channel) (w w' : World),
      w.machine.readFile path = .ok F → parseConfig F = .ok c →
      Toml.Document.parse .int64 F = .ok doc →
      (Toml.Document.parse .any (withChannel doc ch).render).toOption.map (·.root.toValue) =
        some (withChannel doc ch).root.toValue →
      (persistChannel path ch).run w = (.ok (), w') →
      (load path).run w' = (.ok (loaded path
        { c with update := ⟨some ch, if updateIsDatetime doc then [] else c.update.extra⟩ }), w')) ∧
    (∀ (F : String) (c : AppConfig) (w w' : World), parseConfig F = .ok c →
      (Toml.Document.parse .any c.render).toOption.map (·.root.toValue) =
        some (Toml.Value.table c.entries).canon →
      (save path c).run w = (.ok (), w') →
      (load path).run w' = (.ok (loaded path c), w')) ∧
    (∀ (ch : Channel) (w w' : World), w.machine.exists? path = false →
      (persistChannel path ch).run w = (.ok (), w') →
      (load path).run w' = (.ok (loaded path { update := { channel := some ch } }), w')) ∧
    (∀ (F : String) (e : Toml.ParseError) (ch : Channel) (w : World),
      w.machine.readFile path = .ok F → Toml.Document.parse .int64 F = .error e →
      (persistChannel path ch).run w =
        (.error (.ofUpdate (.configError ("cannot edit " ++ path ++ ": " ++ e.show F))), w)) :=
  ⟨fun _ _ _ _ _ _ => persistChannel_load, fun _ _ _ _ => save_load,
    fun _ _ _ => persistChannel_load_of_missing, fun _ _ _ _ => persistChannel_run_of_parse_error⟩

/-- A file with a mirror under `[update]` through each kind of write: the mirror survives a new
channel and a save, a second file is created beside it, and a file naming the channel twice is
refused. -/
theorem mirror_config_round_trips :
    ((load "/cfg.toml").run ((persistChannel "/cfg.toml" .stable).run
        (fileWorld "[update]\nchannel = \"beta\"\nmirror = \"eu\"\n")).2).1 =
      .ok (loaded "/cfg.toml" { update := { channel := some .stable, extra := [("mirror", .string "eu")] } }) ∧
    ((load "/cfg.toml").run ((save "/cfg.toml"
        { update := { channel := some .beta, extra := [("mirror", .string "eu")] } }).run (fileWorld "")).2).1 =
      .ok (loaded "/cfg.toml" { update := { channel := some .beta, extra := [("mirror", .string "eu")] } }) ∧
    ((load "/new.toml").run ((persistChannel "/new.toml" .dev).run
        (fileWorld "[update]\nchannel = \"beta\"\nmirror = \"eu\"\n")).2).1 =
      .ok (loaded "/new.toml" { update := { channel := some .dev } }) ∧
    (persistChannel "/cfg.toml" .stable).run (fileWorld "[update]\nchannel = \"beta\"\nchannel = \"dev\"\n") =
      (.error (.ofUpdate (.configError ("cannot edit " ++ "/cfg.toml" ++ ": " ++
        (⟨"duplicate key", some ⟨26, 33⟩⟩ : Toml.ParseError).show
          "[update]\nchannel = \"beta\"\nchannel = \"dev\"\n"))),
        fileWorld "[update]\nchannel = \"beta\"\nchannel = \"dev\"\n") := by
  obtain ⟨hfile, hc, hedit, hrender, hparse, hvalue, hdate, hrun, hsaved, hsavedParse, hcanon, hsave,
      hmissing, hfresh, hdupfile, hbroken⟩ :
      (fileWorld "[update]\nchannel = \"beta\"\nmirror = \"eu\"\n").machine.readFile "/cfg.toml" =
        .ok "[update]\nchannel = \"beta\"\nmirror = \"eu\"\n" ∧
      parseConfig "[update]\nchannel = \"beta\"\nmirror = \"eu\"\n" =
        .ok { update := { channel := some .beta, extra := [("mirror", .string "eu")] } } ∧
      Toml.Document.parse .int64 "[update]\nchannel = \"beta\"\nmirror = \"eu\"\n" =
        .ok ((Toml.Document.parse .int64 "[update]\nchannel = \"beta\"\nmirror = \"eu\"\n").toOption.getD {}) ∧
      (withChannel ((Toml.Document.parse .int64 "[update]\nchannel = \"beta\"\nmirror = \"eu\"\n").toOption.getD {})
        .stable).render = "[update]\nchannel = \"stable\"\nmirror = \"eu\"\n" ∧
      (Toml.Document.parse .any "[update]\nchannel = \"stable\"\nmirror = \"eu\"\n").toOption.map (·.root.toValue) =
        some (.table [("update", .table [("channel", .string "stable"), ("mirror", .string "eu")])]) ∧
      (withChannel ((Toml.Document.parse .int64 "[update]\nchannel = \"beta\"\nmirror = \"eu\"\n").toOption.getD {})
        .stable).root.toValue = .table [("update", .table [("channel", .string "stable"), ("mirror", .string "eu")])] ∧
      updateIsDatetime ((Toml.Document.parse .int64 "[update]\nchannel = \"beta\"\nmirror = \"eu\"\n").toOption.getD {}) =
        false ∧
      (persistChannel "/cfg.toml" .stable).run (fileWorld "[update]\nchannel = \"beta\"\nmirror = \"eu\"\n") =
        (.ok (), ((persistChannel "/cfg.toml" .stable).run (fileWorld "[update]\nchannel = \"beta\"\nmirror = \"eu\"\n")).2) ∧
      ({ update := { channel := some .beta, extra := [("mirror", .string "eu")] } } : AppConfig).render =
        "[update]\nchannel = \"beta\"\nmirror = \"eu\"\n" ∧
      (Toml.Document.parse .any "[update]\nchannel = \"beta\"\nmirror = \"eu\"\n").toOption.map (·.root.toValue) =
        some (.table [("update", .table [("channel", .string "beta"), ("mirror", .string "eu")])]) ∧
      (Toml.Value.table ({ update := { channel := some .beta, extra := [("mirror", .string "eu")] } } : AppConfig).entries).canon =
        .table [("update", .table [("channel", .string "beta"), ("mirror", .string "eu")])] ∧
      (save "/cfg.toml" { update := { channel := some .beta, extra := [("mirror", .string "eu")] } }).run (fileWorld "") =
        (.ok (), ((save "/cfg.toml" { update := { channel := some .beta, extra := [("mirror", .string "eu")] } }).run
          (fileWorld "")).2) ∧
      (fileWorld "[update]\nchannel = \"beta\"\nmirror = \"eu\"\n").machine.exists? "/new.toml" = false ∧
      (persistChannel "/new.toml" .dev).run (fileWorld "[update]\nchannel = \"beta\"\nmirror = \"eu\"\n") =
        (.ok (), ((persistChannel "/new.toml" .dev).run (fileWorld "[update]\nchannel = \"beta\"\nmirror = \"eu\"\n")).2) ∧
      (fileWorld "[update]\nchannel = \"beta\"\nchannel = \"dev\"\n").machine.readFile "/cfg.toml" = .ok "[update]\nchannel = \"beta\"\nchannel = \"dev\"\n" ∧
      Toml.Document.parse .int64 "[update]\nchannel = \"beta\"\nchannel = \"dev\"\n" = .error ⟨"duplicate key", some ⟨26, 33⟩⟩ := by
    cbv
    exact ⟨rfl, rfl, trivial⟩
  refine ⟨?_, ?_, ?_, ?_⟩
  · rw [(configFile_round_trips _).1 _ _ _ _ _ _ hfile hc hedit (by rw [hrender, hparse, hvalue]) hrun,
      hdate]
    rfl
  · rw [(configFile_round_trips _).2.1 _ _ _ _ hc (by rw [hsaved, hcanon]; exact hsavedParse) hsave]
  · rw [(configFile_round_trips _).2.2.1 _ _ _ hmissing hfresh]
  · exact (configFile_round_trips _).2.2.2 _ _ _ _ hdupfile hbroken

/-- A date given as `update` reads as a table holding its text; storing a channel replaces it by a
fresh table, and read back the text is gone. -/
theorem datetime_update_loses_value :
    parseConfig "update = 1979-05-27\n" =
      .ok { update := { extra := [("$__toml_private_datetime", .string "1979-05-27")] } } ∧
    ((load "/cfg.toml").run ((persistChannel "/cfg.toml" .stable).run (fileWorld "update = 1979-05-27\n")).2).1 =
      .ok (loaded "/cfg.toml" { update := { channel := some .stable } }) := by
  obtain ⟨hread, hconfig, hfile, hedit, hrender, hparse, hvalue, hdate, hrun⟩ :
      (Toml.Document.parse .any "update = 1979-05-27\n").toOption.map (·.root.toValue) =
        some (.table [("update", .datetime { date := some ⟨1979, 5, 27⟩ })]) ∧
      configOf (.table [("update", .datetime { date := some ⟨1979, 5, 27⟩ })]) =
        some { update := { extra := [("$__toml_private_datetime", .string "1979-05-27")] } } ∧
      (fileWorld "update = 1979-05-27\n").machine.readFile "/cfg.toml" = .ok "update = 1979-05-27\n" ∧
      Toml.Document.parse .int64 "update = 1979-05-27\n" =
        .ok ((Toml.Document.parse .int64 "update = 1979-05-27\n").toOption.getD {}) ∧
      (withChannel ((Toml.Document.parse .int64 "update = 1979-05-27\n").toOption.getD {}) .stable).render =
        "[update ]\nchannel = \"stable\"\n" ∧
      (Toml.Document.parse .any "[update ]\nchannel = \"stable\"\n").toOption.map (·.root.toValue) =
        some (.table [("update", .table [("channel", .string "stable")])]) ∧
      (withChannel ((Toml.Document.parse .int64 "update = 1979-05-27\n").toOption.getD {}) .stable).root.toValue =
        .table [("update", .table [("channel", .string "stable")])] ∧
      updateIsDatetime ((Toml.Document.parse .int64 "update = 1979-05-27\n").toOption.getD {}) = true ∧
      (persistChannel "/cfg.toml" .stable).run (fileWorld "update = 1979-05-27\n") =
        (.ok (), ((persistChannel "/cfg.toml" .stable).run (fileWorld "update = 1979-05-27\n")).2) := by
    cbv
    exact ⟨rfl, trivial⟩
  -- the configuration is read through its value, the path whose evaluation stays small
  have hc : parseConfig "update = 1979-05-27\n" =
      .ok { update := { extra := [("$__toml_private_datetime", .string "1979-05-27")] } } := by
    obtain ⟨doc, hdoc, hval⟩ := Option.map_eq_some_iff.mp hread
    refine eq_ok_of_toOption ?_
    rw [parseConfig_toOption, hdoc, Option.bind_some, hval, hconfig]
  refine ⟨hc, ?_⟩
  rw [persistChannel_load hfile hc hedit (by rw [hrender, hparse, hvalue]) hrun, hdate]
  rfl

end Config

end Updater
