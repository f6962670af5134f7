import Mathlib
import Updater.Proofs.PluginPasses
import Updater.Proofs.Detection

/-! Which plugins a reconciliation installs. Besides asking the manager where its global packages
are, the synchronizer that installs with a package manager asks the runner only for installs: the
sync pass one for each bundled record on a release channel, the update pass one for each registry
record with a spec that it does not skip (`InstallsAsked`). Since the update pass skips exactly
what the sync pass moved, the installs of a whole reconciliation are `dueInstalls`, and no id is
installed twice (`reconcile_installs_once`). -/

namespace Updater.Plugin

open Config

/-- From `w` to `w'` the runner was asked, apart from `m`'s question where its global packages
are, exactly the commands `cs`, in order. -/
def InstallsAsked (m : Manager) (t : Nat) (w w' : World) (cs : List Command) : Prop :=
  ∃ xs, w'.exchanges = w.exchanges ++ xs ∧ (xs.map Prod.fst).filter (· != rootQuery m t) = cs

namespace InstallsAsked

variable {m : Manager} {t : Nat} {w w₁ w₂ : World} {cs cs' : List Command}

theorem refl (m : Manager) (t : Nat) (w : World) : InstallsAsked m t w w [] :=
  ⟨[], by simp, rfl⟩

theorem trans (h₁ : InstallsAsked m t w w₁ cs) (h₂ : InstallsAsked m t w₁ w₂ cs') :
    InstallsAsked m t w w₂ (cs ++ cs') := by
  obtain ⟨xs, hx, hf⟩ := h₁
  obtain ⟨ys, hy, hg⟩ := h₂
  exact ⟨xs ++ ys, by rw [hy, hx, List.append_assoc], by rw [List.map_append, List.filter_append, hf, hg]⟩

theorem call_left (c : Calls) : InstallsAsked m t (w.call c) w₁ cs ↔ InstallsAsked m t w w₁ cs :=
  Iff.rfl

end InstallsAsked

theorem installCommand_ne_rootQuery (m : Manager) (t : Nat) (spec : String) :
    installCommand m t spec ≠ rootQuery m t := by
  simp [installCommand, rootQuery]

theorem Manager.globalPackageRoot_asked (m : Manager) (package : String) (t : Nat) (w : World) :
    InstallsAsked m t w ((m.globalPackageRoot package t).run w).2 [] := by
  have hroot : ((m.globalPackageRoot package t).run w).2 = ((m.globalRoot t).run w).2 := by
    simp [Manager.globalPackageRoot]
  rw [hroot]
  by_cases hm : m = .bun
  · subst hm
    rw [Manager.bun_globalRoot]
    exact .refl _ _ _
  · rw [Manager.globalRoot_query hm]
    obtain ⟨a, M, h⟩ := run_extend (rootQuery m t) w
    rw [h]
    exact ⟨[(rootQuery m t, a)], rfl, by simp⟩

theorem Installs.asked {m : Manager} {t : Nat} {spec : String} {w w' : World}
    {res : Except String (Option String)} (h : Installs m t spec w res w') :
    InstallsAsked m t w w' [installCommand m t spec] := by
  have hrun : ∀ {a w₁}, (run (installCommand m t spec)).run w = (a, w₁) →
      InstallsAsked m t w w₁ [installCommand m t spec] := by
    intro a w₁ h₁
    obtain ⟨a', M, h⟩ := run_extend (installCommand m t spec) w
    rw [h₁] at h
    obtain ⟨rfl, rfl⟩ := Prod.mk.inj h
    exact ⟨[(installCommand m t spec, a)], rfl, by simp [installCommand_ne_rootQuery]⟩
  cases h with
  | landed h₁ _ => exact (hrun h₁).trans (Manager.globalPackageRoot_asked m _ t _)
  | failed h₁ _ => exact hrun h₁

/-! ### What each pass installs -/

/-- The install the sync pass on `ch` makes for a record, as its id and spec: on a release
channel, a bundled record's spec or the default one. -/
def syncInstall (ch : Channel) : String × InstallRecord → Option (String × String)
  | (id, r) => if ch ≠ .dev ∧ r.source = .bundled then some (id, r.spec.getD (defaultSpec id)) else none

def pendingInstall (skip : List String) : String × InstallRecord → Option (String × String)
  | (id, r) => if r.source = .npm ∧ id ∉ skip then r.spec.map (id, ·) else none

/-- The install the update pass makes after the sync pass on `ch` for a record as it was before
it, the bundled copies `here` being directories: a registry record's spec, unless the sync pass
moved it to its bundled copy. -/
def updateInstall (ch : Channel) (here : String → Bool) : String × InstallRecord → Option (String × String)
  | (id, r) => if r.source = .npm ∧ ¬(ch = .dev ∧ here id = true) then r.spec.map (id, ·) else none

/-- The installs a reconciliation on `ch` makes for the records `rs`, in order, as id and spec:
those of the sync pass, then those of the update pass. -/
def dueInstalls (ch : Channel) (here : String → Bool) (rs : List (String × InstallRecord)) :
    List (String × String) :=
  rs.filterMap (syncInstall ch) ++ rs.filterMap (updateInstall ch here)

theorem SyncStep.asked {m : Manager} {t : Nat} {ext : String} {ch : Channel} {w w' : World}
    {id : String} {r r' : InstallRecord} {d : SyncSummary}
    (h : SyncStep m t ext ch w (id, r) d r' w') :
    InstallsAsked m t w w' ((syncInstall ch (id, r)).toList.map fun x => installCommand m t x.2) := by
  cases h with
  | toRegistry hch hsrc hi | installFailed hch hsrc hi => simpa [syncInstall, hch, hsrc] using hi.asked
  | registryKept _ hsrc => simpa [syncInstall, hsrc] using InstallsAsked.refl m t w
  | toBundled hch | noBundled hch | bundledFound hch | bundledMissing hch =>
    simpa [syncInstall, hch] using InstallsAsked.refl m t w

theorem SyncSteps.asked {m : Manager} {t : Nat} {ext : String} {ch : Channel} {w w' : World}
    {rs rs' : List (String × InstallRecord)} {d : SyncSummary}
    (h : SyncSteps m t ext ch w rs d rs' w') :
    InstallsAsked m t w w' ((rs.filterMap (syncInstall ch)).map fun x => installCommand m t x.2) := by
  induction h with
  | nil => exact .refl m t _
  | cons hstep _ ih =>
    rw [List.filterMap_cons]
    have := hstep.asked.trans ih
    cases hs : syncInstall ch (_, _) <;> simpa [hs] using this

theorem UpdateStep.asked {m : Manager} {t : Nat} {skip : List String} {w w' : World}
    {id : String} {r r' : InstallRecord} {os : List Outcome}
    (h : UpdateStep m t skip w (id, r) os r' w') :
    InstallsAsked m t w w' ((pendingInstall skip (id, r)).toList.map fun x => installCommand m t x.2) := by
  cases h with
  | passed hp =>
    have : ¬(r.source = .npm ∧ id ∉ skip) := fun h => h.2 (hp h.1)
    simpa [pendingInstall, this] using InstallsAsked.refl m t w
  | noSpec hsrc hskip hspec => simpa [pendingInstall, hsrc, hskip, hspec] using InstallsAsked.refl m t w
  | failed hsrc hskip hspec hi | updated hsrc hskip hspec hi _ _ | unchanged hsrc hskip hspec hi _ =>
    simpa [pendingInstall, hsrc, hskip, hspec] using hi.asked

theorem UpdateSteps.asked {m : Manager} {t : Nat} {skip : List String} {w w' : World}
    {rs rs' : List (String × InstallRecord)} {outs : List Outcome}
    (h : UpdateSteps m t skip w rs outs rs' w') :
    InstallsAsked m t w w' ((rs.filterMap (pendingInstall skip)).map fun x => installCommand m t x.2) := by
  induction h with
  | nil => exact .refl m t _
  | cons hstep _ ih =>
    rw [List.filterMap_cons]
    have := hstep.asked.trans ih
    cases hs : pendingInstall skip (_, _) <;> simpa [hs] using this

/-! ### The sync pass hands the update pass what it skips -/

theorem SyncStep.pendingInstall_eq {m : Manager} {t : Nat} {ext : String} {ch : Channel}
    {w w' : World} {id : String} {r r' : InstallRecord} {d : SyncSummary} {skip : List String}
    {here : String → Bool} (h : SyncStep m t ext ch w (id, r) d r' w')
    (hskip : id ∈ skip ↔ id ∈ d.switchedToBundled ∨ id ∈ d.switchedToNpm)
    (hhere : ch = .dev → here id = w.machine.isDir (Path.join ext id)) :
    pendingInstall skip (id, r') = updateInstall ch here (id, r) := by
  cases h <;> simp_all [pendingInstall, updateInstall]

theorem SyncSteps.pendingInstalls {m : Manager} {t : Nat} {ext : String} {ch : Channel}
    {w w' : World} {rs rs' : List (String × InstallRecord)} {d : SyncSummary} {skip : List String}
    {here : String → Bool} (h : SyncSteps m t ext ch w rs d rs' w') (hnd : (rs.map Prod.fst).Nodup)
    (hskip : ∀ id ∈ rs.map Prod.fst, id ∈ skip ↔ id ∈ d.switchedToBundled ∨ id ∈ d.switchedToNpm)
    (hhere : ch = .dev → ∀ id, here id = w.machine.isDir (Path.join ext id)) :
    rs'.filterMap (pendingInstall skip) = rs.filterMap (updateInstall ch here) := by
  induction h with
  | nil => rfl
  | @cons w w₁ w₂ id r r' d e rest rest' hstep hrest ih =>
    simp only [List.map_cons, List.nodup_cons] at hnd
    -- the step names only its own id, the rest only ids of the rest, which differ from it
    have hd := hstep.switched_sublist.subset
    have he := hrest.switched_sublist
    have hown : id ∈ skip ↔ id ∈ d.switchedToBundled ∨ id ∈ d.switchedToNpm := by
      have hb : id ∉ e.switchedToBundled := fun h => hnd.1 (he.1.subset h)
      have hn : id ∉ e.switchedToNpm := fun h => hnd.1 (he.2.subset h)
      simpa [hb, hn] using hskip id (by simp)
    have hrestSkip : ∀ x ∈ rest.map Prod.fst,
        x ∈ skip ↔ x ∈ e.switchedToBundled ∨ x ∈ e.switchedToNpm := by
      intro x hx
      have hne : x ≠ id := fun h => hnd.1 (h ▸ hx)
      have hb : x ∉ d.switchedToBundled := fun h => hne (by simpa using hd (List.mem_append_left _ h))
      have hn : x ∉ d.switchedToNpm := fun h => hne (by simpa using hd (List.mem_append_right _ h))
      simpa [hb, hn] using hskip x (by simp [hx])
    have hhere₁ : ch = .dev → ∀ x, here x = w₁.machine.isDir (Path.join ext x) := by
      intro hch
      rw [(hstep.dev hch).1]
      exact hhere hch
    rw [List.filterMap_cons, List.filterMap_cons,
      hstep.pendingInstall_eq hown (fun hch => hhere hch id), ih hnd.2 hrestSkip hhere₁]

/-! ### Each record installed at most once -/

theorem mem_keys_filterMap {α β γ : Type} {f : α × β → Option (α × γ)}
    (hf : ∀ x y, f x = some y → y.1 = x.1) {rs : List (α × β)} {a : α}
    (ha : a ∈ (rs.filterMap f).map Prod.fst) : a ∈ rs.map Prod.fst := by
  simp only [List.mem_map, List.mem_filterMap] at ha ⊢
  obtain ⟨y, ⟨x, hx, hxy⟩, rfl⟩ := ha
  exact ⟨x, hx, (hf x y hxy).symm⟩

theorem count_keys_filterMap {α β γ : Type} [DecidableEq α] {f : α × β → Option (α × γ)}
    (hf : ∀ x y, f x = some y → y.1 = x.1) {rs : List (α × β)} (hnd : (rs.map Prod.fst).Nodup)
    {a : α} {b : β} (hab : (a, b) ∈ rs) :
    ((rs.filterMap f).map Prod.fst).count a = if (f (a, b)).isSome then 1 else 0 := by
  induction rs with
  | nil => simp at hab
  | cons x rest ih =>
    simp only [List.map_cons, List.nodup_cons] at hnd
    rcases List.mem_cons.mp hab with rfl | hmem
    · -- the member heads the list: its key is not among the keys of the rest
      have h0 : ((rest.filterMap f).map Prod.fst).count a = 0 :=
        List.count_eq_zero.mpr fun h => hnd.1 (mem_keys_filterMap hf h)
      cases hfx : f (a, b) with
      | none => simp [hfx, h0]
      | some y => simp [hfx, h0, hf _ _ hfx]
    · have hne : x.1 ≠ a := fun h => hnd.1 (h ▸ List.mem_map.mpr ⟨(a, b), hmem, rfl⟩)
      rw [List.filterMap_cons, ← ih hnd.2 hmem]
      cases hfx : f x with
      | none => rfl
      | some y => simp [hf _ _ hfx, hne]

theorem syncInstall_fst (ch : Channel) (x : String × InstallRecord) (y : String × String)
    (h : syncInstall ch x = some y) : y.1 = x.1 := by
  obtain ⟨id, r⟩ := x
  simp only [syncInstall] at h
  split_ifs at h
  cases h
  rfl

theorem updateInstall_fst (ch : Channel) (here : String → Bool) (x : String × InstallRecord)
    (y : String × String) (h : updateInstall ch here x = some y) : y.1 = x.1 := by
  obtain ⟨id, r⟩ := x
  simp only [updateInstall] at h
  split_ifs at h
  obtain ⟨s, -, rfl⟩ := Option.map_eq_some_iff.mp h
  rfl

theorem count_dueInstalls (ch : Channel) (here : String → Bool) {rs : List (String × InstallRecord)}
    (hnd : (rs.map Prod.fst).Nodup) {id : String} {r : InstallRecord} (h : (id, r) ∈ rs) :
    ((dueInstalls ch here rs).map Prod.fst).count id =
      if (ch ≠ .dev ∧ r.source = .bundled) ∨
        (r.source = .npm ∧ r.spec.isSome ∧ ¬(ch = .dev ∧ here id = true)) then 1 else 0 := by
  rw [dueInstalls, List.map_append, List.count_append,
    count_keys_filterMap (syncInstall_fst ch) hnd h,
    count_keys_filterMap (updateInstall_fst ch here) hnd h]
  -- a record is bundled or from the registry, so at most one pass installs it
  cases hsrc : r.source <;> cases hspec : r.spec <;>
    simp [syncInstall, updateInstall, hsrc, hspec]

/-! ### A whole reconciliation -/

theorem save_asked (m : Manager) (t : Nat) (store : String) (c : AppConfig) (w : World) :
    InstallsAsked m t w ((save store c).run w).2 [] := by
  obtain ⟨_, M, h⟩ := Config.onMachine_writeConfig store c.render w
  exact ⟨[], by simp [save, h], rfl⟩

/-- A reconciliation with the synchronizer that installs with `m`, of records with distinct ids,
asks the runner, besides where `m` keeps its global packages, for exactly the installs of
`dueInstalls` in order, each with `m`'s global install command for its spec (`installCommand_argv`);
and among those each record's id appears once when the channel is a release channel and the record
is bundled, or the record is from the registry with a spec and is not, on `dev`, one whose bundled
copy is a directory, and not at all otherwise. So no plugin is installed twice across the two
passes. -/
theorem reconcile_installs_once {m : Manager} {t : Nat} (store : String) (c : AppConfig)
    (ch : Channel) (ws : String) (w : World) (hw : w.plugins = .real m t)
    (hids : (c.plugins.installs.map Prod.fst).Nodup) :
    InstallsAsked m t w ((reconcile store c ch ws).run w).2
        ((dueInstalls ch (fun id => w.machine.isDir (Path.join (Path.join ws "extensions") id))
          c.plugins.installs).map fun x => installCommand m t x.2) ∧
      ∀ id r, (id, r) ∈ c.plugins.installs →
        ((dueInstalls ch (fun id => w.machine.isDir (Path.join (Path.join ws "extensions") id))
          c.plugins.installs).map Prod.fst).count id =
          if (ch ≠ .dev ∧ r.source = .bundled) ∨ (r.source = .npm ∧ r.spec.isSome ∧
            ¬(ch = .dev ∧ w.machine.isDir (Path.join (Path.join ws "extensions") id) = true))
          then 1 else 0 := by
  refine ⟨?_, fun id r h => count_dueInstalls ch _ hids h⟩
  obtain ⟨r₁, w₁, skip, r₂, w₂, h₁, hskip, h₂, rep, w', hrun, hrec, -, -⟩ :=
    Synchronizer.reconcile_passes_then_save ⟨sync, updateInstalled⟩ store c ch ws w
  have hrun' : (reconcile store c ch ws).run w = (rep, w') := hrun
  rw [hrun']
  -- the save, when there is one
  have hsave : InstallsAsked m t w₂ w' [] := by
    cases hch : passesChanged r₁ r₂
    · rw [(hrec.unsaved hch).1]
      exact .refl m t _
    · obtain ⟨rs, hsv, -, -⟩ := hrec.saved hch
      have := save_asked m t store (passConfig (passConfig c r₁) r₂) w₂
      rwa [hsv] at this
  -- the sync pass, a chain of steps that leaves the plugin collaborator as it was
  obtain ⟨d, installs, w₁', hs, hsteps⟩ := sync_steps c ch ws w hw
  obtain ⟨a, M, xs, hs'⟩ := sync_run c ch ws w
  have hw₁ : w₁'.plugins = .real m t := by
    rw [hs] at hs'
    rw [(Prod.mk.inj hs').2]
    exact hw
  rw [hs] at h₁
  obtain ⟨rfl, rfl⟩ := Prod.mk.inj h₁
  -- the update pass, from there
  obtain ⟨outs, installs₂, w₂', hu, hsteps₂⟩ := updateInstalled_steps
    { c with plugins := { c.plugins with installs := installs } } skip w₁' hw₁
  simp only [passConfig] at h₂
  rw [hu] at h₂
  obtain ⟨rfl, rfl⟩ := Prod.mk.inj h₂
  have hbridge : installs.filterMap (pendingInstall skip) = c.plugins.installs.filterMap
      (updateInstall ch fun id => w.machine.isDir (Path.join (Path.join ws "extensions") id)) :=
    hsteps.pendingInstalls hids (fun id _ => by simpa [syncSummary] using hskip id) (fun _ _ => rfl)
  have hall := (((InstallsAsked.call_left _).mp hsteps.asked).trans hsteps₂.asked).trans hsave
  rw [hbridge] at hall
  simpa [dueInstalls] using hall

theorem reconcile_installs_two_plugins :
    npmPluginWorld.plugins = .real .npm 1000 ∧ (twoPlugins.plugins.installs.map Prod.fst).Nodup ∧
      InstallsAsked .npm 1000 npmPluginWorld
          ((reconcile "/s" twoPlugins .stable "/w").run npmPluginWorld).2
          ((dueInstalls .stable
            (fun id => npmPluginWorld.machine.isDir (Path.join (Path.join "/w" "extensions") id))
            twoPlugins.plugins.installs).map fun x => installCommand .npm 1000 x.2) ∧
        ∀ id r, (id, r) ∈ twoPlugins.plugins.installs →
          ((dueInstalls .stable
            (fun id => npmPluginWorld.machine.isDir (Path.join (Path.join "/w" "extensions") id))
            twoPlugins.plugins.installs).map Prod.fst).count id =
            if (Channel.stable ≠ .dev ∧ r.source = .bundled) ∨ (r.source = .npm ∧ r.spec.isSome ∧
              ¬(Channel.stable = .dev ∧
                npmPluginWorld.machine.isDir (Path.join (Path.join "/w" "extensions") id) = true))
            then 1 else 0 :=
  ⟨rfl, by decide, reconcile_installs_once "/s" twoPlugins .stable "/w" npmPluginWorld rfl (by decide)⟩

end Updater.Plugin
