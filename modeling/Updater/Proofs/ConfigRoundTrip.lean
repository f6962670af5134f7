import Updater.Proofs.ConfigValues
import Updater.Proofs.CanonicalValues

/-! Writing a configuration and reading it back.

A configuration is written as a table: `[update]` and `[plugins]` when they hold anything, then
the kept entries (`AppConfig.entries`). What a reader of the written value sees depends only on
its canonical form, so the round trip is stated on `(Value.table c.entries).canon`.

A configuration read from a document fits its own written form (`AppConfig.Fits`): its kept
entries are sorted by key, canonical, named by no known key and within reach of a 64-bit reader,
and its records are sorted by plugin id. Every configuration read from a canonical value fits
(`fits_of_configOf`), and every fitting one is read back from its written value
(`configOf_canon_entries`). -/

namespace Updater.Config

open Toml

/-! ## Reading entries that were sorted -/

theorem lastOf_sortByName {β : Type} (read : Value → Option β) (key : String)
    (es : List (String × Value)) (init : β) :
    lastOf read key (sortByName es) init = lastOf read key es init := by
  unfold lastOf
  rw [filter_sortByName, sortByName_of_sorted]
  apply List.pairwise_of_forall_mem_list
  intro a ha b hb
  simp only [List.mem_filter, beq_iff_eq] at ha hb
  rw [ha.2, hb.2]

theorem lastOf_single {β : Type} (read : Value → Option β) (key : String) (v : Value) (init : β) :
    lastOf read key [(key, v)] init = read v := by
  simp [lastOf]

theorem lastOf_append_of_unnamed {β : Type} (read : Value → Option β) (key : String)
    (A B : List (String × Value)) (hB : ∀ e ∈ B, (e.1 == key) = false) (init : β) :
    lastOf read key (A ++ B) init = lastOf read key A init := by
  have hnone : B.filter (·.1 == key) = [] := List.filter_eq_nil_iff.mpr fun e he => by simp [hB e he]
  unfold lastOf
  rw [List.filter_append, hnone, List.append_nil]

theorem lastOf_unnamed_append {β : Type} (read : Value → Option β) (key : String)
    (A B : List (String × Value)) (hA : ∀ e ∈ A, (e.1 == key) = false) (init : β) :
    lastOf read key (A ++ B) init = lastOf read key B init := by
  have hnone : A.filter (·.1 == key) = [] := List.filter_eq_nil_iff.mpr fun e he => by simp [hA e he]
  unfold lastOf
  rw [List.filter_append, hnone, List.nil_append]

theorem canonEntries_append (A B : List (String × Value)) :
    canonEntries (A ++ B) = canonEntries A ++ canonEntries B := by
  simp [canonEntries_eq_map]

theorem unnamed_canonEntries {key : String} {B : List (String × Value)}
    (hB : ∀ e ∈ B, (e.1 == key) = false) : ∀ e ∈ canonEntries B, (e.1 == key) = false := by
  intro e he
  rw [canonEntries_eq_map, List.mem_map] at he
  obtain ⟨e', he', rfl⟩ := he
  exact hB e' he'

/-- Entries kept as they were read: sorted by key, canonical, named by no known key, and
within reach of a 64-bit reader. -/
structure KeptFits (known : String → Bool) (es : List (String × Value)) : Prop where
  sorted : es.Pairwise (fun a b => a.1 ≤ b.1)
  canon : ∀ e ∈ es, e.2.canon = e.2
  unknown : ∀ e ∈ es, known e.1 = false
  narrow : keptWideEntries es = some false

theorem canonEntries_of_canon {es : List (String × Value)} (h : ∀ e ∈ es, e.2.canon = e.2) :
    canonEntries es = es := by
  rw [canonEntries_eq_map]
  conv_rhs => rw [← List.map_id es]
  exact List.map_congr_left fun e he => by rw [h e he]; rfl

theorem keptOf_written {known : String → Bool} {A B : List (String × Value)}
    (hA : ∀ e ∈ A, known e.1 = true) (hB : KeptFits known B) :
    keptOf known (sortByName (canonEntries (A ++ B))) = some B := by
  have hfilter : (canonEntries (A ++ B)).filter (fun e => !known e.1) = B := by
    rw [canonEntries_eq_map, List.filter_map, List.filter_append, List.filter_eq_nil_iff.mpr,
      List.filter_eq_self.mpr, List.nil_append, ← canonEntries_eq_map, canonEntries_of_canon hB.canon]
    · intro e he
      simp [hB.unknown e he]
    · intro e he
      simp [hA e he]
  simp only [keptOf, filter_sortByName, hfilter, sortByName_of_sorted hB.sorted, hB.narrow,
    Option.bind_some]
  rfl

/-! ## Records -/

theorem variantOf_sources_name (s : PluginSource) : variantOf sources (.string s.name) = some s := by
  cases s <;> decide

theorem variantOf_channels_name (ch : Channel) : variantOf channels (.string ch.name) = some ch := by
  cases ch <;> decide

theorem recordOf_written (r : InstallRecord) : recordOf (Value.table r.entries).canon = some r := by
  obtain ⟨source, spec, version, installPath⟩ := r
  simp only [recordOf, Value.canon, fieldsOf, Option.bind_eq_bind, Option.bind_some,
    lastOf_sortByName]
  cases spec <;> cases version <;> cases installPath <;>
    simp [InstallRecord.entries, canonEntries, Value.canon, lastOf, variantOf_sources_name, stringOf]

theorem installsOf_written {is : List (String × InstallRecord)}
    (h : is.Pairwise (fun a b => a.1 ≤ b.1)) :
    installsOf (Value.table (is.map fun (id, r) => (id, Value.table r.entries))).canon = some is := by
  have hsorted : (canonEntries (is.map fun (id, r) => (id, Value.table r.entries))).Pairwise
      (fun a b => a.1 ≤ b.1) := by
    rw [canonEntries_eq_map, List.map_map, List.pairwise_map]
    exact h
  simp only [installsOf, Value.canon, fieldsOf, sortByName_of_sorted hsorted, Option.bind_eq_bind,
    Option.bind_some]
  clear hsorted h
  induction is with
  | nil => rfl
  | cons e rest ih =>
    obtain ⟨id, r⟩ := e
    simp only [Functor.map] at ih
    simp [canonEntries, List.mapM_cons, recordOf_written, ih]

/-! ## The configuration -/

structure AppConfig.Fits (c : AppConfig) : Prop where
  update : KeptFits (· == "channel") c.update.extra
  installs : c.plugins.installs.Pairwise (fun a b => a.1 ≤ b.1)
  plugins : KeptFits (· == "installs") c.plugins.extra
  extra : KeptFits (fun k => k == "update" || k == "plugins") c.extra

theorem updateOf_written {u : UpdateSettings} (h : KeptFits (· == "channel") u.extra) :
    updateOf (Value.table ((u.channel.map fun ch => [("channel", Value.string ch.name)]).getD [] ++
      u.extra)).canon = some u := by
  have hknown : ∀ e ∈ (u.channel.map fun ch => [("channel", Value.string ch.name)]).getD [],
      (e.1 == "channel") = true := by
    cases u.channel <;> simp
  simp only [updateOf, Value.canon, fieldsOf, Option.bind_eq_bind, Option.bind_some]
  rw [keptOf_written hknown h]
  simp only [lastOf_sortByName, canonEntries_append,
    lastOf_append_of_unnamed _ _ _ _ (unnamed_canonEntries h.unknown)]
  cases u with
  | mk channel extra =>
    cases channel <;> simp [canonEntries, Value.canon, lastOf, variantOf_channels_name]

theorem pluginsOf_written {p : PluginSettings} (hi : p.installs.Pairwise (fun a b => a.1 ≤ b.1))
    (h : KeptFits (· == "installs") p.extra) :
    pluginsOf (Value.table
      ((if (p.installs.map fun (id, r) => (id, Value.table r.entries)).isEmpty then []
        else [("installs", Value.table (p.installs.map fun (id, r) => (id, Value.table r.entries)))]) ++
        p.extra)).canon = some p := by
  have hknown : ∀ e ∈ (if (p.installs.map fun (id, r) => (id, Value.table r.entries)).isEmpty then []
      else [("installs", Value.table (p.installs.map fun (id, r) => (id, Value.table r.entries)))]),
      (e.1 == "installs") = true := by
    split <;> simp
  simp only [pluginsOf, Value.canon, fieldsOf, Option.bind_eq_bind, Option.bind_some]
  rw [keptOf_written hknown h]
  simp only [lastOf_sortByName, canonEntries_append,
    lastOf_append_of_unnamed _ _ _ _ (unnamed_canonEntries h.unknown)]
  obtain ⟨installs, extra⟩ := p
  split
  · next hnil =>
    have : installs = [] := by simpa using hnil
    subst this
    rfl
  · simp [canonEntries, lastOf, installsOf_written hi]

theorem UpdateSettings.eq_empty {u : UpdateSettings} (h : u.isEmpty = true) : u = {} := by
  obtain ⟨channel, extra⟩ := u
  simp only [UpdateSettings.isEmpty, Bool.and_eq_true, Option.isNone_iff_eq_none,
    List.isEmpty_iff] at h
  rw [h.1, h.2]

theorem PluginSettings.eq_empty {p : PluginSettings} (h : p.isEmpty = true) : p = {} := by
  obtain ⟨installs, extra⟩ := p
  simp only [PluginSettings.isEmpty, Bool.and_eq_true, List.isEmpty_iff] at h
  rw [h.1, h.2]

theorem configOf_written {c : AppConfig} (hc : c.Fits) : configOf (Value.table c.entries).canon = some c := by
  -- the known part of the written table: `[update]` and `[plugins]` when they hold anything
  have hknown : ∀ e ∈ (if c.update.isEmpty then [] else [("update", Value.table
      ((c.update.channel.map fun ch => [("channel", Value.string ch.name)]).getD [] ++ c.update.extra))]) ++
      (if c.plugins.isEmpty then [] else [("plugins", Value.table
        ((if (c.plugins.installs.map fun (id, r) => (id, Value.table r.entries)).isEmpty then []
          else [("installs", Value.table (c.plugins.installs.map fun (id, r) => (id, Value.table r.entries)))]) ++
          c.plugins.extra))]),
      (e.1 == "update" || e.1 == "plugins") = true := by
    intro e he
    simp only [List.mem_append] at he
    rcases he with he | he <;> split at he <;> simp_all
  simp only [configOf, AppConfig.entries, Value.canon, fieldsOf, Option.bind_eq_bind, Option.bind_some]
  rw [keptOf_written hknown hc.extra]
  have hupd : ∀ e ∈ canonEntries c.extra, (e.1 == "update") = false :=
    unnamed_canonEntries fun e he => by
      have := hc.extra.unknown e he
      simp_all
  have hplug : ∀ e ∈ canonEntries c.extra, (e.1 == "plugins") = false :=
    unnamed_canonEntries fun e he => by
      have := hc.extra.unknown e he
      simp_all
  simp only [lastOf_sortByName, canonEntries_append, lastOf_append_of_unnamed _ _ _ _ hupd,
    lastOf_append_of_unnamed _ _ _ _ hplug]
  -- each known part is read from its own entry, or is empty
  obtain ⟨update, plugins, extra⟩ := c
  have hupdate : lastOf updateOf "update" (canonEntries (if update.isEmpty then [] else [("update",
      Value.table ((update.channel.map fun ch => [("channel", Value.string ch.name)]).getD [] ++
        update.extra))])) {} = some update := by
    split
    · next hu => rw [UpdateSettings.eq_empty hu]; rfl
    · simp only [canonEntries]
      rw [lastOf_single]
      exact updateOf_written hc.update
  have hplugins : lastOf pluginsOf "plugins" (canonEntries (if plugins.isEmpty then [] else [("plugins",
      Value.table ((if (plugins.installs.map fun (id, r) => (id, Value.table r.entries)).isEmpty then []
        else [("installs", Value.table (plugins.installs.map fun (id, r) => (id, Value.table r.entries)))]) ++
        plugins.extra))])) {} = some plugins := by
    split
    · next hp => rw [PluginSettings.eq_empty hp]; rfl
    · simp only [canonEntries]
      rw [lastOf_single]
      exact pluginsOf_written hc.installs hc.plugins
  rw [lastOf_append_of_unnamed, lastOf_unnamed_append, hupdate, hplugins]
  · rfl
  · intro e he
    split at he <;> simp_all [canonEntries]
  · intro e he
    split at he <;> simp_all [canonEntries]

/-! ## What is read fits -/

theorem fieldsOf_canon {v : Value} {es : List (String × Value)} (hv : v.canon = v)
    (h : fieldsOf v = some es) : es.Pairwise (fun a b => a.1 ≤ b.1) ∧ ∀ e ∈ es, e.2.canon = e.2 := by
  cases v with
  | table es' =>
    simp only [fieldsOf, Option.some.injEq] at h
    subst h
    exact canon_table_entries hv
  | datetime d =>
    simp only [fieldsOf, Option.some.injEq] at h
    subst h
    simp [Value.canon]
  | _ => simp [fieldsOf] at h

theorem KeptFits.nil (known : String → Bool) : KeptFits known [] :=
  ⟨List.Pairwise.nil, by simp, by simp, rfl⟩

theorem keptFits_of_keptOf {known : String → Bool} {es kept : List (String × Value)}
    (hsorted : es.Pairwise (fun a b => a.1 ≤ b.1)) (hcanon : ∀ e ∈ es, e.2.canon = e.2)
    (h : keptOf known es = some kept) : KeptFits known kept := by
  simp only [keptOf] at h
  cases hw : keptWideEntries (es.filter fun e => !known e.1) with
  | none => simp [hw] at h
  | some w =>
    cases w <;> simp [hw] at h
    subst h
    exact ⟨hsorted.sublist List.filter_sublist, fun e he => hcanon e (List.mem_of_mem_filter he),
      fun e he => by simpa using (List.mem_filter.mp he).2, hw⟩

theorem lastOf_eq_some {β : Type} {read : Value → Option β} {key : String}
    {es : List (String × Value)} {init b : β} (h : lastOf read key es init = some b) :
    b = init ∨ ∃ e ∈ es, read e.2 = some b := by
  unfold lastOf at h
  suffices ∀ (l : List (String × Value)) (init : β), l ⊆ es →
      l.foldlM (fun _ e => read e.2) init = some b → b = init ∨ ∃ e ∈ es, read e.2 = some b from
    this _ init (fun _ hx => List.mem_of_mem_filter hx) h
  intro l
  induction l with
  | nil => simp
  | cons e rest ih =>
    intro init hsub hfold
    simp only [List.foldlM_cons, Option.bind_eq_bind, Option.bind_eq_some_iff] at hfold
    obtain ⟨b', hb', hrest⟩ := hfold
    rcases ih b' (List.subset_of_cons_subset hsub) hrest with rfl | hmem
    · exact .inr ⟨e, hsub List.mem_cons_self, hb'⟩
    · exact .inr hmem

theorem updateFits_of_updateOf {v : Value} {u : UpdateSettings} (hv : v.canon = v)
    (h : updateOf v = some u) : KeptFits (· == "channel") u.extra := by
  simp only [updateOf, Option.bind_eq_bind, Option.bind_eq_some_iff, Option.pure_def,
    Option.some.injEq] at h
  obtain ⟨es, hes, channel, -, extra, hextra, rfl⟩ := h
  obtain ⟨hsorted, hcanon⟩ := fieldsOf_canon hv hes
  exact keptFits_of_keptOf hsorted hcanon hextra

theorem map_fst_of_mapM {es : List (String × Value)} {is : List (String × InstallRecord)}
    (h : es.mapM (fun e => (e.1, ·) <$> recordOf e.2) = some is) : is.map (·.1) = es.map (·.1) := by
  induction es generalizing is with
  | nil =>
    simp at h
    simp [← h]
  | cons e rest ih =>
    simp only [List.mapM_cons, Option.bind_eq_bind, Option.bind_eq_some_iff, Option.pure_def,
      Option.some.injEq, Functor.map, Option.map_eq_some_iff] at h
    obtain ⟨x, ⟨r, -, rfl⟩, xs, hxs, rfl⟩ := h
    simp [ih hxs]

theorem installsSorted_of_installsOf {v : Value} {is : List (String × InstallRecord)}
    (hv : v.canon = v) (h : installsOf v = some is) : is.Pairwise (fun a b => a.1 ≤ b.1) := by
  simp only [installsOf, Option.bind_eq_bind, Option.bind_eq_some_iff] at h
  obtain ⟨es, hes, hmap⟩ := h
  have hkeys := map_fst_of_mapM hmap
  have hsorted := (fieldsOf_canon hv hes).1
  have hids : (is.map (·.1)).Pairwise (· ≤ ·) := by
    rw [hkeys, List.pairwise_map]
    exact hsorted
  exact List.pairwise_map.mp hids

theorem pluginsFits_of_pluginsOf {v : Value} {p : PluginSettings} (hv : v.canon = v)
    (h : pluginsOf v = some p) :
    p.installs.Pairwise (fun a b => a.1 ≤ b.1) ∧ KeptFits (· == "installs") p.extra := by
  simp only [pluginsOf, Option.bind_eq_bind, Option.bind_eq_some_iff, Option.pure_def,
    Option.some.injEq] at h
  obtain ⟨es, hes, installs, hinstalls, extra, hextra, rfl⟩ := h
  obtain ⟨hsorted, hcanon⟩ := fieldsOf_canon hv hes
  refine ⟨?_, keptFits_of_keptOf hsorted hcanon hextra⟩
  rcases lastOf_eq_some hinstalls with rfl | ⟨e, he, hread⟩
  · exact List.Pairwise.nil
  · exact installsSorted_of_installsOf (hcanon e he) hread

theorem fits_of_configOf {v : Value} {c : AppConfig} (hv : v.canon = v) (h : configOf v = some c) :
    c.Fits := by
  simp only [configOf, Option.bind_eq_bind, Option.bind_eq_some_iff, Option.pure_def,
    Option.some.injEq] at h
  obtain ⟨es, hes, update, hupdate, plugins, hplugins, extra, hextra, rfl⟩ := h
  obtain ⟨hsorted, hcanon⟩ := fieldsOf_canon hv hes
  have hu : KeptFits (· == "channel") update.extra := by
    rcases lastOf_eq_some hupdate with rfl | ⟨e, he, hread⟩
    · exact KeptFits.nil _
    · exact updateFits_of_updateOf (hcanon e he) hread
  have hp : plugins.installs.Pairwise (fun a b => a.1 ≤ b.1) ∧
      KeptFits (· == "installs") plugins.extra := by
    rcases lastOf_eq_some hplugins with rfl | ⟨e, he, hread⟩
    · exact ⟨List.Pairwise.nil, KeptFits.nil _⟩
    · exact pluginsFits_of_pluginsOf (hcanon e he) hread
  exact ⟨hu, hp.1, hp.2, keptFits_of_keptOf hsorted hcanon hextra⟩

theorem configOf_canon_entries {v : Value} {c : AppConfig} (hv : v.canon = v)
    (h : configOf v = some c) : configOf (Value.table c.entries).canon = some c :=
  configOf_written (fits_of_configOf hv h)

end Updater.Config
