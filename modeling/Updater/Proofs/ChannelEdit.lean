import Updater.Config.Store
import Updater.Proofs.ConfigRoundTrip
import Updater.Proofs.DocumentReading

/-! What storing a channel does to the configuration.

`withChannel` edits the document in place: the `update` entry is made a table when it is
anything else, its `channel` is set, and every other entry stays. Read back, the configuration
is the one the file held with `update.channel` set; the other keys of `[update]` stay when
`update` was a table and are gone when it was replaced (`configOf_withChannel`). -/

namespace Updater.Config

open Toml

/-! ## Entries of a document table -/

theorem replaceEntry_cons_of_eq {e : Key × Toml.Node} {name : String} (h : e.1.name = name)
    (es : List (Key × Toml.Node)) (n : Toml.Node) :
    replaceEntry (e :: es) name n = (e.1, n) :: replaceEntry es name n := by
  simp [replaceEntry, h]

theorem replaceEntry_cons_of_ne {e : Key × Toml.Node} {name : String} (h : e.1.name ≠ name)
    (es : List (Key × Toml.Node)) (n : Toml.Node) :
    replaceEntry (e :: es) name n = e :: replaceEntry es name n := by
  simp [replaceEntry, h]

theorem lookup_cons_of_eq {e : Key × Toml.Node} {name : String} (h : e.1.name = name)
    (es : List (Key × Toml.Node)) : lookup (e :: es) name = some e.2 := by
  simp [lookup, h]

theorem lookup_cons_of_ne {e : Key × Toml.Node} {name : String} (h : e.1.name ≠ name)
    (es : List (Key × Toml.Node)) : lookup (e :: es) name = lookup es name := by
  simp [lookup, h]

theorem lookup_replaceEntry {es : List (Key × Toml.Node)} {name : String} (n : Toml.Node)
    (h : es.any (·.1.name == name)) : lookup (replaceEntry es name n) name = some n := by
  induction es with
  | nil => simp at h
  | cons e es ih =>
    by_cases he : e.1.name = name
    · rw [replaceEntry_cons_of_eq he, lookup_cons_of_eq (e := (e.1, n)) he]
    · have h' : es.any (·.1.name == name) := by simpa [he] using h
      rw [replaceEntry_cons_of_ne he, lookup_cons_of_ne he, ih h']

theorem lookup_setEntry (es : List (Key × Toml.Node)) (name : String) (n : Toml.Node) :
    lookup (setEntry es name n) name = some n := by
  unfold setEntry
  split
  · next h => exact lookup_replaceEntry n h
  · next h =>
    have hnone : es.find? (·.1.name == name) = none := by
      rw [List.find?_eq_none]
      intro e he
      simpa using fun heq => h (List.any_eq_true.mpr ⟨e, he, by simp [heq]⟩)
    simp [lookup, List.find?_append, hnone]

theorem filter_replaceEntry (q : String → Bool) {name : String} (hq : q name = false)
    (es : List (Key × Toml.Node)) (n : Toml.Node) :
    ((replaceEntry es name n).map plainEntry).filter (fun e => q e.1) =
      (es.map plainEntry).filter (fun e => q e.1) := by
  induction es with
  | nil => rfl
  | cons e es ih =>
    by_cases he : e.1.name = name
    · rw [replaceEntry_cons_of_eq he, List.map_cons, List.map_cons, List.filter_cons_of_neg,
        List.filter_cons_of_neg, ih]
      · simp [plainEntry, he, hq]
      · simp [plainEntry, he, hq]
    · rw [replaceEntry_cons_of_ne he, List.map_cons, List.map_cons, List.filter_cons,
        List.filter_cons, ih]

theorem filter_setEntry (q : String → Bool) {name : String} (hq : q name = false)
    (es : List (Key × Toml.Node)) (n : Toml.Node) :
    ((setEntry es name n).map plainEntry).filter (fun e => q e.1) =
      (es.map plainEntry).filter (fun e => q e.1) := by
  unfold setEntry
  split
  · exact filter_replaceEntry q hq es n
  · simp [plainEntry, hq]

theorem eq_of_mem_replaceEntry {es : List (Key × Toml.Node)} {name : String} {n : Toml.Node}
    {e : String × Value} (he : e ∈ (replaceEntry es name n).map plainEntry) (hname : e.1 = name) :
    e.2 = n.toValue := by
  simp only [replaceEntry, List.map_map, List.mem_map, Function.comp_apply] at he
  obtain ⟨e', -, rfl⟩ := he
  by_cases h : e'.1.name = name
  · simp [plainEntry, h]
  · simp [plainEntry, h] at hname

theorem exists_mem_of_lookup {es : List (Key × Toml.Node)} {name : String} {n : Toml.Node} (m : Toml.Node)
    (h : lookup es name = some n) : ∃ e ∈ (replaceEntry es name m).map plainEntry, e.1 = name := by
  obtain ⟨k, hk, hname⟩ := lookup_mem h
  refine ⟨plainEntry (k, m), ?_, hname⟩
  simp only [replaceEntry, List.map_map, List.mem_map, Function.comp_apply]
  exact ⟨(k, n), hk, by simp [plainEntry, hname]⟩

theorem entries?_of_isTableLike {n : Toml.Node} (h : n.isTableLike = true) : ∃ es, n.entries? = some es := by
  cases n <;> simp [Toml.Node.isTableLike] at h <;> exact ⟨_, rfl⟩

theorem eq_of_mem_setEntry {es : List (Key × Toml.Node)} {name : String} {n : Toml.Node}
    {e : String × Value} (he : e ∈ (setEntry es name n).map plainEntry) (hname : e.1 = name) :
    e.2 = n.toValue := by
  unfold setEntry at he
  split at he
  · exact eq_of_mem_replaceEntry he hname
  · next hnone =>
    simp only [List.map_append, List.map_cons, List.map_nil, List.mem_append, List.mem_singleton] at he
    rcases he with he | rfl
    · -- no entry had the key before
      obtain ⟨e', he', rfl⟩ := List.mem_map.mp he
      exact absurd (List.any_eq_true.mpr ⟨e', he', by simpa [plainEntry] using hname⟩) hnone
    · rfl

theorem mem_plain_of_lookup {es : List (Key × Toml.Node)} {name : String} {n : Toml.Node}
    (h : lookup es name = some n) : (name, n.toValue) ∈ es.map plainEntry := by
  obtain ⟨k, hk, hname⟩ := lookup_mem h
  exact List.mem_map.mpr ⟨(k, n), hk, by simp [plainEntry, hname]⟩

theorem unnamed_of_lookup_none {es : List (Key × Toml.Node)} {name : String} (h : lookup es name = none) :
    ∀ e ∈ es.map plainEntry, (e.1 == name) = false := by
  intro e he
  obtain ⟨e', he', rfl⟩ := List.mem_map.mp he
  simp only [lookup, Option.map_eq_none_iff, List.find?_eq_none] at h
  simpa [plainEntry] using h e' he'

theorem eq_of_mem_of_nodup {es : List (Key × Toml.Node)} {name : String} {n : Toml.Node}
    (hnodup : (es.map (·.1.name)).Nodup) (hl : lookup es name = some n) {e : String × Value}
    (he : e ∈ es.map plainEntry) (hname : e.1 = name) : e.2 = n.toValue := by
  obtain ⟨k, hk, hkname⟩ := lookup_mem hl
  obtain ⟨e', he', rfl⟩ := List.mem_map.mp he
  have : e' = (k, n) :=
    List.inj_on_of_nodup_map hnodup he' hk (by simpa [plainEntry, hkname] using hname)
  subst this
  rfl

/-! ## Reading what was edited -/

theorem lastOf_congr {β : Type} (read : Value → Option β) (key : String) {L L' : List (String × Value)}
    (h : L.filter (·.1 == key) = L'.filter (·.1 == key)) (init : β) :
    lastOf read key L init = lastOf read key L' init := by
  unfold lastOf
  rw [h]

theorem lastOf_of_all {β : Type} (read : Value → Option β) {key : String} {L : List (String × Value)}
    {v : Value} (hall : ∀ e ∈ L, e.1 = key → e.2 = v) (hex : ∃ e ∈ L, e.1 = key) (init : β) :
    lastOf read key L init = read v := by
  unfold lastOf
  have hall' : ∀ e ∈ L.filter (·.1 == key), e.2 = v := fun e he => by
    rw [List.mem_filter, beq_iff_eq] at he
    exact hall e he.1 he.2
  have hne : L.filter (·.1 == key) ≠ [] := by
    obtain ⟨e, he, hk⟩ := hex
    exact List.ne_nil_of_mem (List.mem_filter.mpr ⟨he, by simp [hk]⟩)
  generalize L.filter (·.1 == key) = F at hall' hne
  induction F generalizing init with
  | nil => exact absurd rfl hne
  | cons e rest ih =>
    rw [List.foldlM_cons, hall' e List.mem_cons_self]
    cases rest with
    | nil => simp
    | cons e' rest' =>
      have := fun b => ih b (fun e'' h => hall' e'' (List.mem_cons_of_mem e h)) (by simp)
      cases hv : read v <;> simp [this, hv]

theorem toValue_of_entries {n : Toml.Node} {es : List (Key × Toml.Node)} (h : n.entries? = some es) :
    n.toValue = .table (sortByName (es.map plainEntry)) := by
  cases n <;> simp [Toml.Node.entries?] at h <;> subst h <;> simp [Toml.Node.toValue, entriesToValues_eq_map]

theorem toValue_withEntries {n : Toml.Node} {es : List (Key × Toml.Node)} (h : n.entries? = some es)
    (es' : List (Key × Toml.Node)) : (n.withEntries es').toValue = .table (sortByName (es'.map plainEntry)) := by
  cases n <;> simp [Toml.Node.entries?] at h <;> simp [Toml.Node.withEntries, Toml.Node.toValue, entriesToValues_eq_map]

theorem configOf_congr {L L' : List (String × Value)} {c : AppConfig} {u : UpdateSettings}
    (h : configOf (.table (sortByName L)) = some c)
    (hplugins : L'.filter (·.1 == "plugins") = L.filter (·.1 == "plugins"))
    (hextra : L'.filter (fun e => !(e.1 == "update" || e.1 == "plugins")) =
      L.filter (fun e => !(e.1 == "update" || e.1 == "plugins")))
    (hupdate : lastOf updateOf "update" L' {} = some u) :
    configOf (.table (sortByName L')) = some { c with update := u } := by
  simp only [configOf, fieldsOf, Option.bind_eq_bind, Option.bind_some, lastOf_sortByName] at h ⊢
  simp only [Option.bind_eq_some_iff, Option.pure_def, Option.some.injEq] at h
  obtain ⟨u₀, -, p, hp, x, hx, rfl⟩ := h
  have hkept : keptOf (fun k => k == "update" || k == "plugins") (sortByName L') =
      keptOf (fun k => k == "update" || k == "plugins") (sortByName L) := by
    simp only [keptOf, filter_sortByName, hextra]
  rw [hupdate, Option.bind_some, lastOf_congr pluginsOf "plugins" hplugins, hp, Option.bind_some,
    hkept, hx]
  rfl

theorem lastOf_update_of_configOf {L : List (String × Value)} {c : AppConfig}
    (h : configOf (.table (sortByName L)) = some c) : lastOf updateOf "update" L {} = some c.update := by
  simp only [configOf, fieldsOf, Option.bind_eq_bind, Option.bind_some, lastOf_sortByName] at h
  simp only [Option.bind_eq_some_iff, Option.pure_def, Option.some.injEq] at h
  obtain ⟨u, hu, p, -, x, -, rfl⟩ := h
  exact hu

def channelNode (ch : Channel) : Toml.Node := .scalar (.string ch.name) none {} none

theorem updateOf_setChannel {ues : List (Key × Toml.Node)} {u : UpdateSettings}
    (h : updateOf (.table (sortByName (ues.map plainEntry))) = some u) (ch : Channel) :
    updateOf (.table (sortByName ((setEntry ues "channel" (channelNode ch)).map plainEntry))) =
      some { channel := some ch, extra := u.extra } := by
  simp only [updateOf, fieldsOf, Option.bind_eq_bind, Option.bind_some, lastOf_sortByName] at h ⊢
  simp only [Option.bind_eq_some_iff, Option.pure_def, Option.some.injEq] at h
  obtain ⟨ch₀, -, x, hx, rfl⟩ := h
  have hchannel : lastOf (fun w => some <$> variantOf channels w) "channel"
      ((setEntry ues "channel" (channelNode ch)).map plainEntry) none = some (some ch) := by
    have hex := mem_plain_of_lookup (lookup_setEntry ues "channel" (channelNode ch))
    rw [lastOf_of_all _ (fun e he hname => eq_of_mem_setEntry he hname) ⟨_, hex, rfl⟩]
    simp [channelNode, Toml.Node.toValue, Scalar.toValue, variantOf_channels_name]
  have hkept : keptOf (· == "channel") (sortByName ((setEntry ues "channel" (channelNode ch)).map plainEntry)) =
      keptOf (· == "channel") (sortByName (ues.map plainEntry)) := by
    simp only [keptOf, filter_sortByName]
    rw [filter_setEntry (fun k => !(k == "channel")) rfl]
  rw [hchannel, Option.bind_some, hkept, hx]
  rfl

theorem updateOf_fresh (ch : Channel) :
    updateOf (Toml.Node.emptyTable.withEntries (setEntry [] "channel" (channelNode ch))).toValue =
      some { channel := some ch } := by
  rw [toValue_withEntries (rfl : Toml.Node.emptyTable.entries? = some [])]
  exact updateOf_setChannel (u := {}) (by simp [updateOf, fieldsOf, lastOf, keptOf, keptWideEntries, sortByName]) ch

theorem configOf_replaceUpdate {es es₁ : List (Key × Toml.Node)} {c : AppConfig} {old upd : Toml.Node}
    {u : UpdateSettings} (h : configOf (.table (sortByName (es.map plainEntry))) = some c)
    (hsame : ∀ q : String → Bool, q "update" = false →
      (es₁.map plainEntry).filter (fun e => q e.1) = (es.map plainEntry).filter (fun e => q e.1))
    (hold : lookup es₁ "update" = some old) (hu : updateOf upd.toValue = some u) :
    configOf (.table (sortByName ((replaceEntry es₁ "update" upd).map plainEntry))) =
      some { c with update := u } := by
  have hother : ∀ q : String → Bool, q "update" = false →
      ((replaceEntry es₁ "update" upd).map plainEntry).filter (fun e => q e.1) =
        (es.map plainEntry).filter (fun e => q e.1) := fun q hq =>
    (filter_replaceEntry q hq es₁ upd).trans (hsame q hq)
  refine configOf_congr h (hother (· == "plugins") rfl)
    (hother (fun k => !(k == "update" || k == "plugins")) rfl) ?_
  rw [lastOf_of_all _ (fun e he hname => eq_of_mem_replaceEntry he hname)
    (exists_mem_of_lookup upd hold), hu]

theorem configOf_freshUpdate {es : List (Key × Toml.Node)} {c : AppConfig}
    (h : configOf (.table (sortByName (es.map plainEntry))) = some c) (ch : Channel) :
    configOf (.table (sortByName ((replaceEntry (setEntry es "update" Toml.Node.emptyTable) "update"
      (Toml.Node.emptyTable.withEntries (setEntry [] "channel" (channelNode ch)))).map plainEntry))) =
      some { c with update := { channel := some ch } } :=
  configOf_replaceUpdate h (fun q hq => filter_setEntry q hq es _)
    (lookup_setEntry es "update" Toml.Node.emptyTable) (updateOf_fresh ch)

theorem updateOf_of_lookup {es : List (Key × Toml.Node)} {c : AppConfig} {n : Toml.Node}
    (hnodup : (es.map (·.1.name)).Nodup) (h : configOf (.table (sortByName (es.map plainEntry))) = some c)
    (hl : lookup es "update" = some n) : updateOf n.toValue = some c.update := by
  rw [← lastOf_update_of_configOf h, lastOf_of_all _
    (fun e he hname => eq_of_mem_of_nodup hnodup hl he hname) ⟨_, mem_plain_of_lookup hl, rfl⟩]

theorem configOf_withChannel {doc : Toml.Document} {es : List (Key × Toml.Node)} {c : AppConfig}
    (ch : Channel) (hroot : doc.root.entries? = some es) (hnodup : (es.map (·.1.name)).Nodup)
    (h : configOf doc.root.toValue = some c) :
    configOf (withChannel doc ch).root.toValue =
      some { c with update :=
        ⟨some ch, if (lookup es "update").all Toml.Node.isTableLike then c.update.extra else []⟩ } := by
  rw [toValue_of_entries hroot] at h
  have hupdate := lastOf_update_of_configOf h
  simp only [withChannel, hroot, Option.getD_some]
  rw [toValue_withEntries hroot]
  cases hl : lookup es "update" with
  | none =>
    -- no `update` entry: the configuration had empty settings, and a fresh table is added
    have hc : c.update = {} := by
      have := lastOf_append_of_unnamed updateOf "update" [] (es.map plainEntry)
        (unnamed_of_lookup_none hl) {}
      rw [List.nil_append, hupdate, lastOf_nil] at this
      exact Option.some.inj this
    simp only [lookup_setEntry, Option.getD_some, Option.all_none, ↓reduceIte, hc]
    exact configOf_freshUpdate h ch
  | some n =>
    by_cases ht : n.isTableLike = true
    · -- a table stays, with its channel set
      obtain ⟨ues, hues⟩ := entries?_of_isTableLike ht
      simp only [ht, ↓reduceIte, hl, Option.getD_some, Option.all_some, hues]
      have hn := updateOf_of_lookup hnodup h hl
      rw [toValue_of_entries hues] at hn
      have hu := updateOf_setChannel hn ch
      rw [← toValue_withEntries hues] at hu
      exact configOf_replaceUpdate h (fun _ _ => rfl) hl hu
    · -- anything else is replaced by a fresh table
      simp only [ht, Bool.false_eq_true, ↓reduceIte, lookup_setEntry, Option.getD_some, Option.all_some]
      exact configOf_freshUpdate h ch

def updateIsDatetime (doc : Toml.Document) : Bool :=
  match lookup ((doc.root.entries?).getD []) "update" with
  | some (.scalar (.datetime _) ..) => true
  | _ => false

theorem isTableLike_update {doc : Toml.Document} {es : List (Key × Toml.Node)} {c : AppConfig}
    (hroot : doc.root.entries? = some es) (hnodup : (es.map (·.1.name)).Nodup)
    (h : configOf doc.root.toValue = some c) :
    (lookup es "update").all Toml.Node.isTableLike = !updateIsDatetime doc := by
  rw [toValue_of_entries hroot] at h
  unfold updateIsDatetime
  rw [hroot, Option.getD_some]
  cases hl : lookup es "update" with
  | none => rfl
  | some n =>
    have hu := updateOf_of_lookup hnodup h hl
    cases n with
    | scalar v raw decor span =>
      cases v <;> simp_all [Toml.Node.toValue, Scalar.toValue, updateOf, fieldsOf, Toml.Node.isTableLike]
    | array => simp [Toml.Node.toValue, updateOf, fieldsOf] at hu
    | inline => rfl
    | table => rfl
    | tables => simp [Toml.Node.toValue, updateOf, fieldsOf] at hu

end Updater.Config
