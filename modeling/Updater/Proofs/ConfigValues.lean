import Updater.Config.Model

/-! Reading a configuration from plain values.

The readers of `Config.Model` walk the nodes of a document in sorted key order and keep the first
error. Whether they succeed, and with what, depends only on the document's value: this module
states that meaning on plain values (`configOf` and the readers below it) and proves that the
node readers agree with it whenever they have fuel for the document's depth
(`readConfig_toOption`).

On values a table is read key by key: each known key is read by its own reader, the last entry
of a key winning, and every other entry is kept as it is, provided no kept integer is out of the
reach of a 64-bit reader (`keptOf`). -/

namespace Updater.Config

open Toml

/-! ## The meaning on values -/

def fieldsOf : Value → Option (List (String × Value))
  | .table es => some es
  | .datetime d => some [("$__toml_private_datetime", .string d.render)]
  | _ => none

mutual

/-- Whether a kept value holds an integer that needs 64 unsigned bits (`some true`), none out of
the signed range (`some false`), or one no reader takes (`none`). -/
def keptWide : Value → Option Bool
  | .integer i =>
    if -(bound64 : Int) ≤ i && i < bound64 then some false
    else match widthOf i with
      | .w64 => some true
      | _ => none
  | .array items => keptWideItems items
  | .table es => keptWideEntries es
  | _ => some false

def keptWideItems : List Value → Option Bool
  | [] => some false
  | v :: rest => (keptWide v).bind fun a => (keptWideItems rest).map (a || ·)

def keptWideEntries : List (String × Value) → Option Bool
  | [] => some false
  | (_, v) :: rest => (keptWide v).bind fun a => (keptWideEntries rest).map (a || ·)

end

def keptOf (known : String → Bool) (es : List (String × Value)) : Option (List (String × Value)) :=
  let kept := es.filter fun e => !known e.1
  (keptWideEntries kept).bind fun w => if w then none else some kept

/-- The entries of a key read in turn from `init`, the last one winning; none when one of them
does not read. -/
def lastOf {β : Type} (read : Value → Option β) (key : String) (es : List (String × Value))
    (init : β) : Option β :=
  (es.filter (·.1 == key)).foldlM (fun _ e => read e.2) init

def isEmptyTable : Value → Bool
  | .table [] => true
  | _ => false

def variantOf {α : Type} (variants : List (String × α)) : Value → Option α
  | .string s => (variants.find? (·.1 == s)).map (·.2)
  | .table [e] => if isEmptyTable e.2 then (variants.find? (·.1 == e.1)).map (·.2) else none
  | _ => none

def stringOf : Value → Option String
  | .string s => some s
  | _ => none

def updateOf (v : Value) : Option UpdateSettings := do
  let es ← fieldsOf v
  let channel ← lastOf (fun w => some <$> variantOf channels w) "channel" es none
  let extra ← keptOf (· == "channel") es
  pure { channel := channel, extra := extra }

def recordOf (v : Value) : Option InstallRecord := do
  let es ← fieldsOf v
  let source ← lastOf (fun w => some <$> variantOf sources w) "source" es none
  let spec ← lastOf (fun w => some <$> stringOf w) "spec" es none
  let version ← lastOf (fun w => some <$> stringOf w) "version" es none
  let installPath ← lastOf (fun w => some <$> stringOf w) "install_path" es none
  let s ← source
  pure ⟨s, spec, version, installPath⟩

def installsOf (v : Value) : Option (List (String × InstallRecord)) := do
  let es ← fieldsOf v
  es.mapM fun e => (e.1, ·) <$> recordOf e.2

def pluginsOf (v : Value) : Option PluginSettings := do
  let es ← fieldsOf v
  let installs ← lastOf installsOf "installs" es []
  let extra ← keptOf (· == "installs") es
  pure { installs := installs, extra := extra }

def configOf (v : Value) : Option AppConfig := do
  let es ← fieldsOf v
  let update ← lastOf updateOf "update" es {}
  let plugins ← lastOf pluginsOf "plugins" es {}
  let extra ← keptOf (fun k => k == "update" || k == "plugins") es
  pure { update := update, plugins := plugins, extra := extra }

/-! ## Nodes and their values -/

def plainEntry (e : Key × Toml.Node) : String × Value := (e.1.name, e.2.toValue)

theorem nodesToValues_eq_map (ns : List Toml.Node) : nodesToValues ns = ns.map Toml.Node.toValue := by
  induction ns with
  | nil => rfl
  | cons n ns ih => simp [nodesToValues, ih]

theorem entriesToValues_eq_map (es : List (Key × Toml.Node)) :
    entriesToValues es = es.map plainEntry := by
  induction es with
  | nil => rfl
  | cons e es ih => simp [entriesToValues, ih, plainEntry]

theorem map_mergeSort_plainEntry (es : List (Key × Toml.Node)) :
    (es.mergeSort fun a b => decide (a.1.name ≤ b.1.name)).map plainEntry =
      sortByName (es.map plainEntry) :=
  List.map_mergeSort fun _ _ _ _ => rfl

theorem sortedEntries_plain (n : Toml.Node) :
    (sortedEntries n).map (·.map plainEntry) = fieldsOf n.toValue := by
  cases n with
  | scalar v raw d s => cases v <;> rfl
  | array => rfl
  | inline es =>
    simp [sortedEntries, Toml.Node.entries?, Toml.Node.toValue, fieldsOf, entriesToValues_eq_map,
      map_mergeSort_plainEntry]
  | table es =>
    simp [sortedEntries, Toml.Node.entries?, Toml.Node.toValue, fieldsOf, entriesToValues_eq_map,
      map_mergeSort_plainEntry]
  | tables => rfl

/-! ## Depth -/

theorem depth_le_nodesDepth {m : Toml.Node} {ns : List Toml.Node} (h : m ∈ ns) : m.depth ≤ nodesDepth ns := by
  induction ns with
  | nil => cases h
  | cons n ns ih =>
    simp only [nodesDepth]
    rcases List.mem_cons.mp h with rfl | h
    · omega
    · have := ih h
      omega

theorem depth_le_entriesDepth {e : Key × Toml.Node} {es : List (Key × Toml.Node)} (h : e ∈ es) :
    e.2.depth ≤ entriesDepth es := by
  induction es with
  | nil => cases h
  | cons e' es ih =>
    simp only [entriesDepth]
    rcases List.mem_cons.mp h with rfl | h
    · omega
    · have := ih h
      omega

theorem depth_le_of_sortedEntries {n : Toml.Node} {es : List (Key × Toml.Node)} (h : sortedEntries n = some es)
    {e : Key × Toml.Node} (he : e ∈ es) : e.2.depth ≤ n.depth := by
  cases n with
  | scalar v raw d s =>
    cases v <;> simp [sortedEntries, Toml.Node.entries?] at h
    subst h
    simp at he
    simp [he, Toml.Node.depth]
  | array => simp [sortedEntries, Toml.Node.entries?] at h
  | inline es' =>
    simp only [sortedEntries, Toml.Node.entries?, Option.map_some, Option.some.injEq] at h
    subst h
    have := depth_le_entriesDepth (List.mem_mergeSort.mp he)
    simp only [Toml.Node.depth]
    omega
  | table es' =>
    simp only [sortedEntries, Toml.Node.entries?, Option.map_some, Option.some.injEq] at h
    subst h
    have := depth_le_entriesDepth (List.mem_mergeSort.mp he)
    simp only [Toml.Node.depth]
    omega
  | tables => simp [sortedEntries, Toml.Node.entries?] at h

/-! ## Kept values -/

/-! Success is what survives of a computation with errors once the error is forgotten. -/

@[simp] theorem toOption_bind {ε α β : Type} (x : Except ε α) (f : α → Except ε β) :
    (x >>= f).toOption = x.toOption.bind fun a => (f a).toOption := by
  cases x <;> rfl

@[simp] theorem toOption_map {ε α β : Type} (x : Except ε α) (f : α → β) :
    (f <$> x).toOption = x.toOption.map f := by
  cases x <;> rfl

@[simp] theorem toOption_pure {ε α : Type} (a : α) : (pure a : Except ε α).toOption = some a := rfl

theorem keptWide_or_bind (o r : Option Bool) (b : Bool) :
    (o.map (b || ·)).bind (fun b' => r.map (b' || ·)) =
      (o.bind fun a => r.map (a || ·)).map (b || ·) := by
  cases o <;> cases r <;> simp [Bool.or_assoc]

theorem foldlM_checkKept_items (fuel : Nat) (items : List Toml.Node) (b : Bool)
    (hitems : ∀ m ∈ items, (checkKept fuel m).toOption = keptWide m.toValue) :
    (items.foldlM (fun acc m => (acc || ·) <$> checkKept fuel m) b).toOption =
      (keptWideItems (items.map Toml.Node.toValue)).map (b || ·) := by
  induction items generalizing b with
  | nil => simp [keptWideItems]
  | cons m ms ih =>
    have hms : ∀ b', (ms.foldlM (fun acc m => (acc || ·) <$> checkKept fuel m) b').toOption =
        (keptWideItems (ms.map Toml.Node.toValue)).map (b' || ·) := fun b' =>
      ih b' fun m' h => hitems m' (List.mem_cons_of_mem m h)
    simp only [List.foldlM_cons, toOption_bind, toOption_map, hms, hitems m List.mem_cons_self,
      List.map_cons, keptWideItems, keptWide_or_bind]

theorem foldlM_checkKept_entries (fuel : Nat) (es : List (Key × Toml.Node)) (b : Bool)
    (hes : ∀ e ∈ es, (checkKept fuel e.2).toOption = keptWide e.2.toValue) :
    (es.foldlM (fun acc (e : Key × Toml.Node) => (acc || ·) <$> checkKept fuel e.2) b).toOption =
      (keptWideEntries (es.map plainEntry)).map (b || ·) := by
  induction es generalizing b with
  | nil => simp [keptWideEntries]
  | cons e es ih =>
    have hrest : ∀ b', (es.foldlM (fun acc (e : Key × Toml.Node) => (acc || ·) <$> checkKept fuel e.2)
        b').toOption = (keptWideEntries (es.map plainEntry)).map (b' || ·) := fun b' =>
      ih b' fun e' h => hes e' (List.mem_cons_of_mem e h)
    simp only [List.foldlM_cons, toOption_bind, toOption_map, hrest, hes e List.mem_cons_self,
      List.map_cons, plainEntry, keptWideEntries, keptWide_or_bind]

theorem checkKept_toOption : ∀ (fuel : Nat) (n : Toml.Node), n.depth < fuel →
    (checkKept fuel n).toOption = keptWide n.toValue
  | 0, _, h => absurd h (Nat.not_lt_zero _)
  | fuel + 1, n, h => by
    cases n with
    | scalar v raw d s =>
      cases v with
      | integer i =>
        simp only [checkKept, Toml.Node.toValue, Scalar.toValue, keptWide]
        split
        · rfl
        · cases widthOf i <;> rfl
      | _ => rfl
    | array items =>
      have hitems : ∀ m ∈ items, (checkKept fuel m).toOption = keptWide m.toValue := fun m hm =>
        checkKept_toOption fuel m (by
          have := depth_le_nodesDepth hm
          simp only [Toml.Node.depth] at h
          omega)
      simp only [checkKept, Toml.Node.toValue, keptWide, nodesToValues_eq_map]
      rw [foldlM_checkKept_items fuel items false hitems]
      simp
    | tables items =>
      have hitems : ∀ m ∈ items, (checkKept fuel m).toOption = keptWide m.toValue := fun m hm =>
        checkKept_toOption fuel m (by
          have := depth_le_nodesDepth hm
          simp only [Toml.Node.depth] at h
          omega)
      simp only [checkKept, Toml.Node.toValue, keptWide, nodesToValues_eq_map]
      rw [foldlM_checkKept_items fuel items false hitems]
      simp
    | inline es =>
      have hes : ∀ e ∈ es.mergeSort (fun a b => decide (a.1.name ≤ b.1.name)),
          (checkKept fuel e.2).toOption = keptWide e.2.toValue := fun e he =>
        checkKept_toOption fuel e.2 (by
          have := depth_le_entriesDepth (List.mem_mergeSort.mp he)
          simp only [Toml.Node.depth] at h
          omega)
      simp only [checkKept, sortedEntries, Toml.Node.entries?, Option.map_some, Toml.Node.toValue, keptWide,
        entriesToValues_eq_map]
      rw [foldlM_checkKept_entries fuel _ false hes, map_mergeSort_plainEntry]
      simp
    | table es =>
      have hes : ∀ e ∈ es.mergeSort (fun a b => decide (a.1.name ≤ b.1.name)),
          (checkKept fuel e.2).toOption = keptWide e.2.toValue := fun e he =>
        checkKept_toOption fuel e.2 (by
          have := depth_le_entriesDepth (List.mem_mergeSort.mp he)
          simp only [Toml.Node.depth] at h
          omega)
      simp only [checkKept, sortedEntries, Toml.Node.entries?, Option.map_some, Toml.Node.toValue, keptWide,
        entriesToValues_eq_map]
      rw [foldlM_checkKept_entries fuel _ false hes, map_mergeSort_plainEntry]
      simp

/-! ## Scalars and variants -/

@[simp] theorem toOption_ok {ε α : Type} (a : α) : (Except.ok a : Except ε α).toOption = some a := rfl

@[simp] theorem toOption_error {ε α : Type} (e : ε) : (Except.error e : Except ε α).toOption = none :=
  rfl

theorem readString_toOption (expected : String) (n : Toml.Node) :
    (readString expected n).toOption = stringOf n.toValue := by
  cases n with
  | scalar v => cases v <;> rfl
  | _ => rfl

theorem isEmptyTable_toValue_table (es : List (Key × Toml.Node)) :
    isEmptyTable (.table (sortByName (entriesToValues es))) = es.isEmpty := by
  cases es with
  | nil => simp [entriesToValues, sortByName, isEmptyTable]
  | cons e es =>
    obtain ⟨x, xs, hx⟩ := List.exists_cons_of_ne_nil
      (List.ne_nil_of_length_pos
        (by simp [sortByName, entriesToValues] : 0 < (sortByName (entriesToValues (e :: es))).length))
    simp [hx, isEmptyTable]

theorem variantOf_table_of_two_le {α : Type} (variants : List (String × α))
    (es : List (String × Value)) (h : 2 ≤ es.length) :
    variantOf variants (.table (sortByName es)) = none := by
  have hlen : (sortByName es).length = es.length := List.length_mergeSort _
  match hs : sortByName es with
  | [] => simp [hs] at hlen; omega
  | [_] => simp [hs] at hlen; omega
  | _ :: _ :: _ => rfl

theorem readVariant_toOption {α : Type} (variants : List (String × α)) (n : Toml.Node) :
    (readVariant variants n).toOption = variantOf variants n.toValue := by
  cases n
  case scalar v raw d sp =>
    cases v
    case string s =>
      simp only [readVariant, Toml.Node.toValue, Scalar.toValue, variantOf]
      split <;> simp [*]
    all_goals rfl
  case array => rfl
  case tables => rfl
  -- a table and an inline table are read alike: by their one entry
  all_goals
    rename_i es _ _ _ _
    rcases es with _ | ⟨⟨k, v⟩, _ | ⟨e₂, rest⟩⟩
    · simp [readVariant, Toml.Node.toValue, entriesToValues, sortByName, variantOf]
    · simp only [readVariant, Toml.Node.toValue, entriesToValues_eq_map, List.map_cons, List.map_nil,
        sortByName, List.mergeSort_singleton, plainEntry, variantOf, toOption_bind]
      cases v
      case table ces _ _ _ _ =>
        cases ces <;> simp only [Toml.Node.toValue, isEmptyTable_toValue_table] <;>
          split <;> simp [*]
      case inline ces _ _ _ _ =>
        cases ces <;> simp only [Toml.Node.toValue, isEmptyTable_toValue_table] <;>
          split <;> simp [*]
      case scalar w _ _ _ => cases w <;> simp [Toml.Node.toValue, Scalar.toValue, isEmptyTable]
      all_goals simp [Toml.Node.toValue, isEmptyTable]
    · simp only [readVariant, Toml.Node.toValue]
      rw [variantOf_table_of_two_le _ _ (by simp [entriesToValues_eq_map])]
      rfl

/-! ## Records -/

theorem lastOf_nil {β : Type} (read : Value → Option β) (key : String) (init : β) :
    lastOf read key [] init = some init := rfl

theorem lastOf_cons {β : Type} (read : Value → Option β) (key : String) (e : String × Value)
    (es : List (String × Value)) (init : β) :
    lastOf read key (e :: es) init =
      if e.1 == key then (read e.2).bind fun b => lastOf read key es b else lastOf read key es init := by
  unfold lastOf
  rw [List.filter_cons]
  split <;> simp [*]

theorem foldlM_readRecordField (es : List (Key × Toml.Node)) (f : RecordFields) :
    (es.foldlM readRecordField f).toOption =
      (lastOf (fun w => some <$> variantOf sources w) "source" (es.map plainEntry) f.source).bind
        fun source =>
      (lastOf (fun w => some <$> stringOf w) "spec" (es.map plainEntry) f.spec).bind fun spec =>
      (lastOf (fun w => some <$> stringOf w) "version" (es.map plainEntry) f.version).bind
        fun version =>
      (lastOf (fun w => some <$> stringOf w) "install_path" (es.map plainEntry) f.installPath).map
        fun installPath =>
        { source := source, spec := spec, version := version, installPath := installPath } := by
  induction es generalizing f with
  | nil => rfl
  | cons e rest ih =>
    obtain ⟨k, v⟩ := e
    simp only [List.foldlM_cons, toOption_bind, ih, List.map_cons, plainEntry, lastOf_cons]
    simp only [readRecordField]
    split
    next heq =>
      simp only [heq, toOption_bind, toOption_pure, readVariant_toOption]
      cases variantOf sources v.toValue <;> simp
    next heq =>
      simp only [heq, toOption_bind, toOption_pure, readString_toOption]
      cases stringOf v.toValue <;> simp
    next heq =>
      simp only [heq, toOption_bind, toOption_pure, readString_toOption]
      cases stringOf v.toValue <;> simp
    next heq =>
      simp only [heq, toOption_bind, toOption_pure, readString_toOption]
      cases stringOf v.toValue <;> simp
    next h₁ h₂ h₃ h₄ =>
      simp only [toOption_ok, Option.bind_some, beq_iff_eq]
      rw [if_neg h₁, if_neg h₂, if_neg h₃, if_neg h₄]

theorem readRecord_toOption (n : Toml.Node) : (readRecord n).toOption = recordOf n.toValue := by
  have hplain := sortedEntries_plain n
  unfold readRecord recordOf
  cases hs : sortedEntries n with
  | none =>
    rw [hs] at hplain
    simp [← hplain]
  | some es =>
    rw [hs] at hplain
    simp only [toOption_bind, foldlM_readRecordField, ← hplain, Option.map_some, Option.bind_eq_bind,
      Option.bind_some, Option.bind_assoc, Option.bind_map]
    -- the source decides between a record and the missing-field error
    cases lastOf (fun w => some <$> variantOf sources w) "source" (es.map plainEntry) none with
    | none => rfl
    | some source => cases source <;> simp only [Function.comp_def] <;> simp

theorem readInstalls_toOption (n : Toml.Node) : (readInstalls n).toOption = installsOf n.toValue := by
  have hplain := sortedEntries_plain n
  unfold readInstalls installsOf
  cases hs : sortedEntries n with
  | none =>
    rw [hs] at hplain
    simp [← hplain]
  | some es =>
    rw [hs] at hplain
    simp only [← hplain, Option.map_some]
    clear hs hplain
    induction es with
    | nil => rfl
    | cons e rest ih =>
      simp only [List.mapM_cons, toOption_bind, toOption_pure, ih, readRecord_toOption, List.map_cons,
        plainEntry]
      simp [Option.bind_map, Option.bind_assoc, Function.comp_def]

/-! ## Tables with kept entries -/

/-- One step of reading a table with kept entries, on values: a known key is read by its own
reader, any other entry is kept once its integers are checked. -/
def extrasStep {α : Type} (known : α → String → Value → Option (Option α))
    (keep : α → String → Value → α) (s : α × Bool) (e : String × Value) : Option (α × Bool) :=
  match known s.1 e.1 e.2 with
  | some r => r.map (·, s.2)
  | none => (keptWide e.2).map fun l => (keep s.1 e.1 e.2, s.2 || l)

theorem readWithExtras_toOption {α : Type} (fuel : Nat) (span : Option Span) (es : List (Key × Toml.Node))
    (init : α) (known : α → Key → Toml.Node → Option (Except Problem α)) (keep : α → String → Value → α)
    (known' : α → String → Value → Option (Option α))
    (hknown : ∀ e ∈ es, ∀ a, (known a e.1 e.2).map Except.toOption = known' a e.1.name e.2.toValue)
    (hkept : ∀ e ∈ es, (checkKept fuel e.2).toOption = keptWide e.2.toValue) :
    (readWithExtras fuel span es init known keep).toOption =
      ((es.map plainEntry).foldlM (extrasStep known' keep) (init, false)).bind fun r =>
        if r.2 then none else some r.1 := by
  unfold readWithExtras
  rw [toOption_bind]
  congr 1
  · -- the loop, entry by entry
    generalize (init, false) = s
    induction es generalizing s with
    | nil => rfl
    | cons e rest ih =>
      obtain ⟨k, v⟩ := e
      have hrest := ih (fun e he a => hknown e (List.mem_cons_of_mem _ he) a)
        (fun e he => hkept e (List.mem_cons_of_mem _ he))
      obtain ⟨a, large⟩ := s
      have hk := hknown (k, v) List.mem_cons_self a
      simp only [List.foldlM_cons, toOption_bind, hrest, List.map_cons, plainEntry, extrasStep]
      cases hkn : known a k v with
      | none =>
        rw [hkn] at hk
        simp only [Option.map_none] at hk
        simp [← hk, hkept (k, v) List.mem_cons_self, Option.map_eq_bind, Option.bind_assoc]
      | some r =>
        rw [hkn] at hk
        simp only [Option.map_some] at hk
        simp [← hk, Option.map_eq_bind, Option.bind_assoc]
  · funext r
    obtain ⟨a, large⟩ := r
    cases large <;> rfl

/-! ## The three tables with kept entries -/

def updateKnown (u : UpdateSettings) (k : String) (v : Value) : Option (Option UpdateSettings) :=
  if k == "channel" then some ((fun c => { u with channel := some c }) <$> variantOf channels v)
  else none

def pluginsKnown (p : PluginSettings) (k : String) (v : Value) : Option (Option PluginSettings) :=
  if k == "installs" then some ((fun i => { p with installs := i }) <$> installsOf v) else none

def configKnown (c : AppConfig) (k : String) (v : Value) : Option (Option AppConfig) :=
  if k == "update" then some ((fun u => { c with update := u }) <$> updateOf v)
  else if k == "plugins" then some ((fun p => { c with plugins := p }) <$> pluginsOf v)
  else none

theorem keptWideEntries_cons (k : String) (v : Value) (es : List (String × Value)) :
    keptWideEntries ((k, v) :: es) = (keptWide v).bind fun a => (keptWideEntries es).map (a || ·) :=
  rfl

theorem foldlM_extrasStep_update (L : List (String × Value)) (u : UpdateSettings) (large : Bool) :
    L.foldlM (extrasStep updateKnown fun u name v => { u with extra := u.extra ++ [(name, v)] })
        (u, large) =
      (lastOf (fun w => some <$> variantOf channels w) "channel" L u.channel).bind fun channel =>
        (keptWideEntries (L.filter fun e => !(e.1 == "channel"))).map fun w =>
          ({ channel := channel, extra := u.extra ++ L.filter fun e => !(e.1 == "channel") },
            large || w) := by
  induction L generalizing u large with
  | nil => simp [lastOf_nil, keptWideEntries]
  | cons e rest ih =>
    obtain ⟨k, v⟩ := e
    simp only [List.foldlM_cons, lastOf_cons, List.filter_cons, extrasStep, updateKnown]
    by_cases hk : k = "channel"
    · simp [hk, ih, Option.bind_map, Option.bind_assoc, Function.comp_def]
    · cases hw : keptWide v <;> simp [ih, hk, hw, Bool.or_assoc, keptWideEntries_cons, Function.comp_def]

theorem foldlM_extrasStep_plugins (L : List (String × Value)) (p : PluginSettings) (large : Bool) :
    L.foldlM (extrasStep pluginsKnown fun p name v => { p with extra := p.extra ++ [(name, v)] })
        (p, large) =
      (lastOf installsOf "installs" L p.installs).bind fun installs =>
        (keptWideEntries (L.filter fun e => !(e.1 == "installs"))).map fun w =>
          ({ installs := installs, extra := p.extra ++ L.filter fun e => !(e.1 == "installs") },
            large || w) := by
  induction L generalizing p large with
  | nil => simp [lastOf_nil, keptWideEntries]
  | cons e rest ih =>
    obtain ⟨k, v⟩ := e
    simp only [List.foldlM_cons, lastOf_cons, List.filter_cons, extrasStep, pluginsKnown]
    by_cases hk : k = "installs"
    · simp [hk, ih, Option.bind_map, Option.bind_assoc, Function.comp_def]
    · cases hw : keptWide v <;> simp [ih, hk, hw, Bool.or_assoc, keptWideEntries_cons, Function.comp_def]

theorem foldlM_extrasStep_config (L : List (String × Value)) (c : AppConfig) (large : Bool) :
    L.foldlM (extrasStep configKnown fun c name v => { c with extra := c.extra ++ [(name, v)] })
        (c, large) =
      (lastOf updateOf "update" L c.update).bind fun update =>
      (lastOf pluginsOf "plugins" L c.plugins).bind fun plugins =>
        (keptWideEntries (L.filter fun e => !(e.1 == "update" || e.1 == "plugins"))).map fun w =>
          ({ update := update, plugins := plugins,
             extra := c.extra ++ L.filter fun e => !(e.1 == "update" || e.1 == "plugins") },
            large || w) := by
  induction L generalizing c large with
  | nil => simp [lastOf_nil, keptWideEntries]
  | cons e rest ih =>
    obtain ⟨k, v⟩ := e
    simp only [List.foldlM_cons, lastOf_cons, List.filter_cons, extrasStep, configKnown]
    by_cases hu : k = "update"
    · simp [hu, ih, Option.bind_map, Option.bind_assoc, Function.comp_def]
    by_cases hp : k = "plugins"
    · -- the plugins read moves in front of the update read
      simp only [hp, ih, beq_iff_eq]
      cases pluginsOf v <;> simp
    · cases hw : keptWide v <;> simp [ih, hu, hp, hw, Bool.or_assoc, keptWideEntries_cons, Function.comp_def]

/-! ## The readers agree with the meaning -/

theorem readUpdate_toOption (fuel : Nat) (n : Toml.Node) (h : n.depth < fuel) :
    (readUpdate fuel n).toOption = updateOf n.toValue := by
  have hplain := sortedEntries_plain n
  unfold readUpdate updateOf
  cases hs : sortedEntries n with
  | none =>
    rw [hs] at hplain
    simp [← hplain]
  | some es =>
    rw [hs] at hplain
    rw [readWithExtras_toOption fuel n.span? es {} _ _ updateKnown
      (fun e _ a => by
        simp only [updateKnown]
        split <;> simp [*, readVariant_toOption])
      (fun e he => checkKept_toOption fuel e.2 (by
        have := depth_le_of_sortedEntries hs he
        omega)),
      foldlM_extrasStep_update]
    simp only [← hplain, Option.map_some, Option.bind_eq_bind, Option.bind_some, keptOf]
    cases lastOf (fun w => some <$> variantOf channels w) "channel" (es.map plainEntry) none <;>
      simp only [Option.bind_none, Option.bind_some]
    cases hw : keptWideEntries ((es.map plainEntry).filter fun e => !(e.1 == "channel")) with
    | none => rfl
    | some w => cases w <;> simp

theorem readPlugins_toOption (fuel : Nat) (n : Toml.Node) (h : n.depth < fuel) :
    (readPlugins fuel n).toOption = pluginsOf n.toValue := by
  have hplain := sortedEntries_plain n
  unfold readPlugins pluginsOf
  cases hs : sortedEntries n with
  | none =>
    rw [hs] at hplain
    simp [← hplain]
  | some es =>
    rw [hs] at hplain
    rw [readWithExtras_toOption fuel n.span? es {} _ _ pluginsKnown
      (fun e _ a => by
        simp only [pluginsKnown]
        split <;> simp [*, readInstalls_toOption])
      (fun e he => checkKept_toOption fuel e.2 (by
        have := depth_le_of_sortedEntries hs he
        omega)),
      foldlM_extrasStep_plugins]
    simp only [← hplain, Option.map_some, Option.bind_eq_bind, Option.bind_some, keptOf]
    cases lastOf installsOf "installs" (es.map plainEntry) [] <;>
      simp only [Option.bind_none, Option.bind_some]
    cases hw : keptWideEntries ((es.map plainEntry).filter fun e => !(e.1 == "installs")) with
    | none => rfl
    | some w => cases w <;> simp

theorem readConfig_toOption (fuel : Nat) (n : Toml.Node) (h : n.depth < fuel) :
    (readConfig fuel n).toOption = configOf n.toValue := by
  have hplain := sortedEntries_plain n
  unfold readConfig configOf
  cases hs : sortedEntries n with
  | none =>
    rw [hs] at hplain
    simp [← hplain]
  | some es =>
    rw [hs] at hplain
    have hdepth : ∀ e ∈ es, e.2.depth < fuel := fun e he => by
      have := depth_le_of_sortedEntries hs he
      omega
    rw [readWithExtras_toOption fuel (some ⟨0, 0⟩) es {} _ _ configKnown
      (fun e he a => by
        simp only [configKnown]
        split
        · simp [*, readUpdate_toOption fuel e.2 (hdepth e he)]
        · split <;> simp [*, readPlugins_toOption fuel e.2 (hdepth e he)])
      (fun e he => checkKept_toOption fuel e.2 (hdepth e he)),
      foldlM_extrasStep_config]
    simp only [← hplain, Option.map_some, Option.bind_eq_bind, Option.bind_some, keptOf]
    cases lastOf updateOf "update" (es.map plainEntry) {} <;>
      simp only [Option.bind_none, Option.bind_some]
    cases lastOf pluginsOf "plugins" (es.map plainEntry) {} <;>
      simp only [Option.bind_none, Option.bind_some]
    cases hw : keptWideEntries ((es.map plainEntry).filter
        fun e => !(e.1 == "update" || e.1 == "plugins")) with
    | none => rfl
    | some w => cases w <;> simp

theorem parseConfig_toOption (raw : String) :
    (parseConfig raw).toOption = (Document.parse .any raw).toOption.bind fun doc => configOf doc.root.toValue := by
  unfold parseConfig
  cases Document.parse .any raw with
  | error e => rfl
  | ok doc =>
    dsimp only
    rw [toOption_ok, Option.bind_some, ← readConfig_toOption (doc.root.depth + 1) doc.root (Nat.lt_succ_self _)]
    cases readConfig (doc.root.depth + 1) doc.root <;> rfl

end Updater.Config
