import Mathlib.Data.List.Nodup
import Updater.Toml.Read

/-! What reading a document guarantees.

The reader builds tables as it reads lines: a header descends to its table, an entry descends
along its dotted key, and a finished table is put in its place. Every step that adds a key first
looks it up and refuses one already there, so the tables reachable through tables and arrays of
tables name each key once (`Node.Keyed`). Each step of the builder keeps this, hence so does every
document read: its root is a table of distinct names (`parse_root_nodup`). -/

namespace Updater

theorem except_bind_eq_ok {ε α β : Type} {x : Except ε α} {f : α → Except ε β} {b : β}
    (h : (x >>= f) = .ok b) : ∃ a, x = .ok a ∧ f a = .ok b := by
  cases x with
  | error e => cases h
  | ok a => exact ⟨a, rfl, h⟩

namespace Toml

/-! ## Entries of a table -/

theorem lookup_mem {es : List (Key × Node)} {name : String} {n : Node} (h : lookup es name = some n) :
    ∃ k, (k, n) ∈ es ∧ k.name = name := by
  unfold lookup at h
  cases hf : es.find? (·.1.name == name) with
  | none => simp [hf] at h
  | some e =>
    simp only [hf, Option.map_some, Option.some.injEq] at h
    subst h
    exact ⟨e.1, List.mem_of_find?_eq_some hf, by simpa using List.find?_some hf⟩

theorem name_ne_of_lookup_none {es : List (Key × Node)} {name : String} (h : lookup es name = none) :
    ∀ e ∈ es, e.1.name ≠ name := by
  simp only [lookup, Option.map_eq_none_iff, List.find?_eq_none] at h
  intro e he
  simpa using h e he

theorem map_name_replaceEntry (es : List (Key × Node)) (name : String) (n : Node) :
    (replaceEntry es name n).map (·.1.name) = es.map (·.1.name) := by
  simp only [replaceEntry, List.map_map]
  congr 1
  funext e
  simp only [Function.comp_apply]
  split <;> rfl

theorem mem_replaceEntry {es : List (Key × Node)} {name : String} {n : Node} {e : Key × Node}
    (he : e ∈ replaceEntry es name n) : e ∈ es ∨ e.2 = n := by
  simp only [replaceEntry, List.mem_map] at he
  obtain ⟨e', he', rfl⟩ := he
  by_cases h : e'.1.name = name
  · simp [h]
  · simp [h, he']

theorem nodup_append_of_lookup {es : List (Key × Node)} {k : Key} {n : Node}
    (hnd : (es.map (·.1.name)).Nodup) (hl : lookup es k.name = none) :
    ((es ++ [(k, n)]).map (·.1.name)).Nodup := by
  rw [List.map_append, List.nodup_append]
  refine ⟨hnd, List.nodup_singleton _, ?_⟩
  intro a ha b hb
  simp only [List.map_cons, List.map_nil, List.mem_singleton] at hb
  obtain ⟨e, he, rfl⟩ := List.mem_map.mp ha
  rw [hb]
  exact name_ne_of_lookup_none hl e he

/-! ## Tables name each key once -/

mutual

/-- Every table reachable through tables and arrays of tables names each key once. Values are
not looked into: an inline table checks its own keys as it is read. -/
def Node.Keyed : Node → Prop
  | .table es .. => (es.map (·.1.name)).Nodup ∧ entriesKeyed es
  | .tables items _ => itemsKeyed items
  | _ => True

def entriesKeyed : List (Key × Node) → Prop
  | [] => True
  | (_, n) :: rest => n.Keyed ∧ entriesKeyed rest

def itemsKeyed : List Node → Prop
  | [] => True
  | n :: rest => ((kindOf n).isSome ∧ n.Keyed) ∧ itemsKeyed rest

end

def Node.KeyedTable (n : Node) : Prop := (kindOf n).isSome ∧ n.Keyed

theorem entriesKeyed_iff {es : List (Key × Node)} : entriesKeyed es ↔ ∀ e ∈ es, e.2.Keyed := by
  induction es with
  | nil => simp [entriesKeyed]
  | cons e es ih =>
    obtain ⟨k, n⟩ := e
    simp [entriesKeyed, ih]

theorem itemsKeyed_iff {items : List Node} : itemsKeyed items ↔ ∀ n ∈ items, n.KeyedTable := by
  induction items with
  | nil => simp [itemsKeyed]
  | cons n items ih => simp [itemsKeyed, ih, Node.KeyedTable]

theorem keyedTable_table {es : List (Key × Node)} {k : TableKind} {d : Decor} {p : Option Nat}
    {s : Option Span} :
    (Node.table es k d p s).KeyedTable ↔ (es.map (·.1.name)).Nodup ∧ ∀ e ∈ es, e.2.Keyed := by
  simp [Node.KeyedTable, kindOf, Node.Keyed, entriesKeyed_iff]

theorem keyed_tables {items : List Node} {s : Option Span} :
    (Node.tables items s).Keyed ↔ ∀ n ∈ items, n.KeyedTable := by
  simp [Node.Keyed, itemsKeyed_iff]

theorem Node.KeyedTable.eq_table {n : Node} (h : n.KeyedTable) :
    ∃ es k d p s, n = .table es k d p s ∧ (es.map (·.1.name)).Nodup ∧ ∀ e ∈ es, e.2.Keyed := by
  obtain ⟨hk, hn⟩ := h
  cases n with
  | table es k d p s => exact ⟨es, k, d, p, s, rfl, keyedTable_table.mp ⟨hk, hn⟩⟩
  | _ => simp [kindOf] at hk

theorem keyedTable_empty (k : TableKind) (d : Decor) (p : Option Nat) (s : Option Span) :
    (Node.table [] k d p s).KeyedTable :=
  keyedTable_table.mpr ⟨List.nodup_nil, by simp⟩

theorem keyedTable_append {es : List (Key × Node)} {k : TableKind} {d : Decor} {p : Option Nat}
    {s : Option Span} (h : (Node.table es k d p s).KeyedTable) {key : Key} {m : Node}
    (hl : lookup es key.name = none) (hm : m.Keyed) :
    (Node.table (es ++ [(key, m)]) k d p s).KeyedTable := by
  obtain ⟨hnd, hes⟩ := keyedTable_table.mp h
  refine keyedTable_table.mpr ⟨nodup_append_of_lookup hnd hl, ?_⟩
  simp only [List.mem_append, List.mem_singleton]
  rintro e (he | rfl)
  · exact hes e he
  · exact hm

theorem keyedTable_replaceEntry {es : List (Key × Node)} {k : TableKind} {d : Decor}
    {p : Option Nat} {s : Option Span} (h : (Node.table es k d p s).KeyedTable) {name : String}
    {m : Node} (hm : m.Keyed) : (Node.table (replaceEntry es name m) k d p s).KeyedTable := by
  obtain ⟨hnd, hes⟩ := keyedTable_table.mp h
  refine keyedTable_table.mpr ⟨by rwa [map_name_replaceEntry], fun e he => ?_⟩
  rcases mem_replaceEntry he with he | he
  · exact hes e he
  · exact he ▸ hm

theorem keyed_of_lookup {es : List (Key × Node)} {k : TableKind} {d : Decor} {p : Option Nat}
    {s : Option Span} (h : (Node.table es k d p s).KeyedTable) {name : String} {m : Node}
    (hl : lookup es name = some m) : m.Keyed := by
  obtain ⟨key, hk, -⟩ := lookup_mem hl
  exact (keyedTable_table.mp h).2 _ hk

/-- What a step of the reader keeps of a table: it stays a keyed table, and what the step gives
back beside it has `P`. -/
def KeepsKeyed {α : Type} (P : α → Prop) (f : Node → Except ParseError (Node × α)) : Prop :=
  ∀ m r, m.KeyedTable → f m = .ok r → r.1.KeyedTable ∧ P r.2

theorem descendWith_keyed {α : Type} {P : α → Prop} {dotted : Bool}
    {f : Node → Except ParseError (Node × α)} (hf : KeepsKeyed P f) (keys : List Key) :
    KeepsKeyed P (descendWith dotted f keys) := by
  induction keys with
  | nil => exact hf
  | cons k rest ih =>
    intro n r hn h
    obtain ⟨es, kind, d, p, s, rfl, -, -⟩ := hn.eq_table
    simp only [descendWith, Node.entries?, Node.withEntries] at h
    split at h
    · next hl =>
      -- a missing table is made under the key
      obtain ⟨⟨child, a⟩, hc, h⟩ := except_bind_eq_ok h
      cases h
      obtain ⟨hchild, ha⟩ := ih _ _ (keyedTable_empty _ _ _ _) hc
      exact ⟨keyedTable_append hn hl hchild.2, ha⟩
    · next items s' hl =>
      -- into the last table of an array of tables
      have hitems := keyed_tables.mp (keyed_of_lookup hn hl)
      split at h
      · next last hlast =>
        obtain ⟨⟨last', a⟩, hc, h⟩ := except_bind_eq_ok h
        cases h
        obtain ⟨hlast', ha⟩ := ih _ _ (hitems last (List.mem_of_getLast? hlast)) hc
        refine ⟨keyedTable_replaceEntry hn (keyed_tables.mpr fun m hm => ?_), ha⟩
        rcases List.mem_append.mp hm with hm | hm
        · exact hitems m (List.dropLast_subset _ hm)
        · exact List.mem_singleton.mp hm ▸ hlast'
      · cases h
    · next ces kind' d' p' s' hl =>
      split at h
      · cases h
      · obtain ⟨⟨child, a⟩, hc, h⟩ := except_bind_eq_ok h
        cases h
        obtain ⟨hchild, ha⟩ := ih _ _ ⟨rfl, keyed_of_lookup hn hl⟩ hc
        exact ⟨keyedTable_replaceEntry hn hchild.2, ha⟩
    · cases h

theorem descend_keyed {dotted : Bool} {f : Node → Except ParseError Node}
    (hf : ∀ m r, m.KeyedTable → f m = .ok r → r.KeyedTable) (keys : List Key) {n r : Node}
    (hn : n.KeyedTable) (h : descend dotted f keys n = .ok r) : r.KeyedTable := by
  unfold descend at h
  cases hd : descendWith dotted (fun m => (fun r => (r, ())) <$> f m) keys n with
  | error e => simp [hd] at h
  | ok q =>
    rw [hd] at h
    cases h
    refine (descendWith_keyed (P := fun _ => True) (fun m q hm hq => ?_) keys n q hn hd).1
    cases hfm : f m with
    | error e => simp [hfm] at hq
    | ok r' =>
      simp only [hfm] at hq
      cases hq
      exact ⟨hf m r' hm hfm, trivial⟩

theorem lookup_eq_none_of_not_any {es : List (Key × Node)} {name : String}
    (h : ¬ es.any (·.1.name == name) = true) : lookup es name = none := by
  simp only [lookup, Option.map_eq_none_iff, List.find?_eq_none]
  intro e he heq
  exact h (List.any_eq_true.mpr ⟨e, he, heq⟩)

/-! ## The builder keeps its tables keyed -/

def Builder.Keyed (b : Builder) : Prop := b.root.KeyedTable ∧ b.current.KeyedTable

theorem Builder.finish_keyed {b b' : Builder} (hb : b.Keyed) (h : b.finish = .ok b') : b'.Keyed := by
  unfold Builder.finish at h
  split at h
  · cases h
    exact ⟨hb.2, hb.2⟩
  · obtain ⟨root, hroot, h⟩ := except_bind_eq_ok h
    cases h
    refine ⟨descend_keyed (fun m r hm hr => ?_) _ hb.1 hroot, hb.2⟩
    obtain ⟨es, k, d, p, s, rfl, -, -⟩ := hm.eq_table
    simp only [Node.entries?, Node.withEntries] at hr
    split at hr <;> cases hr
    · -- a new table
      exact keyedTable_append hm ‹_› hb.2.2
    · -- a new array of tables
      exact keyedTable_append hm ‹_› (keyed_tables.mpr (by simpa using hb.2))
    · -- in place of an implicit table
      exact keyedTable_replaceEntry hm hb.2.2
    · -- at the end of an array of tables
      next items s' _ hl _ =>
      refine keyedTable_replaceEntry hm (keyed_tables.mpr fun n hn => ?_)
      rcases List.mem_append.mp hn with hn | hn
      · exact keyed_tables.mp (keyed_of_lookup hm hl) n hn
      · exact List.mem_singleton.mp hn ▸ hb.2

theorem Builder.startTable_keyed {b b' : Builder} {path : List Key} {leaf : Key} {decor : Decor}
    {span : Span} (hb : b.Keyed) (h : b.startTable path leaf decor span = .ok b') : b'.Keyed := by
  unfold Builder.startTable at h
  obtain ⟨⟨root, children⟩, hd, h⟩ := except_bind_eq_ok h
  cases h
  have hkeep := descendWith_keyed (P := fun ces => (ces.map (·.1.name)).Nodup ∧ ∀ e ∈ ces, e.2.Keyed)
    ?_ path.dropLast b.root (root, children) hb.1 hd
  · exact ⟨hkeep.1, keyedTable_table.mpr hkeep.2⟩
  · intro m r hm hr
    obtain ⟨es, k, d, p, s, rfl, hnd, hes⟩ := hm.eq_table
    simp only [Node.entries?, Node.withEntries] at hr
    split at hr <;> cases hr
    · exact ⟨hm, List.nodup_nil, by simp⟩
    · next ces _ _ _ hl =>
      refine ⟨keyedTable_table.mpr ⟨(List.filter_sublist.map _).nodup hnd,
        fun e he => hes e (List.mem_of_mem_filter he)⟩, ?_⟩
      exact keyedTable_table.mp ⟨rfl, keyed_of_lookup hm hl⟩

theorem Builder.startArrayTable_keyed {b : Builder} (hb : b.Keyed) (path : List Key) (leaf : Key)
    (decor : Decor) (span : Span) : (b.startArrayTable path leaf decor span).Keyed :=
  ⟨hb.1, keyedTable_empty _ _ _ _⟩

theorem Builder.addEntry_keyed {b b' : Builder} {path : List Key} {leaf : Key} {v : Node}
    (hb : b.Keyed) (hv : v.Keyed) (h : b.addEntry path leaf v = .ok b') : b'.Keyed := by
  unfold Builder.addEntry at h
  obtain ⟨current, hcur, h⟩ := except_bind_eq_ok h
  cases h
  refine ⟨hb.1, descend_keyed (fun m r hm hr => ?_) _ hb.2 hcur⟩
  obtain ⟨es, k, d, p, s, rfl, -, -⟩ := hm.eq_table
  simp only [Node.entries?, Node.withEntries] at hr
  split at hr
  · cases hr
  · split at hr <;> cases hr
    exact keyedTable_append hm (lookup_eq_none_of_not_any ‹_›) hv

/-! ## Values are not tables -/

theorem scalarNode_keyed {range : IntegerRange} {t : Token} {n : Node}
    (h : scalarNode range t = .ok n) : n.Keyed := by
  unfold scalarNode at h
  dsimp only at h
  -- whatever the token reads as, an accepted value is put in a scalar node
  split at h
  all_goals obtain ⟨read, -, h⟩ := except_bind_eq_ok h
  all_goals try split at h
  all_goals try split at h
  all_goals
    simp [pure, Except.pure, bind, Except.bind, throw, throwThe, MonadExceptOf.throw] at h <;>
    (subst h; trivial)

theorem valueNode_keyed {range : IntegerRange} {fuel : Nat} {v : ValueSyntax} {n : Node}
    (h : valueNode range fuel v = .ok n) : n.Keyed := by
  cases fuel with
  | zero => simp [valueNode] at h
  | succ fuel =>
    cases v with
    | scalar t => exact scalarNode_keyed (by simpa only [valueNode] using h)
    | array openTok items trailing comma close =>
      simp only [valueNode] at h
      obtain ⟨nodes, -, h⟩ := except_bind_eq_ok h
      cases h
      trivial
    | inline openTok entries preamble close =>
      simp only [valueNode] at h
      obtain ⟨es, -, h⟩ := except_bind_eq_ok h
      cases h
      trivial

theorem scalarNode_any {range : IntegerRange} {t : Token} {n : Node}
    (h : scalarNode range t = .ok n) : scalarNode .any t = .ok n := by
  unfold scalarNode at h ⊢
  dsimp only at h ⊢
  split at h
  all_goals obtain ⟨read, hread, h⟩ := except_bind_eq_ok h
  all_goals rw [hread]
  -- the same text is read; only an integer's range could have refused it
  all_goals try cases read
  all_goals try split at h
  all_goals try split at h
  all_goals simp_all [bind, Except.bind, pure, Except.pure, throw, throwThe, MonadExceptOf.throw]

theorem itemNodes_any {range : IntegerRange} {fuel : Nat}
    (hvalue : ∀ {v : ValueSyntax} {n : Node}, valueNode range fuel v = .ok n → valueNode .any fuel v = .ok n) :
    ∀ {items : List (String × ValueSyntax × String)} {ns : List Node},
      itemNodes range fuel items = .ok ns → itemNodes .any fuel items = .ok ns
  | [], _, h => by simpa only [itemNodes] using h
  | (pre, v, suf) :: rest, ns, h => by
    simp only [itemNodes] at h ⊢
    obtain ⟨n, hn, h⟩ := except_bind_eq_ok h
    obtain ⟨ns', hns, h⟩ := except_bind_eq_ok h
    rw [hvalue hn, itemNodes_any hvalue hns]
    exact h

theorem inlineNodes_any {range : IntegerRange} {fuel : Nat}
    (hvalue : ∀ {v : ValueSyntax} {n : Node}, valueNode range fuel v = .ok n → valueNode .any fuel v = .ok n) :
    ∀ {entries : List (String × List KeyPart × String × ValueSyntax × String)}
      {acc es : List (Key × Node)},
      inlineNodes range fuel acc entries = .ok es → inlineNodes .any fuel acc entries = .ok es
  | [], _, _, h => by simpa only [inlineNodes] using h
  | (pre, parts, vpre, v, suf) :: rest, acc, es, h => by
    simp only [inlineNodes] at h ⊢
    obtain ⟨path, hpath, h⟩ := except_bind_eq_ok h
    obtain ⟨n, hn, h⟩ := except_bind_eq_ok h
    obtain ⟨acc', hacc, h⟩ := except_bind_eq_ok h
    rw [hpath, hvalue hn]
    simp only [bind, Except.bind, hacc]
    exact inlineNodes_any hvalue h

theorem valueNode_any {range : IntegerRange} :
    ∀ {fuel : Nat} {v : ValueSyntax} {n : Node}, valueNode range fuel v = .ok n → valueNode .any fuel v = .ok n
  | 0, _, _, h => by simp [valueNode] at h
  | fuel + 1, .scalar t, n, h => by
    simp only [valueNode] at h ⊢
    exact scalarNode_any h
  | fuel + 1, .array openTok items trailing comma close, n, h => by
    simp only [valueNode] at h ⊢
    obtain ⟨ns, hns, h⟩ := except_bind_eq_ok h
    rw [itemNodes_any valueNode_any hns]
    exact h
  | fuel + 1, .inline openTok entries preamble close, n, h => by
    simp only [valueNode] at h ⊢
    obtain ⟨es, hes, h⟩ := except_bind_eq_ok h
    rw [inlineNodes_any valueNode_any hes]
    exact h

theorem keyed_decorate (n : Node) (d : Decor) : (n.decorate d).Keyed ↔ n.Keyed := by
  cases n <;> rfl

/-! ## Documents -/

theorem buildLines_keyed {range : IntegerRange} (lines : List Line) :
    ∀ {b b' : Builder} {pending trailing : String}, b.Keyed →
      buildLines range lines b pending = .ok (b', trailing) → b'.Keyed := by
  induction lines with
  | nil =>
    intro b b' pending trailing hb h
    cases h
    exact hb
  | cons line rest ih =>
    intro b b' pending trailing hb h
    cases line with
    | trivia text => exact ih hb (by simpa only [buildLines] using h)
    | header arrayOfTables openTok parts span after =>
      simp only [buildLines] at h
      obtain ⟨path, -, h⟩ := except_bind_eq_ok h
      obtain ⟨b₁, h₁, h⟩ := except_bind_eq_ok h
      have hb₁ := Builder.finish_keyed hb h₁
      split at h
      · rw [pure_bind] at h
        exact ih (Builder.startArrayTable_keyed hb₁ _ _ _ _) h
      · obtain ⟨b₂, h₂, h⟩ := except_bind_eq_ok h
        exact ih (Builder.startTable_keyed hb₁ h₂) h
    | entry parts vpre v vsuf =>
      simp only [buildLines] at h
      obtain ⟨path, -, h⟩ := except_bind_eq_ok h
      obtain ⟨n, hn, h⟩ := except_bind_eq_ok h
      obtain ⟨b₁, h₁, h⟩ := except_bind_eq_ok h
      exact ih (Builder.addEntry_keyed hb ((keyed_decorate _ _).mpr (valueNode_keyed hn)) h₁) h

theorem parse_root_keyed {range : IntegerRange} {text : String} {doc : Document}
    (h : Document.parse range text = .ok doc) : doc.root.KeyedTable := by
  unfold Document.parse at h
  obtain ⟨lines, -, h⟩ := except_bind_eq_ok h
  obtain ⟨⟨b, trailing⟩, hb, h⟩ := except_bind_eq_ok h
  obtain ⟨b', hb', h⟩ := except_bind_eq_ok h
  cases h
  have hstart : ({} : Builder).Keyed := ⟨keyedTable_empty _ _ _ _, keyedTable_empty _ _ _ _⟩
  exact (Builder.finish_keyed (buildLines_keyed lines hstart hb) hb').1

theorem buildLines_any {range : IntegerRange} (lines : List Line) :
    ∀ {b : Builder} {pending : String} {r : Builder × String},
      buildLines range lines b pending = .ok r → buildLines .any lines b pending = .ok r := by
  induction lines with
  | nil => intro b pending r h; simpa only [buildLines] using h
  | cons line rest ih =>
    intro b pending r h
    cases line with
    | trivia text =>
      simp only [buildLines] at h ⊢
      exact ih h
    | header arrayOfTables openTok parts span after =>
      simp only [buildLines] at h ⊢
      obtain ⟨path, hpath, h⟩ := except_bind_eq_ok h
      obtain ⟨b₁, h₁, h⟩ := except_bind_eq_ok h
      simp only [hpath, h₁, bind, Except.bind]
      split at h
      · simp only [pure, Except.pure, bind, Except.bind] at h ⊢
        simp only [*, ih h, ↓reduceIte]
      · obtain ⟨b₂, h₂, h⟩ := except_bind_eq_ok h
        simp only [*, Bool.false_eq_true, ↓reduceIte, ih h]
    | entry parts vpre v vsuf =>
      simp only [buildLines] at h ⊢
      obtain ⟨path, hpath, h⟩ := except_bind_eq_ok h
      obtain ⟨n, hn, h⟩ := except_bind_eq_ok h
      obtain ⟨b₁, h₁, h⟩ := except_bind_eq_ok h
      simp only [hpath, valueNode_any hn, h₁, bind, Except.bind, ih h]

theorem parse_any {range : IntegerRange} {text : String} {doc : Document}
    (h : Document.parse range text = .ok doc) : Document.parse .any text = .ok doc := by
  unfold Document.parse at h ⊢
  obtain ⟨lines, hlines, h⟩ := except_bind_eq_ok h
  obtain ⟨⟨b, trailing⟩, hb, h⟩ := except_bind_eq_ok h
  obtain ⟨b', hb', h⟩ := except_bind_eq_ok h
  simp only [hlines, buildLines_any lines hb, hb', bind, Except.bind]
  exact h

theorem parse_root_nodup {range : IntegerRange} {text : String} {doc : Document}
    (h : Document.parse range text = .ok doc) :
    ∃ es, doc.root.entries? = some es ∧ (es.map (·.1.name)).Nodup := by
  obtain ⟨es, k, d, p, s, hroot, hnd, -⟩ := (parse_root_keyed h).eq_table
  exact ⟨es, by rw [hroot]; rfl, hnd⟩

end Toml

end Updater
