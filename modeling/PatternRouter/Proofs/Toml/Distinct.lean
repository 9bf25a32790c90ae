import Mathlib.Data.List.Nodup
import PatternRouter.Toml.Document

/-!
# Nothing is bound twice

In a document that is read, no table binds a name twice, wherever it stands: under a header, behind
dotted keys, between braces or in an array. So what a name is bound to does not depend on the order
in which the bindings of a table are looked through.

The module introduces:

* `Node.Distinct` and `Entries.Distinct` — no table in a node, or among entries, binds a name twice;
* `ReadsDistinct value?` — the nodes that a reader gives are such.

Each way to add to a table keeps it so, and with it each line of a document. The main result is
`Document.distinct_of_parse?`.
-/

namespace PatternRouter.Toml

/-- No table in a node binds a name twice. -/
inductive Node.Distinct : Node → Prop
  | string (content : String) : Distinct (.string content)
  | integer (value : Int) : Distinct (.integer value)
  | float (spelling : String) : Distinct (.float spelling)
  | boolean (value : Bool) : Distinct (.boolean value)
  | dateTime (spelling : String) : Distinct (.dateTime spelling)
  | array {items : List Node} : (∀ item ∈ items, Distinct item) → Distinct (.array items)
  | table {form : TableForm} {entries : Entries} :
      (entries.map Prod.fst).Nodup → (∀ entry ∈ entries, Distinct entry.2) →
      Distinct (.table form entries)
  | tables {elements : List Entries} :
      (∀ entries ∈ elements, (entries.map Prod.fst).Nodup) →
      (∀ entries ∈ elements, ∀ entry ∈ entries, Distinct entry.2) →
      Distinct (.tables elements)

/-- No name is bound twice, and neither is one in a table that is bound to a name. -/
structure Entries.Distinct (entries : Entries) : Prop where
  names : (entries.map Prod.fst).Nodup
  nodes : ∀ entry ∈ entries, entry.2.Distinct

theorem Node.distinct_table_iff {form : TableForm} {entries : Entries} :
    (Node.table form entries).Distinct ↔ entries.Distinct := by
  constructor
  · rintro ⟨⟩
    exact ⟨‹_›, ‹_›⟩
  · rintro ⟨hnames, hnodes⟩
    exact .table hnames hnodes

theorem Node.distinct_tables_iff {elements : List Entries} :
    (Node.tables elements).Distinct ↔ ∀ entries ∈ elements, entries.Distinct := by
  constructor
  · intro h entries hentries
    cases h with
    | tables hnames hnodes => exact ⟨hnames entries hentries, hnodes entries hentries⟩
  · intro h
    exact .tables (fun entries hentries => (h entries hentries).names)
      fun entries hentries => (h entries hentries).nodes

namespace Entries

variable {entries entries' : Entries} {key name : String} {node : Node}

theorem distinct_nil : Distinct [] := ⟨List.nodup_nil, by simp⟩

theorem mem_of_get?_eq_some (h : entries.get? key = some node) : (key, node) ∈ entries := by
  obtain ⟨front, back, rfl, -⟩ := List.lookup_eq_some_iff.1 h
  simp

theorem get?_eq_none_iff : entries.get? key = none ↔ key ∉ entries.map Prod.fst := by
  rw [get?, List.lookup_eq_none_iff]
  simp only [List.mem_map, Prod.exists, exists_and_right, exists_eq_right, not_exists, bne_iff_ne]
  constructor
  · intro h node hmem
    exact h _ hmem rfl
  · rintro h ⟨own, node⟩ hmem rfl
    exact h node hmem

/-- If no name is bound twice, looking up a name finds all that is bound to it. -/
theorem get?_eq_some_iff_mem (hnames : (entries.map Prod.fst).Nodup) :
    entries.get? key = some node ↔ (key, node) ∈ entries := by
  refine ⟨mem_of_get?_eq_some, ?_⟩
  intro hmem
  obtain ⟨front, back, rfl⟩ := List.mem_iff_append.1 hmem
  rw [List.map_append, List.map_cons, List.nodup_middle, List.nodup_cons] at hnames
  refine List.lookup_eq_some_iff.2 ⟨front, back, rfl, ?_⟩
  intro entry hentry
  rw [bne_iff_ne]
  intro hkey
  exact hnames.1 (List.mem_append_left _ (List.mem_map.2 ⟨entry, hentry, hkey.symm⟩))

theorem map_fst_set (entries : Entries) (key : String) (node : Node) :
    (entries.set key node).map Prod.fst =
      if key ∈ entries.map Prod.fst then entries.map Prod.fst
      else entries.map Prod.fst ++ [key] := by
  induction entries with
  | nil => rfl
  | cons entry rest ih =>
    obtain ⟨own, old⟩ := entry
    by_cases same : own = key
    · simp [set, same]
    · simp only [set, if_neg same, List.map_cons, ih, List.mem_cons, Ne.symm same, false_or]
      split <;> simp

theorem mem_set {entry : String × Node} (h : entry ∈ entries.set key node) :
    entry = (key, node) ∨ entry ∈ entries := by
  induction entries with
  | nil => simpa [set] using h
  | cons first rest ih =>
    obtain ⟨own, old⟩ := first
    by_cases same : own = key
    · simp only [set, if_pos same, List.mem_cons] at h ⊢
      rcases h with rfl | h
      · exact .inl (by rw [same])
      · exact .inr (.inr h)
    · simp only [set, if_neg same, List.mem_cons] at h ⊢
      rcases h with rfl | h
      · exact .inr (.inl rfl)
      · rcases ih h with rfl | h
        · exact .inl rfl
        · exact .inr (.inr h)

namespace Distinct

theorem set (h : entries.Distinct) (hnode : node.Distinct) (key : String) :
    (entries.set key node).Distinct := by
  constructor
  · rw [map_fst_set]
    split
    · exact h.names
    · next hkey =>
      rw [← List.concat_eq_append]
      exact h.names.concat hkey
  · intro entry hentry
    rcases mem_set hentry with rfl | hentry
    · exact hnode
    · exact h.nodes entry hentry

theorem of_get? (h : entries.Distinct) (hget : entries.get? key = some node) : node.Distinct :=
  h.nodes _ (mem_of_get?_eq_some hget)

section Inner

variable {form : TableForm} {inner last : Entries} {elements : List Entries}

theorem table_of_get? (h : entries.Distinct) (hget : entries.get? key = some (.table form inner)) :
    inner.Distinct :=
  Node.distinct_table_iff.1 (h.of_get? hget)

theorem tables_of_get? (h : entries.Distinct) (hget : entries.get? key = some (.tables elements)) :
    ∀ element ∈ elements, element.Distinct :=
  Node.distinct_tables_iff.1 (h.of_get? hget)

theorem last_of_get? (h : entries.Distinct) (hget : entries.get? key = some (.tables elements))
    (hlast : elements.getLast? = some last) : last.Distinct :=
  h.tables_of_get? hget last (List.mem_of_getLast? hlast)

theorem set_table (h : entries.Distinct) (hinner : inner.Distinct) (key : String)
    (form : TableForm) : (entries.set key (.table form inner)).Distinct :=
  h.set (Node.distinct_table_iff.2 hinner) key

/-- One more table stands behind others under a name. -/
theorem set_tables (h : entries.Distinct) (helements : ∀ element ∈ elements, element.Distinct)
    (hlast : last.Distinct) (key : String) :
    (entries.set key (.tables (elements ++ [last]))).Distinct := by
  apply h.set
  rw [Node.distinct_tables_iff, List.forall_mem_append, List.forall_mem_singleton]
  exact ⟨helements, hlast⟩

/-- The last of the tables under a name is replaced. -/
theorem set_last (h : entries.Distinct) (hget : entries.get? key = some (.tables elements))
    (hlast : last.Distinct) :
    (entries.set key (.tables (elements.dropLast ++ [last]))).Distinct := by
  refine h.set_tables ?_ hlast key
  intro element helement
  exact h.tables_of_get? hget element (List.dropLast_subset elements helement)

end Inner

/-! ### Adding to tables -/

theorem bind? (h : entries.Distinct) (hnode : node.Distinct)
    (hbind : entries.bind? name node = some entries') : entries'.Distinct := by
  unfold Entries.bind? at hbind
  split at hbind
  · nomatch hbind
  · obtain rfl := Option.some.inj hbind
    exact h.set hnode name

theorem bindBelow? {own : Bool} {parents : List String} (h : entries.Distinct)
    (hnode : node.Distinct) (hbind : bindBelow? name node own parents entries = some entries') :
    entries'.Distinct := by
  induction parents generalizing own entries entries' with
  | nil =>
    rw [Entries.bindBelow?] at hbind
    split at hbind
    · exact h.bind? hnode hbind
    · nomatch hbind
  | cons parent rest ih =>
    rw [Entries.bindBelow?] at hbind
    -- What stands under the name, if anything does, is replaced by what more is bound in it.
    split at hbind
    · obtain ⟨inner, hinner, rfl⟩ := Option.map_eq_some_iff.1 hbind
      exact h.set_table (ih distinct_nil hinner) parent _
    · next hget =>
      obtain ⟨inner, hinner, rfl⟩ := Option.map_eq_some_iff.1 hbind
      exact h.set_table (ih (h.table_of_get? hget) hinner) parent _
    · next hget =>
      obtain ⟨inner, hinner, rfl⟩ := Option.map_eq_some_iff.1 hbind
      exact h.set_table (ih (h.table_of_get? hget) hinner) parent _
    · next elements hget =>
      split at hbind
      · next last hlast =>
        obtain ⟨inner, hinner, rfl⟩ := Option.map_eq_some_iff.1 hbind
        exact h.set_last hget (ih (h.last_of_get? hget hlast) hinner)
      · nomatch hbind
    · nomatch hbind

theorem within? {change : Entries → Option Entries} {names : List String} (h : entries.Distinct)
    (hchange : ∀ {before after : Entries}, before.Distinct → change before = some after →
      after.Distinct)
    (hwithin : within? change names entries = some entries') : entries'.Distinct := by
  induction names generalizing entries entries' with
  | nil => exact hchange h hwithin
  | cons parent rest ih =>
    rw [Entries.within?] at hwithin
    split at hwithin
    · obtain ⟨inner, hinner, rfl⟩ := Option.map_eq_some_iff.1 hwithin
      exact h.set_table (ih distinct_nil hinner) parent _
    · nomatch hwithin
    · next hget =>
      obtain ⟨inner, hinner, rfl⟩ := Option.map_eq_some_iff.1 hwithin
      exact h.set_table (ih (h.table_of_get? hget) hinner) parent _
    · next elements hget =>
      split at hwithin
      · next last hlast =>
        obtain ⟨inner, hinner, rfl⟩ := Option.map_eq_some_iff.1 hwithin
        exact h.set_last hget (ih (h.last_of_get? hget hlast) hinner)
      · nomatch hwithin
    · nomatch hwithin

theorem openName? (h : entries.Distinct) (hopen : entries.openName? name = some entries') :
    entries'.Distinct := by
  unfold Entries.openName? at hopen
  split at hopen
  · obtain rfl := Option.some.inj hopen
    exact h.set_table distinct_nil name _
  · next hget =>
    obtain rfl := Option.some.inj hopen
    exact h.set_table (h.table_of_get? hget) name _
  · nomatch hopen

theorem openElement? (h : entries.Distinct) (hopen : entries.openElement? name = some entries') :
    entries'.Distinct := by
  unfold Entries.openElement? at hopen
  split at hopen
  · obtain rfl := Option.some.inj hopen
    apply h.set
    rw [Node.distinct_tables_iff, List.forall_mem_singleton]
    exact distinct_nil
  · next hget =>
    obtain rfl := Option.some.inj hopen
    exact h.set_tables (h.tables_of_get? hget) distinct_nil name
  · nomatch hopen

end Distinct

end Entries

/-! ## Values -/

/-- What every item keeps is kept by a row of them. -/
theorem of_foldlM {α β : Type} {p : β → Prop} {f : β → α → Option β} {items : List α}
    {start last : β} (hstart : p start)
    (hstep : ∀ item ∈ items, ∀ before after, p before → f before item = some after → p after)
    (h : items.foldlM f start = some last) : p last := by
  induction items generalizing start with
  | nil =>
    obtain rfl := Option.some.inj h
    exact hstart
  | cons item rest ih =>
    rw [List.foldlM_cons] at h
    obtain ⟨next, hnext, hrest⟩ := Option.bind_eq_some_iff.1 h
    rw [List.forall_mem_cons] at hstep
    exact ih (hstep.1 start next hstart hnext) hstep.2 hrest

theorem Entries.distinct_of_ofBindings? {bindings : List Binding} {entries : Entries}
    (hbindings : ∀ binding ∈ bindings, binding.node.Distinct)
    (h : ofBindings? bindings = some entries) : entries.Distinct :=
  of_foldlM distinct_nil
    (fun binding hbinding _ _ hbefore hafter => hbefore.bindBelow? (hbindings binding hbinding) hafter)
    h

/-- The nodes that a reader gives are distinct. -/
def ReadsDistinct (value? : List Char → Option (Node × List Char)) : Prop :=
  ∀ text node rest, value? text = some (node, rest) → node.Distinct

theorem readsDistinct_readNumber? : ReadsDistinct readNumber? := by
  intro text node rest h
  -- Whatever the spelling is taken for, it is no table.
  simp only [readNumber?] at h
  split at h
  · split at h
    · split at h
      · cases h
        exact .dateTime _
      · split at h
        · cases h
          exact .dateTime _
        · nomatch h
    · cases h
      exact .dateTime _
  · split at h
    · cases h
      exact .dateTime _
    · split at h
      · cases h
        exact .float _
      · obtain ⟨value, -, heq⟩ := Option.map_eq_some_iff.1 h
        cases heq
        exact .integer value

theorem readsDistinct_readScalar? : ReadsDistinct readScalar? := by
  rintro (_ | ⟨c, text⟩) node rest h
  · nomatch h
  · simp only [readScalar?] at h
    split at h
    · obtain ⟨content, -, heq⟩ := Option.map_eq_some_iff.1 h
      cases heq
      exact .string _
    · split at h
      · obtain ⟨_, -, heq⟩ := Option.map_eq_some_iff.1 h
        cases heq
        exact .boolean _
      · split at h
        · obtain ⟨_, -, heq⟩ := Option.map_eq_some_iff.1 h
          cases heq
          exact .boolean _
        · split at h
          · obtain ⟨_, -, heq⟩ := Option.map_eq_some_iff.1 h
            cases heq
            exact .float _
          · split at h
            · obtain ⟨_, -, heq⟩ := Option.map_eq_some_iff.1 h
              cases heq
              exact .float _
            · split at h
              · exact readsDistinct_readNumber? _ node rest h
              · nomatch h

section Nested

variable {value? : List Char → Option (Node × List Char)} {text rest : List Char}

theorem ReadsDistinct.items (hvalue : ReadsDistinct value?) {limit : Nat} {items : List Node}
    (h : readItems? value? limit text = some (items, rest)) : ∀ item ∈ items, item.Distinct := by
  induction limit generalizing text items with
  | zero => nomatch h
  | succ limit ih =>
    rw [readItems?] at h
    split at h
    · cases h
      exact List.forall_mem_nil _
    · obtain ⟨⟨item, behind⟩, hitem, h⟩ := Option.bind_eq_some_iff.1 h
      have hdistinct := hvalue _ _ _ hitem
      -- The item is the last one, or others follow it.
      dsimp only at h
      split at h
      · cases h
        exact List.forall_mem_singleton.2 hdistinct
      · obtain ⟨⟨others, _⟩, hothers, h⟩ := Option.bind_eq_some_iff.1 h
        cases h
        exact List.forall_mem_cons.2 ⟨hdistinct, ih hothers⟩
      · nomatch h

theorem ReadsDistinct.binding (hvalue : ReadsDistinct value?) {binding : Binding}
    (h : readBinding? value? text = some (binding, rest)) : binding.node.Distinct := by
  rw [readBinding?] at h
  simp only [Option.bind_eq_bind, Option.bind_eq_some_iff, Prod.exists] at h
  obtain ⟨_, _, -, _, -, node, _, hnode, h⟩ := h
  cases h
  exact hvalue _ _ _ hnode

theorem ReadsDistinct.bindings (hvalue : ReadsDistinct value?) {limit : Nat}
    {bindings : List Binding} (h : readBindings? value? limit text = some (bindings, rest)) :
    ∀ binding ∈ bindings, binding.node.Distinct := by
  induction limit generalizing text bindings with
  | zero => nomatch h
  | succ limit ih =>
    rw [readBindings?] at h
    obtain ⟨⟨binding, behind⟩, hbinding, h⟩ := Option.bind_eq_some_iff.1 h
    have hdistinct := hvalue.binding hbinding
    dsimp only at h
    split at h
    · cases h
      exact List.forall_mem_singleton.2 hdistinct
    · obtain ⟨⟨others, _⟩, hothers, h⟩ := Option.bind_eq_some_iff.1 h
      cases h
      exact List.forall_mem_cons.2 ⟨hdistinct, ih hothers⟩
    · nomatch h

end Nested

theorem readsDistinct_readValue? (depth : Nat) : ReadsDistinct (readValue? depth) := by
  induction depth with
  | zero =>
    intro text node rest h
    exact readsDistinct_readScalar? text node rest (by simpa [readValue?] using h)
  | succ depth ih =>
    intro text node rest h
    unfold readValue? at h
    -- An array, a table between braces, or neither; what is inside is one level less deep.
    split at h
    · next heq =>
      obtain rfl := Nat.succ.inj heq
      obtain ⟨⟨items, _⟩, hitems, hnode⟩ := Option.map_eq_some_iff.1 h
      cases hnode
      exact .array (ih.items hitems)
    · next heq =>
      obtain rfl := Nat.succ.inj heq
      split at h
      · cases h
        exact Node.distinct_table_iff.2 Entries.distinct_nil
      · obtain ⟨⟨bindings, _⟩, hbindings, h⟩ := Option.bind_eq_some_iff.1 h
        obtain ⟨inner, hinner, hnode⟩ := Option.bind_eq_some_iff.1 h
        cases hnode
        exact Node.distinct_table_iff.2
          (Entries.distinct_of_ofBindings? (ih.bindings hbindings) hinner)
    · exact readsDistinct_readScalar? _ node rest h

/-! ## Documents -/

/-- A line does not bind a node in which a name is bound twice. -/
def Statement.Distinct : Statement → Prop
  | .binding bound => bound.node.Distinct
  | _ => True

theorem Statement.distinct_of_read? {text rest : List Char} {statement : Statement}
    (h : read? text = some (statement, rest)) : statement.Distinct := by
  unfold read? at h
  -- Only the last kind of line binds a node.
  split at h
  · simp only [Option.bind_eq_bind, Option.bind_eq_some_iff, Prod.exists] at h
    obtain ⟨_, _, -, _, -, _, -, h⟩ := h
    cases h
    trivial
  · simp only [Option.bind_eq_bind, Option.bind_eq_some_iff, Prod.exists] at h
    obtain ⟨_, _, -, _, -, h⟩ := h
    cases h
    trivial
  · obtain ⟨⟨binding, _⟩, hbinding, h⟩ := Option.bind_eq_some_iff.1 h
    cases h
    exact (readsDistinct_readValue? maxDepth).binding hbinding

theorem Statement.distinct_of_readAll? {limit : Nat} {text : List Char}
    {statements : List Statement} (h : readAll? limit text = some statements) :
    ∀ statement ∈ statements, statement.Distinct := by
  induction limit generalizing text statements with
  | zero => nomatch h
  | succ limit ih =>
    rw [readAll?] at h
    split at h
    · cases h
      exact List.forall_mem_nil _
    · simp only [Option.bind_eq_bind, Option.bind_eq_some_iff, Prod.exists] at h
      obtain ⟨statement, _, hstatement, _, -, others, hothers, h⟩ := h
      cases h
      exact List.forall_mem_cons.2 ⟨distinct_of_read? hstatement, ih hothers⟩

namespace Document

/-- Every line keeps what the document holds distinct. -/
theorem distinct_step? {document next : Document} {statement : Statement}
    (h : document.entries.Distinct) (hstatement : statement.Distinct)
    (hstep : document.step? statement = some next) : next.entries.Distinct := by
  -- In each case the change is one of those above, in the table to which some names lead.
  cases statement with
  | binding binding =>
    obtain ⟨entries, hentries, rfl⟩ := Option.map_eq_some_iff.1 hstep
    exact h.within? (fun hbefore hafter => hbefore.bindBelow? hstatement hafter) hentries
  | header key =>
    obtain ⟨entries, hentries, rfl⟩ := Option.map_eq_some_iff.1 hstep
    exact h.within? (fun hbefore hafter => hbefore.openName? hafter) hentries
  | element key =>
    obtain ⟨entries, hentries, rfl⟩ := Option.map_eq_some_iff.1 hstep
    exact h.within? (fun hbefore hafter => hbefore.openElement? hafter) hentries

/-- No table of a document that is read binds a name twice. -/
theorem distinct_of_parse? {text : String} {entries : Entries} (h : parse? text = some entries) :
    entries.Distinct := by
  simp only [parse?, Option.bind_eq_bind, Option.bind_eq_some_iff] at h
  obtain ⟨statements, hstatements, document, hdocument, h⟩ := h
  obtain rfl := Option.some.inj h
  have hdistinct := Statement.distinct_of_readAll? hstatements
  exact of_foldlM (p := fun document => document.entries.Distinct) Entries.distinct_nil
    (fun statement hmem _ _ hbefore hstep => distinct_step? hbefore (hdistinct statement hmem) hstep)
    hdocument

end Document

end PatternRouter.Toml
