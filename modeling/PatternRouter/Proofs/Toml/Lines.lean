import PatternRouter.Toml.Document

/-!
# What the lines of a document bind

A value has a full name in a document: the names of the tables that lead to it, and its own. Lines
bind values to full names, under headers, with dotted keys and between braces. How a table is written
and where it is added to decides whether the document is read, but not what it holds.

The module introduces:

* `Node.Leaf node names leaf` and `Entries.Leaf` — a value stands in a node, or among entries, behind
  some names;
* `Gains before after added` — what is held afterwards, and `Behind leading held` — the same behind
  more names;
* `Statement.allBindings names statements` — what lines bind, each with its full name;
* `Document.LinesBind text names leaf` — lines of a text bind a value to a full name.

Each way to add to a table gains what is bound, and with it each line does. The main result is
`Document.leaf_iff_linesBind`.
-/

namespace PatternRouter.Toml

namespace Node

/-- Whether a node is a table, or holds the tables of a name. -/
def isTable : Node → Bool
  | .table _ _ => true
  | .tables _ => true
  | _ => false

/-- A value stands in a node behind some names. Of the tables of one name each counts. -/
inductive Leaf : Node → List String → Node → Prop
  | value {node : Node} : node.isTable = false → Leaf node [] node
  | table {form : TableForm} {entries : Entries} {name : String} {node leaf : Node}
      {rest : List String} :
      entries.get? name = some node → Leaf node rest leaf →
      Leaf (.table form entries) (name :: rest) leaf
  | element {elements : List Entries} {entries : Entries} {names : List String} {leaf : Node} :
      entries ∈ elements → Leaf (.table .header entries) names leaf →
      Leaf (.tables elements) names leaf

end Node

/-- A value stands among entries behind some names. -/
def Entries.Leaf (entries : Entries) (names : List String) (leaf : Node) : Prop :=
  ∃ name rest node, names = name :: rest ∧ entries.get? name = some node ∧ node.Leaf rest leaf

/-- What is held afterwards is what was held before and what is added. -/
def Gains (before after added : List String → Node → Prop) : Prop :=
  ∀ names leaf, after names leaf ↔ before names leaf ∨ added names leaf

/-- What is held behind some leading names and then behind others. -/
def Behind (leading : List String) (held : List String → Node → Prop) (names : List String)
    (leaf : Node) : Prop :=
  ∃ rest, names = leading ++ rest ∧ held rest leaf

theorem behind_nil (held : List String → Node → Prop) : Behind [] held = held := by
  funext names leaf
  simp [Behind]

theorem behind_append (front back : List String) (held : List String → Node → Prop) :
    Behind front (Behind back held) = Behind (front ++ back) held := by
  funext names leaf
  apply propext
  constructor
  · rintro ⟨_, rfl, rest, rfl, h⟩
    exact ⟨rest, (List.append_assoc ..).symm, h⟩
  · rintro ⟨rest, rfl, h⟩
    exact ⟨back ++ rest, List.append_assoc .., rest, rfl, h⟩

theorem behind_false (leading : List String) :
    (Behind leading fun _ _ => False) = fun _ _ => False := by
  funext names leaf
  simp [Behind]

theorem gains_false (held : List String → Node → Prop) : Gains held held fun _ _ => False := by
  intro names leaf
  simp

variable {form : TableForm} {entries entries' inner inner' last : Entries} {elements : List Entries}
  {names : List String} {name : String} {node leaf : Node}
  {before added : List String → Node → Prop}

/-! ## Leaves -/

theorem Node.leaf_table (form : TableForm) (entries : Entries) :
    (Node.table form entries).Leaf = entries.Leaf := by
  funext names leaf
  apply propext
  constructor
  · intro h
    cases h with
    | value htable => nomatch htable
    | table hget hleaf => exact ⟨_, _, _, rfl, hget, hleaf⟩
  · rintro ⟨name, rest, node, rfl, hget, hleaf⟩
    exact .table hget hleaf

theorem Node.leaf_tables_iff :
    (Node.tables elements).Leaf names leaf ↔ ∃ entries ∈ elements, entries.Leaf names leaf := by
  constructor
  · intro h
    cases h with
    | value htable => nomatch htable
    | element hmem hleaf => exact ⟨_, hmem, by rwa [← Node.leaf_table .header]⟩
  · rintro ⟨entries, hmem, hleaf⟩
    exact .element hmem (by rwa [Node.leaf_table])

/-- Behind no name stands a value itself, and nothing of a table. -/
theorem Node.leaf_nil_iff : node.Leaf [] leaf ↔ node.isTable = false ∧ node = leaf := by
  constructor
  · intro h
    cases h with
    | value htable => exact ⟨htable, rfl⟩
    | element _ hleaf => nomatch hleaf
  · rintro ⟨htable, rfl⟩
    exact .value htable

namespace Entries

theorem not_leaf_nil : ¬ Leaf [] names leaf := by
  rintro ⟨_, _, _, -, hget, -⟩
  nomatch hget

/-- Behind a name stands what stands in the node that is bound to it. -/
theorem leaf_cons_iff {rest : List String} (hget : entries.get? name = some node) :
    entries.Leaf (name :: rest) leaf ↔ node.Leaf rest leaf := by
  constructor
  · rintro ⟨_, _, _, ⟨⟩, hother, hleaf⟩
    rw [hget] at hother
    cases hother
    exact hleaf
  · intro hleaf
    exact ⟨name, rest, node, rfl, hget, hleaf⟩

/-- Behind a name that is not bound stands no more than in a table without entries. -/
theorem leaf_cons_iff_of_none {rest : List String} (hget : entries.get? name = none) :
    entries.Leaf (name :: rest) leaf ↔ Leaf [] rest leaf := by
  refine iff_of_false ?_ not_leaf_nil
  rintro ⟨_, _, _, ⟨⟩, hother, -⟩
  rw [hget] at hother
  nomatch hother

/-- What stands behind a name depends on what is bound to it alone. -/
theorem leaf_cons_congr {rest : List String} (hget : entries.get? name = entries'.get? name) :
    entries.Leaf (name :: rest) leaf ↔ entries'.Leaf (name :: rest) leaf := by
  cases hbound : entries'.get? name with
  | none => rw [leaf_cons_iff_of_none hbound, leaf_cons_iff_of_none (hget.trans hbound)]
  | some node => rw [leaf_cons_iff hbound, leaf_cons_iff (hget.trans hbound)]

/-- What is bound to a name takes the place of what was; behind other names nothing changes. -/
theorem gains_set (hbefore : ∀ rest leaf, entries.Leaf (name :: rest) leaf ↔ before rest leaf)
    (h : Gains before node.Leaf added) :
    Gains entries.Leaf (entries.set name node).Leaf (Behind [name] added) := by
  rintro (_ | ⟨own, rest⟩) leaf
  · -- Nothing stands among entries behind no name.
    simp [Leaf, Behind]
  · by_cases same : own = name
    · subst same
      have hget : (entries.set own node).get? own = some node := by rw [get?_set, if_pos rfl]
      rw [leaf_cons_iff hget, hbefore, h]
      simp [Behind]
    · have hget : (entries.set name node).get? own = entries.get? own := by
        rw [get?_set, if_neg same]
      rw [leaf_cons_congr hget]
      simp [Behind, same]

/-- A table that is missing is made. -/
theorem gains_set_new (hget : entries.get? name = none) (h : Gains (Leaf []) inner.Leaf added)
    (form : TableForm) :
    Gains entries.Leaf (entries.set name (.table form inner)).Leaf (Behind [name] added) :=
  gains_set (fun _ _ => leaf_cons_iff_of_none hget) (by rwa [Node.leaf_table])

/-- The table of a name is added to. -/
theorem gains_set_table (hget : entries.get? name = some (.table form inner))
    (h : Gains inner.Leaf inner'.Leaf added) (form' : TableForm) :
    Gains entries.Leaf (entries.set name (.table form' inner')).Leaf (Behind [name] added) := by
  have hbefore : ∀ rest leaf, entries.Leaf (name :: rest) leaf ↔ inner.Leaf rest leaf := by
    intro rest leaf
    rw [leaf_cons_iff hget, Node.leaf_table]
  exact gains_set hbefore (by rwa [Node.leaf_table])

/-- The last of the tables of a name is added to. -/
theorem gains_set_last (hget : entries.get? name = some (.tables elements))
    (hlast : elements.getLast? = some last) (h : Gains last.Leaf inner.Leaf added) :
    Gains entries.Leaf (entries.set name (.tables (elements.dropLast ++ [inner]))).Leaf
      (Behind [name] added) := by
  -- The tables before the last one hold the same on both sides.
  obtain ⟨front, rfl⟩ := List.getLast?_eq_some_iff.1 hlast
  have hbefore : ∀ rest leaf, entries.Leaf (name :: rest) leaf ↔
      (Node.tables (front ++ [last])).Leaf rest leaf := fun _ _ => leaf_cons_iff hget
  refine gains_set hbefore ?_
  intro names leaf
  rw [List.dropLast_concat, Node.leaf_tables_iff, Node.leaf_tables_iff]
  simp only [List.mem_append, List.mem_singleton, or_and_right, exists_or, exists_eq_left, h names leaf,
    or_assoc]

/-! ## Adding to tables -/

theorem gains_bind? (h : entries.bind? name node = some entries') :
    Gains entries.Leaf entries'.Leaf (Behind [name] node.Leaf) := by
  unfold bind? at h
  split at h
  · nomatch h
  · next hget =>
    obtain rfl := Option.some.inj h
    refine gains_set (fun rest leaf => leaf_cons_iff_of_none hget) ?_
    intro names leaf
    simp [not_leaf_nil]

theorem gains_bindBelow? {own : Bool} {parents : List String}
    (h : bindBelow? name node own parents entries = some entries') :
    Gains entries.Leaf entries'.Leaf (Behind (parents ++ [name]) node.Leaf) := by
  induction parents generalizing own entries entries' with
  | nil =>
    rw [bindBelow?] at h
    split at h
    · exact gains_bind? h
    · nomatch h
  | cons parent rest ih =>
    rw [List.cons_append, ← List.singleton_append, ← behind_append]
    rw [bindBelow?] at h
    -- What stands under the name, if anything does, gains what is bound in it.
    split at h
    · next hget =>
      obtain ⟨inner, hinner, rfl⟩ := Option.map_eq_some_iff.1 h
      exact gains_set_new hget (ih hinner) .dotted
    · next hget =>
      obtain ⟨inner, hinner, rfl⟩ := Option.map_eq_some_iff.1 h
      exact gains_set_table hget (ih hinner) .dotted
    · next hget =>
      obtain ⟨inner, hinner, rfl⟩ := Option.map_eq_some_iff.1 h
      exact gains_set_table hget (ih hinner) .implied
    · next elements hget =>
      split at h
      · next last hlast =>
        obtain ⟨inner, hinner, rfl⟩ := Option.map_eq_some_iff.1 h
        exact gains_set_last hget hlast (ih hinner)
      · nomatch h
    · nomatch h

/-- What is gained in the table to which names lead is gained behind these names. -/
theorem gains_within? {change : Entries → Option Entries}
    (hchange : ∀ {before after : Entries}, change before = some after →
      Gains before.Leaf after.Leaf added)
    (h : within? change names entries = some entries') :
    Gains entries.Leaf entries'.Leaf (Behind names added) := by
  induction names generalizing entries entries' with
  | nil =>
    rw [behind_nil]
    exact hchange h
  | cons parent rest ih =>
    rw [← List.singleton_append, ← behind_append]
    rw [within?] at h
    split at h
    · next hget =>
      obtain ⟨inner, hinner, rfl⟩ := Option.map_eq_some_iff.1 h
      exact gains_set_new hget (ih hinner) .implied
    · nomatch h
    · next hget =>
      obtain ⟨inner, hinner, rfl⟩ := Option.map_eq_some_iff.1 h
      exact gains_set_table hget (ih hinner) _
    · next elements hget =>
      split at h
      · next last hlast =>
        obtain ⟨inner, hinner, rfl⟩ := Option.map_eq_some_iff.1 h
        exact gains_set_last hget hlast (ih hinner)
      · nomatch h
    · nomatch h

/-- A header adds no value. -/
theorem gains_openName? (h : entries.openName? name = some entries') :
    Gains entries.Leaf entries'.Leaf fun _ _ => False := by
  unfold openName? at h
  rw [← behind_false [name]]
  split at h
  · next hget =>
    obtain rfl := Option.some.inj h
    exact gains_set_new hget (gains_false _) .header
  · next hget =>
    obtain rfl := Option.some.inj h
    exact gains_set_table hget (gains_false _) .header
  · nomatch h

theorem gains_openElement? (h : entries.openElement? name = some entries') :
    Gains entries.Leaf entries'.Leaf fun _ _ => False := by
  unfold openElement? at h
  rw [← behind_false [name]]
  split at h
  · next hget =>
    obtain rfl := Option.some.inj h
    refine gains_set (fun _ _ => leaf_cons_iff_of_none hget) ?_
    intro names leaf
    simp [Node.leaf_tables_iff]
  · next hget =>
    obtain rfl := Option.some.inj h
    refine gains_set (fun _ _ => leaf_cons_iff hget) ?_
    intro names leaf
    -- The new table holds nothing yet.
    simp [Node.leaf_tables_iff, or_and_right, exists_or, not_leaf_nil]
  · nomatch h

end Entries

/-! ## Lines -/

namespace Statement

/-- The table that is open behind a line. -/
def openNames (names : List String) : Statement → List String
  | .binding _ => names
  | .header key => key.parents ++ [key.name]
  | .element key => key.parents ++ [key.name]

/-- What a line binds in the open table, with the full name. -/
def bindings (names : List String) : Statement → List (List String × Node)
  | .binding bound => [(names ++ (bound.key.parents ++ [bound.key.name]), bound.node)]
  | .header _ => []
  | .element _ => []

/-- What lines bind, with the full names. -/
def allBindings (names : List String) : List Statement → List (List String × Node)
  | [] => []
  | statement :: rest =>
    statement.bindings names ++ allBindings (statement.openNames names) rest

end Statement

/-- A value is bound to a name, or a table that holds it is bound to the first part of the name. -/
def Bound (bindings : List (List String × Node)) (names : List String) (leaf : Node) : Prop :=
  ∃ binding ∈ bindings, Behind binding.1 binding.2.Leaf names leaf

theorem bound_nil : Bound [] = fun _ _ => False := by
  funext names leaf
  simp [Bound]

theorem bound_singleton (names : List String) (node : Node) :
    Bound [(names, node)] = Behind names node.Leaf := by
  funext names leaf
  simp [Bound]

theorem bound_append (front back : List (List String × Node)) :
    Bound (front ++ back) names leaf ↔ Bound front names leaf ∨ Bound back names leaf := by
  simp only [Bound, List.mem_append, or_and_right, exists_or]

namespace Document

variable {document next : Document} {statement : Statement}

theorem openNames_of_step? (h : document.step? statement = some next) :
    next.openNames = statement.openNames document.openNames := by
  cases statement <;> obtain ⟨_, -, rfl⟩ := Option.map_eq_some_iff.1 h <;> rfl

/-- Every line adds what it binds. -/
theorem gains_step? (h : document.step? statement = some next) :
    Gains document.entries.Leaf next.entries.Leaf
      (Bound (statement.bindings document.openNames)) := by
  cases statement with
  | binding binding =>
    obtain ⟨entries, hentries, rfl⟩ := Option.map_eq_some_iff.1 h
    -- The open table and the dotted key each lead a part of the way.
    rw [Statement.bindings, bound_singleton, ← behind_append]
    exact Entries.gains_within? Entries.gains_bindBelow? hentries
  | header key =>
    obtain ⟨entries, hentries, rfl⟩ := Option.map_eq_some_iff.1 h
    rw [Statement.bindings, bound_nil, ← behind_false key.parents]
    exact Entries.gains_within? Entries.gains_openName? hentries
  | element key =>
    obtain ⟨entries, hentries, rfl⟩ := Option.map_eq_some_iff.1 h
    rw [Statement.bindings, bound_nil, ← behind_false key.parents]
    exact Entries.gains_within? Entries.gains_openElement? hentries

/-- Lines add what they bind, each under the table that the lines before it have opened. -/
theorem gains_steps? {statements : List Statement}
    (h : statements.foldlM step? document = some next) :
    Gains document.entries.Leaf next.entries.Leaf
      (Bound (Statement.allBindings document.openNames statements)) := by
  induction statements generalizing document with
  | nil =>
    obtain rfl := Option.some.inj h
    rw [Statement.allBindings, bound_nil]
    exact gains_false _
  | cons statement rest ih =>
    rw [List.foldlM_cons] at h
    obtain ⟨middle, hmiddle, hrest⟩ := Option.bind_eq_some_iff.1 h
    intro names leaf
    rw [ih hrest, gains_step? hmiddle, openNames_of_step? hmiddle, Statement.allBindings, bound_append,
      or_assoc]

/-- What the lines of a text bind, with the full names. -/
def bindings? (text : String) : Option (List (List String × Node)) :=
  let text := withoutMark text.toList
  (Statement.readAll? (text.length + 1) text).map (Statement.allBindings [])

/-- The lines of a text bind a value to a full name. -/
def LinesBind (text : String) (names : List String) (leaf : Node) : Prop :=
  ∃ bindings, bindings? text = some bindings ∧ Bound bindings names leaf

/-- A document holds what its lines bind, and nothing else. -/
theorem leaf_iff_linesBind {text : String} {entries : Entries} (h : parse? text = some entries) :
    entries.Leaf names leaf ↔ LinesBind text names leaf := by
  simp only [parse?, Option.bind_eq_bind, Option.bind_eq_some_iff] at h
  obtain ⟨statements, hstatements, document, hdocument, h⟩ := h
  obtain rfl := Option.some.inj h
  have hbindings : bindings? text = some (Statement.allBindings [] statements) := by
    rw [bindings?, hstatements, Option.map_some]
  simp only [LinesBind, hbindings, Option.some.injEq, exists_eq_left']
  -- The document without a line holds nothing.
  rw [gains_steps? hdocument, or_iff_right (a := empty.entries.Leaf names leaf) Entries.not_leaf_nil]
  rfl

end Document

end PatternRouter.Toml
