/-!
# TOML documents as data

A document is a table of keys and nodes. A table keeps how it came to be, because a document may add
to some tables in some places only.
-/

namespace PatternRouter.Toml

/-- How a table came to be. -/
inductive TableForm where
  /-- A header names it. -/
  | header
  /-- A header names a table inside it. -/
  | implied
  /-- A dotted key names a value inside it. -/
  | dotted
  /-- It is written between braces. -/
  | inline
deriving DecidableEq, Repr

/-- A value or a table in a document. -/
inductive Node where
  /-- A text. -/
  | string (content : String)
  /-- A whole number. -/
  | integer (value : Int)
  /-- A number with a fraction or an exponent, as it is spelled. -/
  | float (spelling : String)
  /-- Yes or no. -/
  | boolean (value : Bool)
  /-- A date, a time or both, as it is spelled. -/
  | dateTime (spelling : String)
  /-- An array of values. -/
  | array (items : List Node)
  | table (form : TableForm) (entries : List (String × Node))
  /-- The tables under headers with one name in double brackets. -/
  | tables (elements : List (List (String × Node)))
deriving Inhabited

/-- Keys and what they are bound to. -/
abbrev Entries := List (String × Node)

namespace Entries

/-- What a key is bound to. -/
def get? (entries : Entries) (key : String) : Option Node :=
  entries.lookup key

/-- Bind a key in the place of its binding, or behind the others. -/
def set (entries : Entries) (key : String) (node : Node) : Entries :=
  match entries with
  | [] => [(key, node)]
  | (k, old) :: rest => if k = key then (k, node) :: rest else (k, old) :: set rest key node

/-- A table without entries binds nothing. -/
@[simp]
theorem get?_nil (key : String) : get? [] key = none := rfl

/-- After `set` the key is bound to the new node, and every other key to what it was bound to. -/
theorem get?_set (entries : Entries) (key : String) (node : Node) (k : String) :
    (entries.set key node).get? k = if k = key then some node else entries.get? k := by
  unfold get?
  induction entries with
  | nil =>
    by_cases h : k = key
    · simp [set, h]
    · simp [set, List.lookup_cons, h, beq_false_of_ne h]
  | cons entry rest ih =>
    obtain ⟨own, old⟩ := entry
    by_cases same : own = key
    · subst same
      by_cases h : k = own
      · simp [set, h]
      · simp [set, List.lookup_cons, h, beq_false_of_ne h]
    · simp only [set, if_neg same, List.lookup_cons, ih]
      by_cases h : k = own
      · simp [h, same]
      · simp [beq_false_of_ne h]

end Entries

end PatternRouter.Toml
