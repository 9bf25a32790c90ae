import PatternRouter.Toml.Key
import PatternRouter.Toml.Node

/-!
# Adding to tables

Nothing is bound twice. A header opens a table that none before it has opened. A dotted key adds only
to tables that dotted keys made; on its way it also passes through tables that headers implied and
through the last of the tables under headers in double brackets. A table between braces is complete.
-/

namespace PatternRouter.Toml.Entries

/-- Bind a name that is not bound yet. -/
def bind? (name : String) (node : Node) (entries : Entries) : Option Entries :=
  match entries.get? name with
  | some _ => none
  | none => some (entries.set name node)

/-- Bind a name in the table to which `parents` lead. Tables that are missing are made. The table at
the start counts as made by dotted keys if `own` holds. -/
def bindBelow? (name : String) (node : Node) (own : Bool) :
    List String → Entries → Option Entries
  | [], entries => if own then bind? name node entries else none
  | parent :: rest, entries =>
    match entries.get? parent with
    | none =>
      (bindBelow? name node true rest []).map fun inner => entries.set parent (.table .dotted inner)
    | some (.table .dotted inner) =>
      (bindBelow? name node true rest inner).map fun inner =>
        entries.set parent (.table .dotted inner)
    -- An implied table may be passed through, but a header is what binds names in it.
    | some (.table .implied inner) =>
      (bindBelow? name node false rest inner).map fun inner =>
        entries.set parent (.table .implied inner)
    | some (.tables elements) =>
      match elements.getLast? with
      | some last =>
        (bindBelow? name node false rest last).map fun last =>
          entries.set parent (.tables (elements.dropLast ++ [last]))
      | none => none
    | some _ => none

/-- Bind a key. -/
def bindKey? (key : Key) (node : Node) (entries : Entries) : Option Entries :=
  bindBelow? key.name node true key.parents entries

/-- Change the table to which the names of a header lead. Tables that are missing are implied. -/
def within? (change : Entries → Option Entries) : List String → Entries → Option Entries
  | [], entries => change entries
  | parent :: rest, entries =>
    match entries.get? parent with
    | none => (within? change rest []).map fun inner => entries.set parent (.table .implied inner)
    -- What stands between braces is complete.
    | some (.table .inline _) => none
    | some (.table form inner) =>
      (within? change rest inner).map fun inner => entries.set parent (.table form inner)
    | some (.tables elements) =>
      match elements.getLast? with
      | some last =>
        (within? change rest last).map fun last =>
          entries.set parent (.tables (elements.dropLast ++ [last]))
      | none => none
    | some _ => none

/-- Open the table of a name. -/
def openName? (name : String) (entries : Entries) : Option Entries :=
  match entries.get? name with
  | none => some (entries.set name (.table .header []))
  | some (.table .implied inner) => some (entries.set name (.table .header inner))
  | some _ => none

/-- Open one more of the tables of a name. -/
def openElement? (name : String) (entries : Entries) : Option Entries :=
  match entries.get? name with
  | none => some (entries.set name (.tables [[]]))
  | some (.tables elements) => some (entries.set name (.tables (elements ++ [[]])))
  | some _ => none

/-- Open the table that a header names. -/
def openTable? (key : Key) (entries : Entries) : Option Entries :=
  within? (openName? key.name) key.parents entries

/-- Open one more of the tables that a header in double brackets names. -/
def openTables? (key : Key) (entries : Entries) : Option Entries :=
  within? (openElement? key.name) key.parents entries

end PatternRouter.Toml.Entries
