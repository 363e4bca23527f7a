import RuleGrammar.Fields
import RuleGrammar.Toml.Basic

/-!
Owns tables while they are being defined.

A table is defined by its header, by a dotted key that leads through it, or not yet when only a longer
header has named it. A header may define such a table but no other; a dotted key may go through tables
that no header has defined, and adds to tables that dotted keys made. What was written as a value is
closed.
-/

namespace RuleGrammar.Toml

inductive Origin where
  | named
  | header
  | dotted
deriving DecidableEq, Repr

inductive Node where
  | closed (value : Toml)
  | table (origin : Origin) (entries : List (String × Node))
  | tables (items : List (List (String × Node)))
deriving Repr

/-- A table with what it was defined by. -/
structure OpenTable where
  origin : Origin
  entries : List (String × Node)
deriving Repr

namespace OpenTable

def node (target : OpenTable) : Node :=
  .table target.origin target.entries

def append (target : OpenTable) (key : String) (node : Node) : OpenTable :=
  { target with entries := target.entries ++ [(key, node)] }

def replaceEntry (key : String) (node : Node) : List (String × Node) → List (String × Node)
  | [] => []
  | (other, held) :: rest =>
      if key = other then (key, node) :: rest else (other, held) :: replaceEntry key node rest

def replace (target : OpenTable) (key : String) (node : Node) : OpenTable :=
  { target with entries := replaceEntry key node target.entries }

/-- Changes the table at the end of a path. Missing tables on the way are made; of an array of tables
the last one counts. -/
def changeAt (dotted : Bool) (change : OpenTable → Option OpenTable) :
    List String → OpenTable → Option OpenTable
  | [], target => change target
  | key :: path, target =>
      match target.entries.lookup key with
      | none =>
          (changeAt dotted change path ⟨if dotted then .dotted else .named, []⟩).map fun inner =>
            target.append key inner.node
      | some (.table origin entries) =>
          if dotted && origin == .header then
            none
          else
            (changeAt dotted change path ⟨origin, entries⟩).map fun inner =>
              target.replace key inner.node
      | some (.tables items) =>
          (changeAt dotted change path ⟨.header, items.getLast?.getD []⟩).map fun inner =>
            target.replace key (.tables (items.dropLast ++ [inner.entries]))
      | some (.closed _) => none

/-- Splits the last part off a key. -/
def splitLast : List String → Option (List String × String)
  | [] => none
  | [key] => some ([], key)
  | key :: keys => (splitLast keys).map fun (path, last) => (key :: path, last)

/-- Binds a key, which may be dotted, to a value. -/
def bind (key : List String) (value : Toml) (target : OpenTable) : Option OpenTable := do
  let (path, last) ← splitLast key
  let bindLast := fun (target : OpenTable) =>
    if (!path.isEmpty && target.origin != .dotted) || (target.entries.lookup last).isSome then
      none
    else
      some (target.append last (.closed value))
  changeAt true bindLast path target

/-- Opens the table of a header. -/
def openHeader (key : List String) (root : OpenTable) : Option OpenTable := do
  let (path, last) ← splitLast key
  let openLast := fun (parent : OpenTable) =>
    match parent.entries.lookup last with
    | none => some (parent.append last (.table .header []))
    | some (.table .named entries) => some (parent.replace last (.table .header entries))
    | _ => none
  changeAt false openLast path root

/-- Opens another table of an array of tables. -/
def openArrayHeader (key : List String) (root : OpenTable) : Option OpenTable := do
  let (path, last) ← splitLast key
  let openLast := fun (parent : OpenTable) =>
    match parent.entries.lookup last with
    | none => some (parent.append last (.tables [[]]))
    | some (.tables items) => some (parent.replace last (.tables (items ++ [[]])))
    | _ => none
  changeAt false openLast path root

end OpenTable

/-! ## Closing

The entries of a closed table are in the order of their keys. -/

mutual

def Node.close : Node → Toml
  | .closed value => value
  | .table _ entries => .table (Fields.ofBindings (closeEntries entries))
  | .tables items => .array (closeTables items)

def closeEntries : List (String × Node) → List (String × Toml)
  | [] => []
  | (key, node) :: rest => (key, node.close) :: closeEntries rest

def closeTables : List (List (String × Node)) → List Toml
  | [] => []
  | entries :: rest => .table (Fields.ofBindings (closeEntries entries)) :: closeTables rest

end

end RuleGrammar.Toml
