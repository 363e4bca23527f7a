import RuleGrammar.Toml.Scalar
import RuleGrammar.Toml.Table
import RuleGrammar.Toml.Text

/-!
Owns the reading of TOML documents, version 1.0.

A document is read line by line. Its state is the root table and the path of the header that is in
force; every binding goes to the table at that path. Arrays and inline tables nest at most 80 deep, and
a key has at most 80 parts.
-/

namespace RuleGrammar.Toml

def nestingLimit : Nat := 80

mutual

/-- A value that `depth` more levels may be nested in. -/
def readValue : (fuel depth : Nat) → Reader Toml
  | 0, _, _ => none
  | fuel + 1, depth, text =>
      match readString? text with
      | some result => result.map fun (cs, rest) => (.string (String.ofList cs), rest)
      | none =>
          match text with
          | '[' :: rest =>
              if depth = 0 then none
              else (readItems fuel (depth - 1) rest).map fun (items, left) => (.array items, left)
          | '\x7b' :: rest =>
              if depth = 0 then
                none
              else
                match skipBlanks rest with
                | '\x7d' :: left => some (.table [], left)
                | rest =>
                    (readBindings fuel (depth - 1) ⟨.header, []⟩ rest).map fun (inner, left) =>
                      (inner.node.close, left)
          | _ =>
              let (scalar, rest) := scalarText text
              (readScalar? scalar).map (·, rest)

/-- Items up to the closing bracket; lines may end anywhere between them. -/
def readItems : (fuel depth : Nat) → Reader (List Toml)
  | 0, _, _ => none
  | fuel + 1, depth, text =>
      match skipLines text.length text with
      | none => none
      | some (']' :: rest) => some ([], rest)
      | some text =>
          match readValue fuel depth text with
          | none => none
          | some (item, rest) =>
              match skipLines rest.length rest with
              | some (',' :: rest) =>
                  (readItems fuel depth rest).map fun (items, left) => (item :: items, left)
              | some (']' :: rest) => some ([item], rest)
              | _ => none

/-- Bindings of an inline table, at least one, up to the closing brace. -/
def readBindings : (fuel depth : Nat) → OpenTable → Reader OpenTable
  | 0, _, _, _ => none
  | fuel + 1, depth, inner, text =>
      match readKey keyLimit text with
      | some (key, '=' :: rest) =>
          match readValue fuel depth (skipBlanks rest) with
          | none => none
          | some (value, rest) =>
              match inner.bind key value with
              | none => none
              | some inner =>
                  match skipBlanks rest with
                  | ',' :: rest => readBindings fuel depth inner rest
                  | '\x7d' :: rest => some (inner, rest)
                  | _ => none
      | _ => none

end

structure DocumentState where
  root : OpenTable
  header : List String

/-- Headers and bindings: the state after one, and the text behind it on its line. -/
def readEntry (state : DocumentState) : Reader DocumentState
  | '[' :: '[' :: rest =>
      match readKey keyLimit rest with
      | some (key, ']' :: ']' :: rest) =>
          (state.root.openArrayHeader key).map fun root => (⟨root, key⟩, rest)
      | _ => none
  | '[' :: rest =>
      match readKey keyLimit rest with
      | some (key, ']' :: rest) => (state.root.openHeader key).map fun root => (⟨root, key⟩, rest)
      | _ => none
  | text =>
      match readKey keyLimit text with
      | some (key, '=' :: rest) =>
          match readValue (2 * rest.length + 2) nestingLimit (skipBlanks rest) with
          | none => none
          | some (value, rest) =>
              (state.root.changeAt false (·.bind key value) state.header).map fun root =>
                ({ state with root := root }, rest)
      | _ => none

def readEntries : (fuel : Nat) → DocumentState → List Char → Option DocumentState
  | 0, _, _ => none
  | fuel + 1, state, text =>
      match skipLines text.length text with
      | none => none
      | some [] => some state
      | some text =>
          match readEntry state text with
          | none => none
          | some (state, rest) =>
              match finishLine rest with
              | none => none
              | some rest => readEntries fuel state rest

/-- A byte order mark at the start counts for nothing. -/
def dropMark : List Char → List Char
  | '\ufeff' :: rest => rest
  | text => text

/-- The entries of the root table. -/
def parse? (text : String) : Option (List (String × Toml)) :=
  let chars := dropMark text.toList
  (readEntries (chars.length + 1) ⟨⟨.header, []⟩, []⟩ chars).map fun state =>
    Fields.ofBindings (closeEntries state.root.entries)

end RuleGrammar.Toml
