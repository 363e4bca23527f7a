import RuleGrammar.Json.Parser
import RuleGrammar.Match
import RuleGrammar.Registry.Basic

/-!
Owns dumps: match trees with their rules named, as JSON and back.

Contract: a node is an object of `success`, `rule`, `start`, `end` and `result`, in this order;
`result` is `null` for an absent payload. Reading takes the members in any order, allows others, and
takes an array of the same parts for a node. A result is read as the first that fits of: truth value,
integer, float, text, list of nodes, object of nodes.
-/

namespace RuleGrammar

/-- What a rule is called that the registry does not have. -/
def unknownRuleName : String := "<unknown>"

/-- The tree with its rules named. -/
def Registry.dump (registry : Registry) (m : Match RuleId) : Match String :=
  m.mapRule fun id => (registry.ruleName? id).getD unknownRuleName

namespace Value

def toJson : Value → Json
  | .bool b => .bool b
  | .int n => .int n.toInt
  | .float x => .float x
  | .text s => .string s

/-- Integers of more than 64 bits with sign become floats. -/
def ofJson? : Json → Option Value
  | .bool b => some (.bool b)
  | .int n =>
      match Decimal.int64? n with
      | some n => some (.int n)
      | none => some (.float (Float.ofInt n))
  | .float x => some (.float x)
  | .string s => some (.text s)
  | _ => none

end Value

def Span.toJson (span : Span) : Json :=
  .object [("start", .int span.start), ("end", .int span.stop)]

namespace Match

/-! ## Writing -/

mutual

def toJson : Match String → Json
  | ⟨success, span, rule, payload⟩ =>
      .object
        [("success", .bool success), ("rule", .string rule), ("start", .int span.start),
          ("end", .int span.stop), ("result", payloadToJson payload)]

def payloadToJson : Payload (Match String) → Json
  | .absent => .null
  | .scalar value => value.toJson
  | .list items => .array (itemsToJson items)
  | .object fields => .object (fieldsToJson fields)

def itemsToJson : List (Match String) → List Json
  | [] => []
  | item :: items => toJson item :: itemsToJson items

def fieldsToJson : List (String × Match String) → List (String × Json)
  | [] => []
  | (name, item) :: fields => (name, toJson item) :: fieldsToJson fields

end

/-! ## Reading -/

def memberNames : List String :=
  ["success", "rule", "start", "end", "result"]

def successOfJson? : Json → Option Bool
  | .bool b => some b
  | _ => none

def ruleOfJson? : Json → Option String
  | .string s => some s
  | _ => none

/-- An unsigned integer of 64 bits. -/
def offsetOfJson? : Json → Option Nat
  | .int n => if 0 ≤ n ∧ n < UInt64.size then some n.toNat else none
  | _ => none

/-- The values of the members of a name. -/
def valuesOf (name : String) (members : List (String × Json)) : List Json :=
  (members.filter (·.1 == name)).map Prod.snd

/-- The value of a member that must be there, once. -/
def required? (name : String) (members : List (String × Json)) : Option Json :=
  match valuesOf name members with
  | [value] => some value
  | _ => none

/-- The value of a member that may be left out, for `null`. -/
def resultMember? (members : List (String × Json)) : Option Json :=
  match valuesOf "result" members with
  | [] => some .null
  | [value] => some value
  | _ => none

def ofParts? (success rule start stop : Json) (payload : Option (Payload (Match String))) :
    Option (Match String) := do
  some ⟨← successOfJson? success, ⟨← offsetOfJson? start, ← offsetOfJson? stop⟩,
    ← ruleOfJson? rule, ← payload⟩

/-- `fuel` bounds the depth of the tree; that of the text is limited already. -/
def ofJson? : (fuel : Nat) → Json → Option (Match String)
  | 0, _ => none
  | fuel + 1, json =>
      let payloadOfJson? : Json → Option (Payload (Match String))
        | .null => some .absent
        | .array items => (items.mapM (ofJson? fuel)).map .list
        | .object members =>
            (members.mapM fun (member : String × Json) =>
                (ofJson? fuel member.2).map (member.1, ·)).map
              fun fields => .object (Fields.ofBindings fields)
        | json => (Value.ofJson? json).map .scalar
      match json with
      | .array [success, rule, start, stop] => ofParts? success rule start stop (some .absent)
      | .array [success, rule, start, stop, result] =>
          ofParts? success rule start stop (payloadOfJson? result)
      | .object members => do
          ofParts? (← required? "success" members) (← required? "rule" members)
            (← required? "start" members) (← required? "end" members)
            (payloadOfJson? (← resultMember? members))
      | _ => none

/-- The dump that a JSON text holds. -/
def parse? (text : String) : Option (Match String) := do
  let json ← Json.parse? memberNames.contains text
  ofJson? (Json.nestingLimit + 1) json

end Match

end RuleGrammar
