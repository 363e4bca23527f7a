import RuleGrammar.Fields
import RuleGrammar.Text.Offset
import RuleGrammar.Value

/-!
Owns match trees: the outcome of reading one rule at one position, with everything nested in it.

A match refers to rules through a type of its own. Reading produces `Match RuleId`; naming the rules
of such a tree gives a `Match String`, the form that is written out and read back.
-/

namespace RuleGrammar

/-- What a match carries: nothing, a scalar, matches in order, or matches by field name. Fields are
kept in ascending order of their names, each name once. -/
inductive Payload (M : Type) where
  | absent
  | scalar (value : Value)
  | list (items : List M)
  | object (fields : List (String × M))
deriving Repr

structure Match (R : Type) where
  success : Bool
  span : Span
  rule : R
  payload : Payload (Match R)
deriving Repr

namespace Payload

variable {M : Type}

def isAbsent : Payload M → Bool
  | .absent => true
  | _ => false

end Payload

namespace Match

variable {R S : Type}

/-! ## Outcomes -/

def succeed (rule : R) (span : Span) (payload : Payload (Match R)) : Match R :=
  ⟨true, span, rule, payload⟩

/-- A failure covers nothing and carries nothing. -/
def fail (rule : R) (position : Nat) : Match R :=
  ⟨false, Span.emptyAt position, rule, .absent⟩

/-- A success that covers nothing and carries nothing. -/
def emptyAt (rule : R) (position : Nat) : Match R :=
  ⟨true, Span.emptyAt position, rule, .absent⟩

/-- The same rule and payload over another span and with another outcome. -/
def copyWith (m : Match R) (span : Span) (success : Bool) : Match R :=
  { m with span := span, success := success }

def start (m : Match R) : Nat :=
  m.span.start

def stop (m : Match R) : Nat :=
  m.span.stop

/-! ## Payload access -/

def value? (m : Match R) : Option Value :=
  match m.payload with
  | .scalar value => some value
  | _ => none

def items? (m : Match R) : Option (List (Match R)) :=
  match m.payload with
  | .list items => some items
  | _ => none

def fields? (m : Match R) : Option (List (String × Match R)) :=
  match m.payload with
  | .object fields => some fields
  | _ => none

def field? (m : Match R) (name : String) : Option (Match R) :=
  m.fields?.bind (·.lookup name)

/-- The text that the match covers; nothing when its span does not fit the input. -/
def text (m : Match R) (input : List Char) : List Char :=
  (Text.slice input m.span).getD []

/-! ## Naming rules -/

mutual

/-- The same tree with every rule referred to through `name`. -/
def mapRule (name : R → S) : Match R → Match S
  | ⟨success, span, rule, payload⟩ => ⟨success, span, name rule, mapRulePayload name payload⟩

def mapRulePayload (name : R → S) : Payload (Match R) → Payload (Match S)
  | .absent => .absent
  | .scalar value => .scalar value
  | .list items => .list (mapRuleItems name items)
  | .object fields => .object (mapRuleFields name fields)

def mapRuleItems (name : R → S) : List (Match R) → List (Match S)
  | [] => []
  | item :: items => mapRule name item :: mapRuleItems name items

def mapRuleFields (name : R → S) : List (String × Match R) → List (String × Match S)
  | [] => []
  | (field, item) :: fields => (field, mapRule name item) :: mapRuleFields name fields

end

/-! ## Counting nodes -/

mutual

def nodeCount : Match R → Nat
  | ⟨_, _, _, payload⟩ => 1 + nodeCountPayload payload

def nodeCountPayload : Payload (Match R) → Nat
  | .absent => 0
  | .scalar _ => 0
  | .list items => nodeCountItems items
  | .object fields => nodeCountFields fields

def nodeCountItems : List (Match R) → Nat
  | [] => 0
  | item :: items => nodeCount item + nodeCountItems items

def nodeCountFields : List (String × Match R) → Nat
  | [] => 0
  | (_, item) :: fields => nodeCount item + nodeCountFields fields

end

/-! ## Equality

Trees are equal when they agree at every node; scalars compare as values, so a tree that holds the
undefined number differs from itself. -/

mutual

def beq [BEq R] : Match R → Match R → Bool
  | ⟨success, span, rule, payload⟩, ⟨success', span', rule', payload'⟩ =>
      rule == rule' && span == span' && success == success' && beqPayload payload payload'

def beqPayload [BEq R] : Payload (Match R) → Payload (Match R) → Bool
  | .absent, .absent => true
  | .scalar value, .scalar value' => value == value'
  | .list items, .list items' => beqItems items items'
  | .object fields, .object fields' => beqFields fields fields'
  | _, _ => false

def beqItems [BEq R] : List (Match R) → List (Match R) → Bool
  | [], [] => true
  | item :: items, item' :: items' => beq item item' && beqItems items items'
  | _, _ => false

def beqFields [BEq R] : List (String × Match R) → List (String × Match R) → Bool
  | [], [] => true
  | (field, item) :: fields, (field', item') :: fields' =>
      field == field' && beq item item' && beqFields fields fields'
  | _, _ => false

end

instance [BEq R] : BEq (Match R) := ⟨beq⟩

end Match

end RuleGrammar
