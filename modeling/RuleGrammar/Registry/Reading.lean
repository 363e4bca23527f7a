import RuleGrammar.Match
import RuleGrammar.Registry.Basic

/-!
Owns reading: the match of a rule at a byte offset of a text.

Contract: a rule that applies skip first reads the skip rule and starts where that ends, whether it
matched or not. A leaf looks only at the text from its start on. A rule made of rules reads its parts
through the registry, one at a time and from left to right.

Rules may refer to each other in circles. `readWithin` allows a number of rules inside one another
and is undefined beyond it; more than enough of them are allowed by `read` for every grammar in which
a rule cannot come back to itself without consuming text.
-/

namespace RuleGrammar

/-- The match of a rule at an offset, or nothing if too many rules would be inside one another. -/
abbrev Read := RuleId → Nat → Option (Match RuleId)

/-! ## Leaves -/

def readLiteral (id : RuleId) (literal : String) (text : List Char) (start : Nat) : Match RuleId :=
  match (Text.suffixAt text start).bind (Text.dropPrefix? literal.toList) with
  | some _ =>
      .succeed id ⟨start, start + Text.byteLength literal.toList⟩ (.scalar (.text literal))
  | none => .fail id start

def readPattern (id : RuleId) (pattern : Pattern) (text : List Char) (start : Nat) : Match RuleId :=
  match (Text.suffixAt text start).bind pattern.read? with
  | some (value, length) => .succeed id ⟨start, start + length⟩ (.scalar value)
  | none => .fail id start

/-! ## Sequences -/

/-- Reads the items one after the other: their matches and the offset behind the last, or nothing
as soon as one of them fails. -/
def readItems (read : Read) : List RuleId → Nat → Option (Option (List (Match RuleId) × Nat))
  | [], position => some (some ([], position))
  | item :: items, position =>
      match read item position with
      | none => none
      | some m =>
          if m.success then
            match readItems read items m.stop with
            | none => none
            | some none => some none
            | some (some (ms, stop)) => some (some (m :: ms, stop))
          else
            some none

/-- The match of a sequence from those of its items. A single item keeps its own rule and start and
ends where the sequence ends. Linked sequences address existing items only. -/
def Shape.build (shape : Shape) (id : RuleId) (span : Span) (children : List (Match RuleId)) :
    Match RuleId :=
  match shape with
  | .all => .succeed id span (.list children)
  | .one index =>
      match children[index]? with
      | some child => child.copyWith ⟨child.start, span.stop⟩ true
      | none => .fail id span.start
  | .selection indices => .succeed id span (.list (indices.filterMap (children[·]?)))
  | .object fields =>
      let bindings := fields.filterMap fun (index, name) => children[index]?.map (name, ·)
      .succeed id span (.object (Fields.ofBindings bindings))

def readSequence (read : Read) (id : RuleId) (items : List RuleId) (shape : Shape) (start : Nat) :
    Option (Match RuleId) :=
  match readItems read items start with
  | none => none
  | some none => some (.fail id start)
  | some (some (children, stop)) => some (shape.build id ⟨start, stop⟩ children)

/-! ## Choices and options -/

/-- The first success as it is, or the choice's own failure. -/
def readChoice (read : Read) (id : RuleId) : List RuleId → Nat → Option (Match RuleId)
  | [], start => some (.fail id start)
  | option :: options, start =>
      match read option start with
      | none => none
      | some m => if m.success then some m else readChoice read id options start

def readOptional (read : Read) (id inner : RuleId) (start : Nat) : Option (Match RuleId) :=
  (read inner start).map fun m => if m.success then m else .emptyAt id start

/-! ## Repetitions -/

/-- What a step of a repetition yields: the element alone, or the pair with its separator. -/
def Repetition.item (repetition : Repetition RuleId) (id : RuleId) (position : Nat)
    (separator element : Match RuleId) : Match RuleId :=
  if repetition.retainSeparators then
    .succeed id ⟨position, element.stop⟩ (.list [separator, element])
  else
    element

/-- Reads an element for a later step; its failure ends the repetition. -/
def readElement (read : Read) (element : RuleId) (position : Nat) :
    Option (Option (Match RuleId)) :=
  (read element position).map fun m => if m.success then some m else none

/-- One step after the first: the separator if there is one, then the element. -/
def readStep (read : Read) (repetition : Repetition RuleId) (id : RuleId) (position : Nat) :
    Option (Option (Match RuleId)) :=
  match repetition.separator with
  | none => readElement read repetition.element position
  | some separator =>
      match readElement read separator position with
      | none => none
      | some none => some none
      | some (some separator) =>
          (readElement read repetition.element separator.stop).map fun element =>
            element.map (repetition.item id position separator)

/-- Steps from `position` on, `count` items being read already: the further items, and the offset
behind the last. A step that consumes nothing would repeat for ever, so it counts as often as the
bounds allow, or need where they leave the count open, and is the last. Every other step advances;
`fuel` bounds their number. -/
def readSteps (step : Nat → Option (Option (Match RuleId))) (min : Nat) (max : Option Nat) :
    (fuel : Nat) → (position count : Nat) → Option (List (Match RuleId) × Nat)
  | 0, _, _ => none
  | fuel + 1, position, count =>
      if max.all (count < ·) then
        match step position with
        | none => none
        | some none => some ([], position)
        | some (some next) =>
            if position < next.stop then
              match readSteps step min max fuel next.stop (count + 1) with
              | none => none
              | some (items, stop) => some (next :: items, stop)
            else
              some (List.replicate (max.getD min - count) next, position)
      else
        some ([], position)

def readRepetition (read : Read) (fuel : Nat) (id : RuleId) (repetition : Repetition RuleId)
    (start : Nat) : Option (Match RuleId) :=
  if repetition.max = some 0 then
    some (.emptyAt id start)
  else
    match read repetition.element start with
    | none => none
    | some first =>
        if !first.success then
          some (if repetition.min = 0 then .emptyAt id start else .fail id start)
        else if repetition.collapseSingle && repetition.max == some 1 then
          some first
        else
          match readSteps (readStep read repetition id) repetition.min repetition.max fuel
              first.stop 1 with
          | none => none
          | some (items, stop) =>
              if items.length + 1 < repetition.min then
                some (.fail id start)
              else
                some (.succeed id ⟨start, stop⟩ (.list (first :: items)))

/-! ## Rules -/

/-- Reads a rule from its own start, skippable text being behind it. -/
def readKind (read : Read) (text : List Char) (id : RuleId) (start : Nat) :
    RuleKind RuleId → Option (Match RuleId)
  | .literal literal => some (readLiteral id literal text start)
  | .pattern pattern => some (readPattern id pattern text start)
  | .sequence items shape => readSequence read id items shape start
  | .choice options => readChoice read id options start
  | .optional inner => readOptional read id inner start
  | .repetition repetition => readRepetition read (Text.byteLength text + 1) id repetition start

namespace Registry

/-- Where a rule starts: behind skippable text if it applies skip. The skip rule does not skip. -/
def startOf (registry : Registry) (read : Read) (rule : LinkedRule) (id : RuleId) (start : Nat) :
    Option Nat :=
  if rule.appliesSkip && id != registry.skip then
    (read registry.skip start).map Match.stop
  else
    some start

/-- Reads a rule with at most `depth` rules inside one another. -/
def readWithin (registry : Registry) (text : List Char) : (depth : Nat) → Read
  | 0, _, _ => none
  | depth + 1, id, start =>
      match registry.rule? id with
      | none => none
      | some rule =>
          let read := registry.readWithin text depth
          match registry.startOf read rule id start with
          | none => none
          | some position => readKind read text id position rule.kind

/-- Between two steps forward in the text, every rule can be inside every other once. -/
def depthBound (registry : Registry) (text : List Char) : Nat :=
  (Text.byteLength text + 1) * (registry.rules.length + 1) + 1

/-- The match of a rule at an offset. Undefined only if the grammar is left-recursive there. -/
def readRule (registry : Registry) (input : String) (start : Nat) (id : RuleId) :
    Option (Match RuleId) :=
  registry.readWithin input.toList (registry.depthBound input.toList) id start

/-- The match of the entry rule at an offset. -/
def read (registry : Registry) (input : String) (start : Nat) : Option (Match RuleId) :=
  registry.readRule input start registry.entry

/-- The match of the rule of a name at an offset. -/
def readNamed (registry : Registry) (input : String) (start : Nat) (name : String) :
    Except GrammarError (Option (Match RuleId)) :=
  (registry.lookup name).map (registry.readRule input start)

end Registry

end RuleGrammar
