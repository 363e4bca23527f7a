import RuleGrammar.Proofs.Json.Scalars

/-!
Owns the reading of values in their indented form.

Contract: a value is read back as it was if its integers fit 64 bits, its floats are read back from their
own texts, and no more of it is nested than a text may hold (`Json.Fits`). What follows the value stays.
-/

namespace RuleGrammar.Json

/-! ## Nesting -/

mutual

/-- How many arrays and objects are inside one another. -/
def nesting : Json → Nat
  | .array items => nestingItems items + 1
  | .object members => nestingMembers members + 1
  | _ => 0

def nestingItems : List Json → Nat
  | [] => 0
  | item :: items => max (nesting item) (nestingItems items)

def nestingMembers : List (String × Json) → Nat
  | [] => 0
  | (_, value) :: members => max (nesting value) (nestingMembers members)

end

theorem nestingItems_le_iff {items : List Json} {depth : Nat} :
    nestingItems items ≤ depth ↔ ∀ item ∈ items, item.nesting ≤ depth := by
  induction items with
  | nil => simp [nestingItems]
  | cons item items inductionHypothesis =>
      rw [nestingItems, Nat.max_le, inductionHypothesis, List.forall_mem_cons]

theorem nestingMembers_le_iff {members : List (String × Json)} {depth : Nat} :
    nestingMembers members ≤ depth ↔ ∀ member ∈ members, member.2.nesting ≤ depth := by
  induction members with
  | nil => simp [nestingMembers]
  | cons member members inductionHypothesis =>
      rw [nestingMembers, Nat.max_le, inductionHypothesis, List.forall_mem_cons]

/-- A value whose integers fit 64 bits and whose floats are `good`, and that may be nested in all but
`depth` of the levels there are. -/
inductive Fits (good : Float → Prop) : (depth : Nat) → Json → Prop where
  | null {depth : Nat} : Fits good depth .null
  | bool {depth : Nat} {b : Bool} : Fits good depth (.bool b)
  | int {depth : Nat} {n : Int} :
      -(Nat.pow 2 63 : Int) ≤ n → n < UInt64.size → Fits good depth (.int n)
  | float {depth : Nat} {x : Float} : good x → Fits good depth (.float x)
  | string {depth : Nat} {s : String} : Fits good depth (.string s)
  | array {depth : Nat} {items : List Json} :
      (∀ item ∈ items, Fits good depth item) → Fits good (depth + 1) (.array items)
  | object {depth : Nat} {members : List (String × Json)} :
      (∀ member ∈ members, Fits good depth member.2) → Fits good (depth + 1) (.object members)

theorem fits_array_iff {good : Float → Prop} {depth : Nat} {items : List Json} :
    Fits good depth (.array items) ↔ 0 < depth ∧ ∀ item ∈ items, item.Fits good (depth - 1) := by
  refine ⟨fun fits => ?_, fun ⟨room, items⟩ => ?_⟩
  · cases fits with
    | array items => exact ⟨Nat.succ_pos _, items⟩
  · obtain ⟨depth, rfl⟩ := Nat.exists_eq_add_one.mpr room
    exact .array items

theorem fits_object_iff {good : Float → Prop} {depth : Nat} {members : List (String × Json)} :
    Fits good depth (.object members) ↔
      0 < depth ∧ ∀ member ∈ members, member.2.Fits good (depth - 1) := by
  refine ⟨fun fits => ?_, fun ⟨room, members⟩ => ?_⟩
  · cases fits with
    | object members => exact ⟨Nat.succ_pos _, members⟩
  · obtain ⟨depth, rfl⟩ := Nat.exists_eq_add_one.mpr room
    exact .object members

/-- A float that is read from its own text. -/
def Reproduced (x : Float) : Prop :=
  readNumber .full (floatChars x) = some (.float x, [])

/-! ## Blanks -/

theorem skipSpace_newLine (level : Nat) (text : List Char) :
    skipSpace (newLine level text) = skipSpace text := by
  have blanks : ∀ c ∈ List.replicate (2 * level) ' ', isSpace c = true := by
    intro c member
    rw [List.eq_of_mem_replicate member]
    rfl
  unfold skipSpace newLine
  rw [List.dropWhile_cons_of_pos (by rfl), List.dropWhile_append_of_pos blanks]

theorem skipSpace_cons {c : Char} (visible : isSpace c = false) (text : List Char) :
    skipSpace (c :: text) = c :: text :=
  List.dropWhile_cons_of_neg (by simp [visible])

theorem skipSpace_writeString (s : String) (text : List Char) :
    skipSpace (writeString s text) = writeString s text :=
  skipSpace_cons rfl _

theorem length_newLine (level : Nat) (text : List Char) :
    (newLine level text).length = 2 * level + text.length + 1 := by
  simp [newLine]

theorem endsNumber_newLine (level : Nat) (text : List Char) : EndsNumber (newLine level text) :=
  endsNumber_cons.mpr (by decide)

section

variable {care : Care} {fuel depth : Nat} {text rest : List Char}

/-- Blanks before a value do not matter. -/
theorem readValue_congr {other : List Char} (same : skipSpace text = skipSpace other) :
    readValue care fuel depth text = readValue care fuel depth other := by
  cases fuel with
  | zero => rfl
  | succ fuel => simp only [readValue, same]

theorem readItems_congr {other : List Char} (same : skipSpace text = skipSpace other) :
    readItems care fuel depth text = readItems care fuel depth other := by
  cases fuel with
  | zero => rfl
  | succ fuel => simp only [readItems, readValue_congr same]

theorem readMembers_congr {nameCare : Care} {careOf : String → Care} {other : List Char}
    (same : skipSpace text = skipSpace other) :
    readMembers nameCare careOf fuel depth text = readMembers nameCare careOf fuel depth other := by
  cases fuel with
  | zero => rfl
  | succ fuel => simp only [readMembers, same]

/-! ## Numbers -/

/-- A number begins with its sign or a digit. -/
theorem begins_of_readNumber {value : Json} (read : readNumber care text = some (value, rest)) :
    ∃ c left, text = c :: left ∧ (c = '-' ∨ Decimal.isDigit c = true) := by
  obtain ⟨⟨number, behind⟩, numberRead, _⟩ := Option.bind_eq_some_iff.mp read
  cases text with
  | nil => cases numberRead
  | cons c left =>
      refine ⟨c, left, rfl, ?_⟩
      by_cases minus : c = '-'
      · exact .inl minus
      · rw [readNumberText_of_ne minus] at numberRead
        obtain ⟨⟨digits, behind'⟩, whole, _⟩ := Option.bind_eq_some_iff.mp numberRead
        obtain ⟨same, nonempty, all, _⟩ :=
          readDigitRun_eq_some_iff.mp (readDigitRun_of_readWhole whole)
        obtain ⟨first, others, rfl⟩ := List.exists_cons_of_ne_nil nonempty
        rw [List.cons_append, List.cons.injEq] at same
        exact .inr (all c (by simp [same.1]))

theorem isSpace_of_begins {c : Char} (begins : c = '-' ∨ Decimal.isDigit c = true) :
    isSpace c = false := by
  rw [Bool.eq_false_iff]
  intro blank
  simp only [isSpace, Bool.or_eq_true, beq_iff_eq] at blank
  rcases blank with ((rfl | rfl) | rfl) | rfl
  all_goals exact absurd begins (by decide)

theorem readValue_of_readNumber {value : Json} (read : readNumber care text = some (value, rest)) :
    readValue care (fuel + 1) depth text = some (value, rest) := by
  obtain ⟨c, left, rfl, begins⟩ := begins_of_readNumber read
  rw [readValue, skipSpace_cons (isSpace_of_begins begins)]
  split
  case h_7 => exact read
  all_goals
    next other same =>
      rw [(List.cons.inj same).1] at begins
      exact absurd begins (by decide)

/-! ## Items and members, one at a time -/

section

variable {nameCare : Care} {careOf : String → Care} {item value : Json} {key : String}
  {left behind : List Char}

theorem readItems_last (read : readValue care fuel depth text = some (item, rest))
    (closed : skipSpace rest = ']' :: left) :
    readItems care (fuel + 1) depth text = some ([item], left) := by
  simp only [readItems, read, closed]

theorem readItems_cons {items : List Json}
    (read : readValue care fuel depth text = some (item, rest))
    (comma : skipSpace rest = ',' :: left)
    (others : readItems care fuel depth left = some (items, behind)) :
    readItems care (fuel + 1) depth text = some (item :: items, behind) := by
  simp only [readItems, read, comma, others, Option.map_some]

/-- An array with an item at least. -/
theorem readValue_array {c : Char} {items : List Json} (opened : skipSpace text = c :: left)
    (filled : c ≠ ']') (read : readItems care fuel depth (c :: left) = some (items, rest)) :
    readValue care (fuel + 1) (depth + 1) ('[' :: text) = some (.array items, rest) := by
  have room : ¬ (care = .full ∧ depth + 1 = 0) := by simp
  simp only [readValue, skipSpace_cons (c := '[') rfl, if_neg room, opened, Nat.add_sub_cancel]
  split
  next same => exact absurd (List.cons.inj same).1 filled
  next => rw [read, Option.map_some]

/-- An object with a member at least. -/
theorem readValue_object {members : List (String × Json)} (opened : skipSpace text = '"' :: left)
    (read : readMembers care (fun _ => care) fuel depth ('"' :: left) = some (members, rest)) :
    readValue care (fuel + 1) (depth + 1) ('\x7b' :: text) = some (.object members, rest) := by
  have room : ¬ (care = .full ∧ depth + 1 = 0) := by simp
  simp only [readValue, skipSpace_cons (c := '\x7b') rfl, if_neg room, opened, Nat.add_sub_cancel]
  split
  next same => exact absurd (List.cons.inj same).1 (by decide)
  next => rw [read, Option.map_some]

theorem readMembers_last {name : List Char} (opened : skipSpace text = '"' :: name)
    (named : readString nameCare name = some (key, rest)) (colon : skipSpace rest = ':' :: left)
    (read : readValue (careOf key) fuel depth left = some (value, behind)) {after : List Char}
    (closed : skipSpace behind = '\x7d' :: after) :
    readMembers nameCare careOf (fuel + 1) depth text = some ([(key, value)], after) := by
  simp only [readMembers, opened, named, colon, read, closed]

theorem readMembers_cons {name : List Char} {members : List (String × Json)}
    (opened : skipSpace text = '"' :: name)
    (named : readString nameCare name = some (key, rest)) (colon : skipSpace rest = ':' :: left)
    (read : readValue (careOf key) fuel depth left = some (value, behind)) {after : List Char}
    (comma : skipSpace behind = ',' :: after) {last : List Char}
    (others : readMembers nameCare careOf fuel depth after = some (members, last)) :
    readMembers nameCare careOf (fuel + 1) depth text = some ((key, value) :: members, last) := by
  simp only [readMembers, opened, named, colon, read, comma, others, Option.map_some]

end

end

/-! ## Written values -/

section

variable {depth level fuel : Nat} {tail : List Char}

/-- A written value begins with something to be seen, which does not close an array. -/
theorem Fits.exists_writePretty_eq_cons {value : Json} (fits : value.Fits Reproduced depth)
    (level : Nat) (tail : List Char) :
    ∃ c rest, value.writePretty level tail = c :: rest ∧ isSpace c = false ∧ c ≠ ']' := by
  have numeral : ∀ {chars : List Char} {number : Json}, readNumber .full chars = some (number, []) →
      ∃ c rest, chars ++ tail = c :: rest ∧ isSpace c = false ∧ c ≠ ']' := by
    intro chars number read
    obtain ⟨c, rest, rfl, begins⟩ := begins_of_readNumber read
    refine ⟨c, rest ++ tail, rfl, isSpace_of_begins begins, ?_⟩
    rintro rfl
    exact absurd begins (by decide)
  cases fits with
  | null => exact ⟨_, _, rfl, rfl, by decide⟩
  | @bool _ b => cases b <;> exact ⟨_, _, rfl, rfl, by decide⟩
  | int low high => exact numeral (readNumber_intChars low high)
  | float reproduced => exact numeral reproduced
  | string => exact ⟨_, _, rfl, rfl, by decide⟩
  | @array _ items _ => cases items <;> exact ⟨_, _, rfl, rfl, by decide⟩
  | @object _ members _ => cases members <;> exact ⟨_, _, rfl, rfl, by decide⟩

/-! ## Lengths -/

/-- What is written stands in front of what follows it, which does not change it. -/
def Prepends (write : List Char → List Char) : Prop :=
  ∀ tail, write tail = write [] ++ tail

theorem Prepends.length_eq {write : List Char → List Char} (prepends : Prepends write)
    (tail : List Char) : (write tail).length = (write []).length + tail.length := by
  rw [prepends tail, List.length_append]

theorem Prepends.comp {first second : List Char → List Char} (left : Prepends first)
    (right : Prepends second) : Prepends fun tail => first (second tail) := by
  intro tail
  calc
    first (second tail) = first [] ++ (second [] ++ tail) := by rw [left (second tail), right tail]
    _ = first (second []) ++ tail := by rw [left (second []), List.append_assoc]

theorem prepends_cons (c : Char) : Prepends (c :: ·) :=
  fun _ => rfl

theorem prepends_append (chars : List Char) : Prepends (chars ++ ·) :=
  fun tail => congrArg (· ++ tail) (List.append_nil chars).symm

theorem prepends_newLine (level : Nat) : Prepends (newLine level) :=
  (prepends_cons '\n').comp (prepends_append _)

theorem prepends_writeString (s : String) : Prepends (writeString s) :=
  (prepends_cons '"').comp ((prepends_append _).comp (prepends_cons '"'))

mutual

theorem prepends_writePretty (level : Nat) : (value : Json) → Prepends (value.writePretty level)
  | .null => prepends_append _
  | .bool _ => prepends_append _
  | .int _ => prepends_append _
  | .float _ => prepends_append _
  | .string s => prepends_writeString s
  | .array [] => (prepends_cons '[').comp (prepends_cons ']')
  | .array (item :: items) =>
      (prepends_cons '[').comp ((prepends_newLine _).comp ((prepends_writePretty _ item).comp
        ((prepends_writePrettyItems _ items).comp ((prepends_newLine _).comp (prepends_cons ']')))))
  | .object [] => (prepends_cons '\x7b').comp (prepends_cons '\x7d')
  | .object ((key, value) :: members) =>
      (prepends_cons '\x7b').comp ((prepends_newLine _).comp ((prepends_writeString key).comp
        ((prepends_append [':', ' ']).comp ((prepends_writePretty _ value).comp
          ((prepends_writePrettyMembers _ members).comp
            ((prepends_newLine _).comp (prepends_cons '\x7d')))))))

theorem prepends_writePrettyItems (level : Nat) :
    (items : List Json) → Prepends (writePrettyItems level items)
  | [] => prepends_append []
  | item :: items =>
      (prepends_cons ',').comp ((prepends_newLine _).comp ((prepends_writePretty _ item).comp
        (prepends_writePrettyItems _ items)))

theorem prepends_writePrettyMembers (level : Nat) :
    (members : List (String × Json)) → Prepends (writePrettyMembers level members)
  | [] => prepends_append []
  | (key, value) :: members =>
      (prepends_cons ',').comp ((prepends_newLine _).comp ((prepends_writeString key).comp
        ((prepends_append [':', ' ']).comp ((prepends_writePretty _ value).comp
          (prepends_writePrettyMembers _ members)))))

end

/-! ## Values read back -/

/-- In front of any text that does not continue it, the value is read as it was. -/
def ReadBack (depth : Nat) (value : Json) : Prop :=
  ∀ level fuel tail, EndsNumber tail → 2 * (value.writePretty level []).length ≤ fuel →
    readValue .full fuel depth (value.writePretty level tail) = some (value, tail)

theorem endsNumber_writePrettyItems {items : List Json} (ends : EndsNumber tail) :
    EndsNumber (writePrettyItems level items tail) := by
  cases items with
  | nil => exact ends
  | cons item items => exact endsNumber_cons.mpr (by decide)

theorem endsNumber_writePrettyMembers {members : List (String × Json)} (ends : EndsNumber tail) :
    EndsNumber (writePrettyMembers level members tail) := by
  cases members with
  | nil => exact ends
  | cons member members => exact endsNumber_cons.mpr (by decide)

/-- Items in lines of their own, up to the bracket that closes them. -/
theorem readItems_writePretty {item : Json} {items : List Json}
    (back : ∀ value ∈ item :: items, value.ReadBack depth)
    (enough : 2 * (item.writePretty (level + 1) (writePrettyItems level items [])).length < fuel) :
    readItems .full fuel depth (item.writePretty (level + 1) (writePrettyItems level items
      (newLine level (']' :: tail)))) = some (item :: items, tail) := by
  induction items generalizing item fuel with
  | nil =>
      rw [writePrettyItems] at enough ⊢
      obtain ⟨fuel, rfl⟩ : ∃ further, fuel = further + 1 := ⟨fuel - 1, by omega⟩
      have read := back item List.mem_cons_self (level + 1) fuel (newLine level (']' :: tail))
        (endsNumber_newLine _ _) (by omega)
      refine readItems_last read ?_
      rw [skipSpace_newLine, skipSpace_cons rfl]
  | cons next items inductionHypothesis =>
      rw [(prepends_writePretty _ item).length_eq] at enough
      obtain ⟨fuel, rfl⟩ : ∃ further, fuel = further + 1 := ⟨fuel - 1, by omega⟩
      have read := back item List.mem_cons_self (level + 1) fuel
        (writePrettyItems level (next :: items) (newLine level (']' :: tail)))
        (endsNumber_writePrettyItems (endsNumber_newLine _ _)) (by omega)
      rw [writePrettyItems] at read enough ⊢
      rw [List.length_cons, length_newLine] at enough
      refine readItems_cons read (skipSpace_cons rfl _) ?_
      rw [readItems_congr (skipSpace_newLine _ _)]
      exact inductionHypothesis (fun value member => back value (List.mem_cons_of_mem _ member))
        (by omega)

/-- Members in lines of their own, up to the brace that closes them. -/
theorem readMembers_writePretty {careOf : String → Care} {key : String} {value : Json}
    {members : List (String × Json)} (back : ∀ member ∈ (key, value) :: members, member.2.ReadBack depth)
    (heeded : ∀ member ∈ (key, value) :: members, careOf member.1 = .full)
    (enough : 2 * (value.writePretty (level + 1) (writePrettyMembers level members [])).length < fuel) :
    readMembers .full careOf fuel depth (writeString key (':' :: ' ' ::
      value.writePretty (level + 1) (writePrettyMembers level members
        (newLine level ('\x7d' :: tail))))) = some ((key, value) :: members, tail) := by
  have blank : ∀ text, skipSpace (' ' :: text) = skipSpace text :=
    fun text => List.dropWhile_cons_of_pos rfl
  induction members generalizing key value fuel with
  | nil =>
      rw [writePrettyMembers] at enough ⊢
      obtain ⟨fuel, rfl⟩ : ∃ further, fuel = further + 1 := ⟨fuel - 1, by omega⟩
      have here : value.ReadBack depth := back (key, value) List.mem_cons_self
      have read := here (level + 1) fuel (newLine level ('\x7d' :: tail)) (endsNumber_newLine _ _)
        (by omega)
      rw [← readValue_congr (blank _), ← heeded (key, _) List.mem_cons_self] at read
      refine readMembers_last (skipSpace_cons rfl _) (readString_escaped _ _) (skipSpace_cons rfl _)
        read ?_
      rw [skipSpace_newLine, skipSpace_cons rfl]
  | cons next members inductionHypothesis =>
      obtain ⟨name, nextValue⟩ := next
      rw [(prepends_writePretty _ value).length_eq] at enough
      obtain ⟨fuel, rfl⟩ : ∃ further, fuel = further + 1 := ⟨fuel - 1, by omega⟩
      have here : value.ReadBack depth := back (key, value) List.mem_cons_self
      have read := here (level + 1) fuel (writePrettyMembers level ((name, nextValue) :: members)
        (newLine level ('\x7d' :: tail))) (endsNumber_writePrettyMembers (endsNumber_newLine _ _))
        (by omega)
      rw [← readValue_congr (blank _), ← heeded (key, _) List.mem_cons_self] at read
      rw [writePrettyMembers] at read enough ⊢
      rw [List.length_cons, length_newLine, (prepends_writeString name).length_eq, List.length_cons,
        List.length_cons] at enough
      refine readMembers_cons (skipSpace_cons rfl _) (readString_escaped _ _) (skipSpace_cons rfl _)
        read (skipSpace_cons rfl _) ?_
      rw [readMembers_congr (skipSpace_newLine _ _)]
      exact inductionHypothesis (fun member later => back member (List.mem_cons_of_mem _ later))
        (fun member later => heeded member (List.mem_cons_of_mem _ later)) (by omega)

/-- The fuel for an array is enough for its items. -/
theorem lt_length_writePretty_array (level : Nat) (item : Json) (items : List Json) :
    (item.writePretty (level + 1) (writePrettyItems level items [])).length <
      ((Json.array (item :: items)).writePretty level []).length := by
  have inside := ((prepends_writePretty (level + 1) item).comp
    (prepends_writePrettyItems level items)).length_eq (newLine level [']'])
  rw [writePretty, List.length_cons, length_newLine, inside]
  omega

/-- The fuel for an object is enough for its members. -/
theorem lt_length_writePretty_object (level : Nat) (key : String) (value : Json)
    (members : List (String × Json)) :
    (value.writePretty (level + 1) (writePrettyMembers level members [])).length <
      ((Json.object ((key, value) :: members)).writePretty level []).length := by
  have inside := ((prepends_writePretty (level + 1) value).comp
    (prepends_writePrettyMembers level members)).length_eq (newLine level ['\x7d'])
  rw [writePretty, List.length_cons, length_newLine, (prepends_writeString key).length_eq,
    List.length_cons, List.length_cons, inside]
  omega

/-- There is fuel for a value, since something of it is to be seen. -/
theorem ReadBack.of_succ {value : Json} (fits : value.Fits Reproduced depth)
    (read : ∀ level fuel tail, EndsNumber tail → 2 * (value.writePretty level []).length ≤ fuel + 1 →
      readValue .full (fuel + 1) depth (value.writePretty level tail) = some (value, tail)) :
    value.ReadBack depth := by
  intro level fuel tail ends enough
  obtain ⟨c, rest, written, _⟩ := fits.exists_writePretty_eq_cons level []
  have room : 0 < (value.writePretty level []).length := by
    rw [written]
    exact Nat.succ_pos _
  obtain ⟨fuel, rfl⟩ : ∃ further, fuel = further + 1 := ⟨fuel - 1, by omega⟩
  exact read level fuel tail ends enough

/-- A value that fits is read back wherever it is written. -/
theorem Fits.readBack {value : Json} (fits : value.Fits Reproduced depth) :
    value.ReadBack depth := by
  have whole := fits
  induction fits with
  | null => exact .of_succ whole fun _ _ _ _ _ => rfl
  | @bool _ b =>
      refine .of_succ whole fun _ _ _ _ _ => ?_
      cases b <;> rfl
  | int low high =>
      refine .of_succ whole fun _ _ _ ends _ => ?_
      exact readValue_of_readNumber (readNumber_append ends (readNumber_intChars low high))
  | float reproduced =>
      refine .of_succ whole fun _ _ _ ends _ => ?_
      exact readValue_of_readNumber (readNumber_append ends reproduced)
  | @string _ s =>
      refine .of_succ whole fun _ _ tail _ _ => ?_
      simp only [writePretty, writeString, readValue, skipSpace_cons (c := '"') rfl,
        readString_escaped, Option.map_some]
  | @array depth items fits inductionHypothesis =>
      refine .of_succ whole fun level fuel tail ends enough => ?_
      cases items with
      | nil => rfl
      | cons item items =>
          have inside := lt_length_writePretty_array level item items
          obtain ⟨c, left, begins, visible, filled⟩ :=
            (fits item List.mem_cons_self).exists_writePretty_eq_cons (level + 1)
              (writePrettyItems level items (newLine level (']' :: tail)))
          have opened : skipSpace (newLine (level + 1) (item.writePretty (level + 1)
              (writePrettyItems level items (newLine level (']' :: tail))))) = c :: left := by
            rw [skipSpace_newLine, begins, skipSpace_cons visible]
          rw [writePretty]
          refine readValue_array opened filled ?_
          rw [← begins]
          exact readItems_writePretty
            (fun value member => inductionHypothesis value member (fits value member)) (by omega)
  | @object depth members fits inductionHypothesis =>
      refine .of_succ whole fun level fuel tail ends enough => ?_
      cases members with
      | nil => rfl
      | cons member members =>
          obtain ⟨key, value⟩ := member
          have inside := lt_length_writePretty_object level key value members
          have opened : skipSpace (newLine (level + 1) (writeString key (':' :: ' ' ::
              value.writePretty (level + 1) (writePrettyMembers level members
                (newLine level ('\x7d' :: tail)))))) = writeString key (':' :: ' ' ::
              value.writePretty (level + 1) (writePrettyMembers level members
                (newLine level ('\x7d' :: tail)))) := by
            rw [skipSpace_newLine, skipSpace_writeString]
          rw [writePretty]
          refine readValue_object opened ?_
          exact readMembers_writePretty
            (fun member held => inductionHypothesis member held (fits member held))
            (fun _ _ => rfl) (by omega)

/-- An object all of whose members are asked for is the value of its own text. -/
theorem parse?_pretty {heeded : String → Bool} {members : List (String × Json)}
    (fits : (Json.object members).Fits Reproduced nestingLimit)
    (asked : ∀ member ∈ members, heeded member.1 = true) :
    parse? heeded (pretty (.object members)) = some (.object members) := by
  cases members with
  | nil => rfl
  | cons member members =>
      obtain ⟨key, value⟩ := member
      have parts := (fits_object_iff.mp fits).2
      have outermost : ∀ fuel, 2 * (writePretty 0 (.object ((key, value) :: members)) []).length ≤ fuel →
          readOutermost heeded fuel (writePretty 0 (.object ((key, value) :: members)) []) =
            some (.object ((key, value) :: members), []) := by
        intro fuel enough
        have inside := lt_length_writePretty_object 0 key value members
        simp only [readOutermost, writePretty, skipSpace_cons (c := '\x7b') rfl, skipSpace_newLine,
          skipSpace_writeString]
        split
        next same => exact absurd (List.cons.inj same).1 (by decide)
        next =>
          rw [readMembers_writePretty (fun member held => (parts member held).readBack)
            (fun member held => if_pos (asked member held)) (by omega)]
          rfl
      rw [parse?, pretty, String.toList_ofList, outermost _ (by omega)]
      rfl

end

end RuleGrammar.Json
