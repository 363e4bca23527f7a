import RuleGrammar.Proofs.BaseType.NumeralValue
import RuleGrammar.Proofs.BaseType.Reading
import RuleGrammar.Proofs.RoundTrip

/-!
Owns the values that are read back from their own texts, those that `Value.shown` writes.

Contract: in a grammar that skips blanks, the type of all base types reads an integer, a truth value or a
text as the rule of its kind does, whatever stands around it (`Registry.readNamed_shown`). Only what
follows an integer must not continue it.
-/

namespace RuleGrammar

/-! ## Digits -/

/-- What holds of the digits of a base holds of the digits of a number in that base. -/
theorem forall_mem_toDigits {base : Nat} {holds : Char → Prop} (large : 1 < base)
    (digits : ∀ d < base, holds (Nat.digitChar d)) (n : Nat) : ∀ c ∈ Nat.toDigits base n, holds c := by
  induction n using Nat.base_induction base large with
  | single d digit =>
      rw [Nat.toDigits_of_lt_base digit, List.forall_mem_singleton]
      exact digits d digit
  | digit n d digit positive inductionHypothesis =>
      rw [← Nat.toDigits_append_toDigits large positive digit, Nat.toDigits_of_lt_base digit,
        List.forall_mem_append, List.forall_mem_singleton]
      exact ⟨inductionHypothesis, digits d digit⟩

/-! ## Integers -/

/-- Nothing at the beginning of the text continues a number before it. -/
def Numeral.EndsBefore (after : List Char) : Prop :=
  ∀ c ∈ after.head?, Text.isDecimalDigit c = false ∧ c ≠ '.' ∧ c ≠ 'e' ∧ c ≠ 'E'

namespace Numeral

variable {after : List Char}

theorem toList_shown_int (n : Int64) : (Value.int n).shown.toList = Json.intChars n.toInt := by
  change (toString n.toInt).toList = _
  cases n.toInt with
  | ofNat n =>
      change (String.ofList (Decimal.digitChars n)).toList = _
      rw [String.toList_ofList, Json.intChars, if_neg (by simp)]
      rfl
  | negSucc n =>
      change ("-" ++ String.ofList (Decimal.digitChars (n + 1))).toList = _
      simp only [String.toList_append, String.toList_ofList, Json.intChars,
        if_pos (Int.negSucc_lt_zero n)]
      rfl

theorem isSign_of_mem_digitChars {n : Nat} {c : Char} (member : c ∈ Decimal.digitChars n) :
    isSign c = false :=
  isSign_eq_false (isDecimalDigit_of_isDigit (Decimal.isDigit_of_mem_digitChars member))

/-- A digit stands in front. -/
theorem mem_digitChars_of_mem_head? {n : Nat} {c : Char}
    (first : c ∈ (Decimal.digitChars n ++ after).head?) : c ∈ Decimal.digitChars n := by
  rw [List.head?_append_of_ne_nil _ (Decimal.digitChars_ne_nil n)] at first
  exact List.mem_of_mem_head? first

/-- Every integer is read back from its digits. -/
theorem readInt?_intChars (n : Int64) : Decimal.readInt? (Json.intChars n.toInt) = some n := by
  have digits : Decimal.digitChars n.toInt.natAbs ≠ [] ∧
      (Decimal.digitChars n.toInt.natAbs).all Decimal.isDigit = true :=
    ⟨Decimal.digitChars_ne_nil _, List.all_eq_true.mpr fun _ => Decimal.isDigit_of_mem_digitChars⟩
  by_cases negative : n.toInt < 0
  · have value : -(n.toInt.natAbs : Int) = n.toInt := by omega
    rw [Json.intChars, if_pos negative, Decimal.readInt?]
    simp only [Decimal.splitSign]
    rw [if_pos digits, Decimal.extendNat_digitChars, Decimal.signed, if_pos rfl, value,
      Decimal.int64?_toInt]
  · have value : (n.toInt.natAbs : Int) = n.toInt := by omega
    rw [Json.intChars, if_neg negative, Decimal.readInt?,
      Decimal.splitSign_of_unsigned fun c first =>
        isSign_of_mem_digitChars (List.mem_of_mem_head? first)]
    simp only
    rw [if_pos digits, Decimal.extendNat_digitChars, Decimal.signed, if_neg (by simp), value,
      Decimal.int64?_toInt]

theorem takeSign_intChars (n : Int) (after : List Char) :
    ∃ sign, Json.intChars n = sign ++ Decimal.digitChars n.natAbs ∧
      takeSign (Json.intChars n ++ after) = (sign, Decimal.digitChars n.natAbs ++ after) := by
  by_cases negative : n < 0
  · exact ⟨['-'], if_pos negative, by rw [Json.intChars, if_pos negative]; rfl⟩
  · refine ⟨[], if_neg negative, ?_⟩
    rw [Json.intChars, if_neg negative]
    exact takeSign_of_unsigned fun _ first =>
      isSign_of_mem_digitChars (mem_digitChars_of_mem_head? first)

/-- Neither a blank nor the beginning of a truth value, a name or a quotation. -/
def Leads (c : Char) : Prop :=
  Text.isBlank c = false ∧ (c ≠ 't' ∧ c ≠ 'f') ∧ Name.starts.contains c = false ∧ c ≠ '"'

instance (c : Char) : Decidable (Leads c) :=
  inferInstanceAs (Decidable (_ ∧ _))

theorem leads_intChars (n : Int) : ∀ c ∈ (Json.intChars n ++ after).head?, Leads c := by
  by_cases negative : n < 0
  · rw [Json.intChars, if_pos negative]
    rintro c ⟨rfl⟩
    decide
  · rw [Json.intChars, if_neg negative]
    have digits : ∀ d < 10, Leads (Nat.digitChar d) := by decide
    exact fun c first => forall_mem_toDigits (by decide) digits n.natAbs c
      (mem_digitChars_of_mem_head? first)

/-- The digits of an integer are all that an integer takes. -/
theorem int_intChars (n : Int) (ends : EndsBefore after) :
    int (Json.intChars n ++ after) = some (Json.intChars n, after) := by
  obtain ⟨sign, same, split⟩ := takeSign_intChars n after
  have run : ∀ c ∈ Decimal.digitChars n.natAbs, Decimal.isDigit c = true :=
    fun _ => Decimal.isDigit_of_mem_digitChars
  have ended : ∀ c ∈ after.head?, Decimal.isDigit c = false := fun c first =>
    Bool.eq_false_iff.mpr fun digit =>
      Bool.eq_false_iff.mp (ends c first).1 (isDecimalDigit_of_isDigit digit)
  have digit : (Decimal.digitChars n.natAbs ++ after).head?.any Decimal.isDigit = true := by
    obtain ⟨c, first⟩ := Option.ne_none_iff_exists'.mp
      (mt List.head?_eq_none_iff.mp
        (List.append_ne_nil_of_left_ne_nil (Decimal.digitChars_ne_nil n.natAbs) after))
    rw [first, Option.any_some]
    exact run c (mem_digitChars_of_mem_head? first)
  rw [int, split]
  simp only
  rw [if_pos digit, takeWhile_run run ended, dropWhile_run run ended, same]

/-- Without a point or an exponent behind it, an integer is no strict float. -/
theorem strictFloat_intChars (n : Int) (ends : EndsBefore after) :
    strictFloat (Json.intChars n ++ after) = none := by
  obtain ⟨sign, same, split⟩ := takeSign_intChars n after
  have run : ∀ c ∈ Decimal.digitChars n.natAbs, Text.isDecimalDigit c = true :=
    fun _ member => isDecimalDigit_of_isDigit (Decimal.isDigit_of_mem_digitChars member)
  have behind := dropWhile_run run fun c first => (ends c first).1
  have fraction : takeFraction after = ([], after) := by
    cases after with
    | nil => rfl
    | cons c rest => exact if_neg (ends c rfl).2.1
  have exponent : takeExponent after = ([], after) := by
    cases after with
    | nil => rfl
    | cons c rest =>
        have unmarked : isMark c = false := by simp [isMark, (ends c rfl).2.2]
        simp [takeExponent, unmarked]
  rw [strictFloat, if_neg]
  simp [scan, split, scanUnsigned, behind, fraction, exponent, isScaled]

end Numeral

/-! ## Texts -/

namespace Quotation

theorem IsBody.append {first second : List Char} (isBody : IsBody first) (isBody' : IsBody second) :
    IsBody (first ++ second) := by
  induction isBody with
  | nil => exact isBody'
  | plain unquoted unescaped _ inductionHypothesis =>
      exact .plain unquoted unescaped inductionHypothesis
  | escaped sameLine _ inductionHypothesis => exact .escaped sameLine inductionHypothesis

theorem isBody_of_plain {text : List Char} (plain : ∀ c ∈ text, c ≠ '"' ∧ c ≠ '\\') : IsBody text := by
  induction text with
  | nil => exact .nil
  | cons c text inductionHypothesis =>
      rw [List.forall_mem_cons] at plain
      exact .plain plain.1.1 plain.1.2 (inductionHypothesis plain.2)

theorem plain_of_mem_hexDigits (n : Nat) : ∀ c ∈ Text.hexDigits n, c ≠ '"' ∧ c ≠ '\\' :=
  forall_mem_toDigits (by decide) (by decide) n

/-- The form of a character between quotes has no quote of its own and no unfinished escape. -/
theorem isBody_quotedChar (c : Char) : IsBody (Text.quotedChar c) := by
  unfold Text.quotedChar
  split
  any_goals exact .escaped (by decide) .nil
  next unquoted unescaped _ _ _ _ =>
    split_ifs
    · refine .escaped (by decide) (isBody_of_plain ?_)
      rw [List.forall_mem_cons, List.forall_mem_append, List.forall_mem_singleton]
      exact ⟨by decide, plain_of_mem_hexDigits _, by decide⟩
    · exact .plain unquoted unescaped .nil

theorem isBody_quoted (text : List Char) : IsBody (text.flatMap Text.quotedChar) := by
  induction text with
  | nil => exact .nil
  | cons c text inductionHypothesis =>
      rw [List.flatMap_cons]
      exact (isBody_quotedChar c).append inductionHypothesis

theorem toList_shown (s : String) : (Value.text s).shown.toList =
    '"' :: (s.toList.flatMap Text.quotedChar ++ ['"']) :=
  String.toList_ofList

/-- A text is read back as it is shown, with the quotes around it. -/
theorem scan_shown (s : String) (after : List Char) :
    scan ((Value.text s).shown.toList ++ after) = some ((Value.text s).shown.toList, after) := by
  exact scan_eq_some_iff.mpr
    ⟨s.toList.flatMap Text.quotedChar, isBody_quoted s.toList, toList_shown s, rfl⟩

end Quotation

/-! ## The type of all base types -/

/-- Where all options give a match, the first success counts. -/
theorem readChoice_of_reads {read : Read} {id : RuleId} {options : List RuleId}
    {ms : List (Match RuleId)} {start : Nat}
    (reads : List.Forall₂ (fun option m => read option start = some m) options ms) :
    readChoice read id options start = some ((ms.find? Match.success).getD (.fail id start)) := by
  induction reads with
  | nil => rfl
  | @cons option m options ms here _ inductionHypothesis =>
      rw [readChoice_cons_eq, here, Option.bind_some, inductionHypothesis, List.find?_cons]
      cases m.success <;> rfl

namespace Registry

variable {rules : List RuleDef} {registry : Registry} {input : String} {start : Nat}
  {text : List Char}

/-- Where there is nothing to skip, a base type begins at once. -/
theorem Scans.readRule_eq {base : BaseType} {scan : Reader (List Char)} {kind : ValueKind} {id : RuleId}
    (scans : registry.Scans base scan kind id) (built : ofRules rules = .ok registry)
    (undeclared : skipName ∉ rules.map Rule.name) (found : Text.suffixAt input.toList start = some text)
    (visible : ∀ c ∈ text.head?, Text.isBlank c = false) :
    registry.readRule input start id = some (readScanned scan kind id input.toList start) := by
  have nothing : takeValue Blanks.scan .text text = some (.text (String.ofList []), []) := by
    have none : text.takeWhile Text.isBlank = [] := by
      cases text with
      | nil => rfl
      | cons c rest => exact List.takeWhile_cons_of_neg (by simp [visible c rfl])
    simp [takeValue, Blanks.scan, none, ValueKind.convert]
  rw [scans.reads, readRule_defaultSkip built undeclared, readScanned_of_takeValue found nothing]
  rfl

/-- In front of visible text, the first of the base types that succeeds there. -/
theorem exists_readNamed_baseType (built : ofRules rules = .ok registry)
    (undeclared : skipName ∉ rules.map Rule.name) (found : Text.suffixAt input.toList start = some text)
    (visible : ∀ c ∈ text.head?, Text.isBlank c = false) :
    ∃ boolId nameId stringId strictId intId numberId baseId,
      registry.lookup "BOOL" = .ok boolId ∧ registry.lookup "STRING" = .ok stringId ∧
      registry.lookup "INT" = .ok intId ∧
      registry.readNamed input start "BASETYPE" = .ok (some
        (([readScanned Truth.scan .bool boolId input.toList start,
          readScanned Name.scan .text nameId input.toList start,
          readScanned Quotation.scan .text stringId input.toList start,
          ([readScanned Numeral.strictFloat .float strictId input.toList start,
            readScanned Numeral.int .int intId input.toList start].find? Match.success).getD
              (.fail numberId start)].find? Match.success).getD (.fail baseId start))) := by
  obtain ⟨boolId, bools⟩ := exists_scans built .bool rfl
  obtain ⟨nameId, names⟩ := exists_scans built .id rfl
  obtain ⟨stringId, strings⟩ := exists_scans built .string rfl
  obtain ⟨strictId, stricts⟩ := exists_scans built .strictFloat rfl
  obtain ⟨intId, ints⟩ := exists_scans built .int rfl
  obtain ⟨numberId, numbers⟩ := exists_tries_number built
  obtain ⟨baseId, bases⟩ := exists_tries_baseType built
  have number := (numbers.reads (.cons stricts.named (.cons ints.named .nil)) input start).trans
    (readChoice_of_reads (.cons (stricts.readRule_eq built undeclared found visible)
      (.cons (ints.readRule_eq built undeclared found visible) .nil)))
  refine ⟨boolId, nameId, stringId, strictId, intId, numberId, baseId, lookup_eq_ok_iff.mpr bools.named,
    lookup_eq_ok_iff.mpr strings.named, lookup_eq_ok_iff.mpr ints.named, ?_⟩
  refine (bases.readNamed_eq (.cons bools.named (.cons names.named (.cons strings.named
    (.cons numbers.named .nil)))) input start).trans (congrArg Except.ok ?_)
  exact readChoice_of_reads (.cons (bools.readRule_eq built undeclared found visible)
    (.cons (names.readRule_eq built undeclared found visible)
      (.cons (strings.readRule_eq built undeclared found visible) (.cons number .nil))))

/-- Between two other texts, the type of all base types reads a text as the rule of a name does, with a
value. -/
def ReadsBack (registry : Registry) (before after name shown : String) (value : Value) : Prop :=
  ∃ id, registry.lookup name = .ok id ∧
    registry.readNamed (before ++ shown ++ after) (Text.byteLength before.toList) "BASETYPE" =
      .ok (some (.succeed id
        ⟨Text.byteLength before.toList,
          Text.byteLength before.toList + Text.byteLength shown.toList⟩
        (.scalar value)))

variable {before after : String}

theorem suffixAt_shown (before shown after : String) :
    Text.suffixAt (before ++ shown ++ after).toList (Text.byteLength before.toList) =
      some (shown.toList ++ after.toList) := by
  rw [String.toList_append, String.toList_append, List.append_assoc]
  exact Text.suffixAt_append ..

theorem readsBack_bool (built : ofRules rules = .ok registry)
    (undeclared : skipName ∉ rules.map Rule.name) (b : Bool) :
    registry.ReadsBack before after "BOOL" (Value.bool b).shown (.bool b) := by
  have found := suffixAt_shown before (Value.bool b).shown after
  have visible : ∀ c ∈ ((Value.bool b).shown.toList ++ after.toList).head?, Text.isBlank c = false := by
    cases b <;> rintro c ⟨rfl⟩ <;> decide
  have taken : takeValue Truth.scan .bool ((Value.bool b).shown.toList ++ after.toList) =
      some (.bool b, (Value.bool b).shown.toList) :=
    takeValue_eq_some_iff.mpr ⟨after.toList, Truth.scan_append b after.toList, by cases b <;> rfl⟩
  obtain ⟨boolId, _, _, _, _, _, _, bool, -, -, reads⟩ :=
    exists_readNamed_baseType built undeclared found visible
  refine ⟨boolId, bool, reads.trans ?_⟩
  rw [readScanned_of_takeValue found taken]
  rfl

theorem readsBack_text (built : ofRules rules = .ok registry)
    (undeclared : skipName ∉ rules.map Rule.name) (s : String) :
    registry.ReadsBack before after "STRING" (Value.text s).shown (.text (Value.text s).shown) := by
  have found := suffixAt_shown before (Value.text s).shown after
  have quote : ∀ c ∈ ((Value.text s).shown.toList ++ after.toList).head?, c = '"' := by
    rw [Quotation.toList_shown]
    rintro c ⟨rfl⟩
    rfl
  have notBool := Truth.scan_eq_none fun c first => quote c first ▸ by decide
  have notName := Name.scan_eq_none fun c first => quote c first ▸ by decide
  have taken : takeValue Quotation.scan .text ((Value.text s).shown.toList ++ after.toList) =
      some (.text (Value.text s).shown, (Value.text s).shown.toList) :=
    takeValue_eq_some_iff.mpr ⟨after.toList, Quotation.scan_shown s after.toList,
      congrArg (some ∘ Value.text) String.ofList_toList⟩
  obtain ⟨_, _, stringId, _, _, _, _, -, string, -, reads⟩ :=
    exists_readNamed_baseType built undeclared found fun c first => quote c first ▸ by decide
  refine ⟨stringId, string, reads.trans ?_⟩
  rw [readScanned_of_scan found notBool, readScanned_of_scan found notName,
    readScanned_of_takeValue found taken]
  rfl

theorem readsBack_int (built : ofRules rules = .ok registry)
    (undeclared : skipName ∉ rules.map Rule.name) (ends : Numeral.EndsBefore after.toList) (n : Int64) :
    registry.ReadsBack before after "INT" (Value.int n).shown (.int n) := by
  have shown := Numeral.toList_shown_int n
  have found := suffixAt_shown before (Value.int n).shown after
  rw [shown] at found
  have leads : ∀ c ∈ (Json.intChars n.toInt ++ after.toList).head?, Numeral.Leads c :=
    Numeral.leads_intChars n.toInt
  have notBool := Truth.scan_eq_none fun c first => (leads c first).2.1
  have notName := Name.scan_eq_none fun c first => (leads c first).2.2.1
  have notString := Quotation.scan_eq_none fun c first => (leads c first).2.2.2
  have notFloat := Numeral.strictFloat_intChars n.toInt ends
  have taken : takeValue Numeral.int .int (Json.intChars n.toInt ++ after.toList) =
      some (.int n, Json.intChars n.toInt) :=
    takeValue_eq_some_iff.mpr ⟨after.toList, Numeral.int_intChars n.toInt ends,
      congrArg (Option.map Value.int) (Numeral.readInt?_intChars n)⟩
  obtain ⟨_, _, _, _, intId, _, _, -, -, int, reads⟩ :=
    exists_readNamed_baseType built undeclared found fun c first => (leads c first).1
  refine ⟨intId, int, reads.trans ?_⟩
  rw [readScanned_of_scan found notBool, readScanned_of_scan found notName,
    readScanned_of_scan found notString, readScanned_of_scan found notFloat,
    readScanned_of_takeValue found taken, shown]
  rfl

/-- In a grammar that declares no rule for skippable text, what is shown of a value is read back whole: a
truth value and an integer as themselves, a text with its quotes and escapes. Only behind an integer does
it matter what follows. -/
theorem readNamed_shown (built : ofRules rules = .ok registry)
    (undeclared : skipName ∉ rules.map Rule.name) (before after : String) :
    (∀ b, registry.ReadsBack before after "BOOL" (Value.bool b).shown (.bool b)) ∧
    (∀ s, registry.ReadsBack before after "STRING" (Value.text s).shown
      (.text (Value.text s).shown)) ∧
    (Numeral.EndsBefore after.toList →
      ∀ n, registry.ReadsBack before after "INT" (Value.int n).shown (.int n)) :=
  ⟨readsBack_bool built undeclared, readsBack_text built undeclared, readsBack_int built undeclared⟩

/-- The least integer, and a text of a quote and a line break, behind a character of two bytes. -/
theorem readNamed_shown_word :
    ∃ registry, ofRules [RuleDef.ofKind "word" (.literal "é")] = .ok registry ∧
      registry.ReadsBack "é" "!" "BOOL" "true" (.bool true) ∧
      registry.ReadsBack "é" "!" "STRING" "\"\\\"\\n\"" (.text "\"\\\"\\n\"") ∧
      registry.ReadsBack "é" "!" "INT" "-9223372036854775808" (.int Int64.minValue) := by
  obtain ⟨registry, built, -⟩ : ∃ registry,
      ofRules [RuleDef.ofKind "word" (.literal "é")] = .ok registry ∧ True :=
    exists_ok_of_any (by decide +kernel)
  obtain ⟨bools, texts, ints⟩ := readNamed_shown built (by decide) "é" "!"
  have text : (Value.text "\"\n").shown = "\"\\\"\\n\"" := by cbv
  have int : (Value.int Int64.minValue).shown = "-9223372036854775808" := by cbv
  exact ⟨registry, built, bools true, text ▸ texts "\"\n",
    int ▸ ints (by rintro c ⟨rfl⟩; decide) Int64.minValue⟩

end Registry

end RuleGrammar
