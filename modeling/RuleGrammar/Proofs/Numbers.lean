import RuleGrammar.Proofs.BaseType.NumeralValue
import RuleGrammar.Proofs.BaseType.Reading

/-!
Owns what the number types read and how they relate to each other.

Contract: the strict floats are the floats with a point or an exponent, and a number is a strict float
where there is one and an integer elsewhere (`Registry.readNamed_number`). Where an integer is read, what
a float takes is at least as long, and it has a value exactly if it has no digit of another script
(`Registry.readNamed_float_of_int`).
-/

namespace RuleGrammar

/-! ## Floats with and without a scale -/

namespace Numeral

variable {text matched : List Char} {value : Value}

/-- Both kinds of float convert the same text. -/
theorem takeValue_strictFloat (text : List Char) :
    takeValue strictFloat .float text =
      if (scan text).1.isScaled then takeValue float .float text else none := by
  simp only [takeValue, strictFloat, float]
  cases (scan text).1.hasDigits <;> cases (scan text).1.isScaled <;> rfl

/-- A float takes the number at the beginning of the text. -/
theorem eq_text_of_takeValue_float (taken : takeValue float .float text = some (value, matched)) :
    matched = (scan text).1.text := by
  obtain ⟨rest, scanned, -⟩ := takeValue_eq_some_iff.mp taken
  rw [float] at scanned
  split_ifs at scanned
  cases scanned
  rfl

/-- What an integer takes is the beginning of what a float takes. -/
theorem exists_text_of_int {rest : List Char} (taken : int text = some (matched, rest)) :
    (scan text).1.hasDigits = true ∧ ∃ more, (scan text).1.text = matched ++ more := by
  rw [int] at taken
  split_ifs at taken with digit
  cases taken
  generalize split : takeSign text = signed at digit
  have both : (fun c => decide (Decimal.isDigit c = true ∧ Text.isDecimalDigit c = true)) =
      Decimal.isDigit := by
    funext c
    cases digit : Decimal.isDigit c
    · rfl
    · rw [isDecimalDigit_of_isDigit digit]
      rfl
  obtain ⟨more, longer⟩ : signed.2.takeWhile Decimal.isDigit <+:
      signed.2.takeWhile Text.isDecimalDigit := by
    rw [← both, ← List.takeWhile_takeWhile]
    exact List.takeWhile_prefix _
  have whole : (scan text).1.whole = signed.2.takeWhile Text.isDecimalDigit := by rw [← split]; rfl
  have sign : (scan text).1.sign = signed.1 := by rw [← split]; rfl
  refine ⟨?_, more ++ ((scan text).1.fraction ++ (scan text).1.exponent), ?_⟩
  · obtain ⟨c, first, digit⟩ := (Option.any_eq_true ..).mp digit
    rw [hasDigits, whole, isEmpty_takeWhile, first, Option.any_some, isDecimalDigit_of_isDigit digit]
    rfl
  · simp only [Numeral.text, whole, sign, ← longer, List.append_assoc]

/-- Where an integer is read, a float takes at least as much, and has a value if its digits are ASCII
digits. -/
theorem takeValue_float_of_int {n : Value} (taken : takeValue int .int text = some (n, matched)) :
    ((takeValue float .float text).isSome ↔ DigitsAscii (scan text).1.text) ∧
      Text.byteLength matched ≤ Text.byteLength (scan text).1.text := by
  obtain ⟨rest, scanned, -⟩ := takeValue_eq_some_iff.mp taken
  obtain ⟨digits, more, longer⟩ := exists_text_of_int scanned
  rw [← (wellFormed_scan text).isSome_readFloat?_iff digits, takeValue, float, if_pos digits]
  refine ⟨?_, ?_⟩
  · simp [ValueKind.convert]
  · rw [longer, Text.byteLength_append]
    exact Nat.le_add_right ..

end Numeral

/-- The text under what a pass took. -/
theorem Match.text_succeed {id : RuleId} {text matched behind : List Char} {start : Nat}
    {payload : Payload (Match RuleId)} (found : Text.suffixAt text start = some (matched ++ behind)) :
    (Match.succeed id ⟨start, start + Text.byteLength matched⟩ payload).text text = matched := by
  simp [Match.text, Match.succeed, Text.slice, Span.length, found, Text.prefixAt_append]

/-- A strict float succeeds where a float does with a point or an exponent, and then reads the same. -/
theorem readScanned_strictFloat (id id' : RuleId) (text : List Char) (start : Nat) :
    let f := readScanned Numeral.float .float id text start
    let s := readScanned Numeral.strictFloat .float id' text start
    (s.success = true ↔
      f.success = true ∧ ∃ c ∈ f.text text, c = '.' ∨ c = 'e' ∨ c = 'E') ∧
    (s.success = true → s.span = f.span ∧ s.payload = f.payload) := by
  intro f s
  cases found : (Text.suffixAt text start).bind (takeValue Numeral.float .float) with
  | none =>
      have missed : (Text.suffixAt text start).bind (takeValue Numeral.strictFloat .float) = none := by
        simp only [Option.bind_eq_none_iff] at found ⊢
        intro rest here
        rw [Numeral.takeValue_strictFloat, found rest here, ite_self]
      have fails : f = .fail id start := readScanned_of_missed found
      have fails' : s = .fail id' start := readScanned_of_missed missed
      rw [fails, fails']
      exact ⟨by simp [Match.fail], nofun⟩
  | some read =>
      obtain ⟨rest, here, taken⟩ := Option.bind_eq_some_iff.mp found
      obtain ⟨value, matched⟩ := read
      have succeeds : f = _ := readScanned_of_takeValue here taken
      have strictly := Numeral.takeValue_strictFloat rest
      obtain rfl := Numeral.eq_text_of_takeValue_float taken
      have covers : f.text text = (Numeral.scan rest).1.text := by
        rw [succeeds]
        exact Match.text_succeed (here.trans (congrArg some (Numeral.scan_append rest).symm))
      rw [covers, (Numeral.wellFormed_scan rest).exists_mem_text_iff, succeeds]
      by_cases scaled : (Numeral.scan rest).1.isScaled = true
      · rw [if_pos scaled, taken] at strictly
        have same : s = _ := readScanned_of_takeValue here strictly
        rw [same]
        exact ⟨by simp [Match.succeed, scaled], fun _ => ⟨rfl, rfl⟩⟩
      · rw [if_neg scaled] at strictly
        have fails : s = .fail id' start :=
          readScanned_of_missed (by rw [here, Option.bind_some, strictly])
        rw [fails]
        exact ⟨by simp [Match.fail, scaled], nofun⟩

/-! ## Numbers of a grammar -/

namespace Registry

variable {rules : List RuleDef} {registry : Registry}

/-- Where anything is read, the strict floats are the floats with a point or an exponent, with the same
span and value, and a number is the strict float, or the integer where there is no strict float. -/
theorem readNamed_number (built : ofRules rules = .ok registry) (input : String) (start : Nat) :
    (registry.readRule input start registry.skip = none ∧
      ∀ name ∈ ["FLOAT", "STRICTFLOAT", "INT", "NUMBER"],
        registry.readNamed input start name = .ok none) ∨
    ∃ f s i n, registry.readNamed input start "FLOAT" = .ok (some f) ∧
      registry.readNamed input start "STRICTFLOAT" = .ok (some s) ∧
      registry.readNamed input start "INT" = .ok (some i) ∧
      registry.readNamed input start "NUMBER" = .ok (some n) ∧
      (s.success = true ↔
        f.success = true ∧ ∃ c ∈ f.text input.toList, c = '.' ∨ c = 'e' ∨ c = 'E') ∧
      (s.success = true → s.span = f.span ∧ s.payload = f.payload ∧ n = s) ∧
      (s.success = false → (n.success = true ↔ i.success = true) ∧ (i.success = true → n = i)) := by
  obtain ⟨floatId, floats⟩ := exists_scans built .float rfl
  obtain ⟨strictId, stricts⟩ := exists_scans built .strictFloat rfl
  obtain ⟨intId, ints⟩ := exists_scans built .int rfl
  obtain ⟨numberId, tries⟩ := exists_tries_number built
  have float := floats.readNamed_eq input start
  have strict := stricts.readNamed_eq input start
  have int := ints.readNamed_eq input start
  have number := tries.readNamed_eq (.cons stricts.named (.cons ints.named .nil)) input start
  rw [readChoice_cons_eq, readChoice_cons_eq, reader, reader, stricts.reads, ints.reads] at number
  cases skips : registry.readRule input start registry.skip with
  | none =>
      rw [skips] at float strict int number
      exact .inl ⟨rfl, by simpa using ⟨float, strict, int, number⟩⟩
  | some skipped =>
      rw [skips] at float strict int number
      simp only [Option.map_some, Option.bind_some] at float strict int number
      obtain ⟨scaled, same⟩ := readScanned_strictFloat floatId strictId input.toList skipped.stop
      generalize readScanned Numeral.float .float floatId input.toList skipped.stop = f
        at float scaled same
      generalize readScanned Numeral.strictFloat .float strictId input.toList skipped.stop = s
        at strict scaled same number
      generalize readScanned Numeral.int .int intId input.toList skipped.stop = i at int number
      refine .inr ⟨f, s, i, if s.success then s else if i.success then i else .fail numberId start,
        float, strict, int, ?_, scaled, ?_, ?_⟩
      · refine number.trans ?_
        split_ifs <;> rfl
      · intro succeeds
        exact ⟨(same succeeds).1, (same succeeds).2, if_pos succeeds⟩
      · intro fails
        rw [if_neg (by simp [fails])]
        cases found : i.success
        · exact ⟨by simp [Match.fail], nofun⟩
        · exact ⟨by simp [found], fun _ => rfl⟩

/-- A point without digits behind it and an exponent are in the match, a sign behind them is not. -/
theorem readNamed_number_twelve :
    ∃ registry f s n, ofRules markedWords = .ok registry ∧
      registry.readNamed " 12.e5+" 0 "FLOAT" = .ok (some f) ∧
      registry.readNamed " 12.e5+" 0 "STRICTFLOAT" = .ok (some s) ∧
      registry.readNamed " 12.e5+" 0 "NUMBER" = .ok (some n) ∧
      s.success = true ∧ s.span = ⟨1, 6⟩ ∧ s.payload = f.payload ∧ n = s := by
  obtain ⟨registry, built, reads⟩ := exists_reads_markedWords
  obtain ⟨id, scanned⟩ := reads .strictFloat rfl
  rcases readNamed_number built " 12.e5+" 0 with
    ⟨-, missed⟩ | ⟨f, s, i, n, float, strict, -, number, -, same, -⟩
  · cases (missed "STRICTFLOAT" (by simp)).symm.trans (scanned " 12.e5+" 0)
  · obtain rfl := Option.some.inj (Except.ok.inj (strict.symm.trans (scanned " 12.e5+" 0)))
    obtain ⟨-, payload, chosen⟩ := same rfl
    exact ⟨registry, f, _, n, built, float, strict, number, rfl, rfl, payload, chosen⟩

/-- Where an integer is read, a float takes at least as much behind the same skippable text. It has a
value if and only if no digit of another script is in what it takes, for these count as digits of a float
but have no value in one. -/
theorem readNamed_float_of_int (built : ofRules rules = .ok registry) {input : String} {start : Nat}
    {i : Match RuleId} (read : registry.readNamed input start "INT" = .ok (some i))
    (succeeds : i.success = true) :
    ∃ f text, registry.readNamed input start "FLOAT" = .ok (some f) ∧
      Text.suffixAt input.toList i.start = some text ∧
      (f.success = true ↔ DigitsAscii (Numeral.scan text).1.text) ∧
      (f.success = true → f.start = i.start ∧ i.stop ≤ f.stop) := by
  obtain ⟨floatId, floats⟩ := exists_scans built .float rfl
  obtain ⟨intId, ints⟩ := exists_scans built .int rfl
  have float := floats.readNamed_eq input start
  have int := read.symm.trans (ints.readNamed_eq input start)
  rw [Except.ok.injEq, eq_comm, Option.map_eq_some_iff] at int
  obtain ⟨skipped, skips, rfl⟩ := int
  rw [skips, Option.map_some] at float
  cases found : (Text.suffixAt input.toList skipped.stop).bind (takeValue Numeral.int .int) with
  | none =>
      rw [readScanned_of_missed found] at succeeds
      cases succeeds
  | some read =>
      obtain ⟨rest, here, taken⟩ := Option.bind_eq_some_iff.mp found
      obtain ⟨value, matched⟩ := read
      obtain ⟨converts, longer⟩ := Numeral.takeValue_float_of_int taken
      rw [readScanned_of_takeValue here taken]
      refine ⟨_, rest, float, here, (success_readScanned_iff here).trans converts, fun success => ?_⟩
      obtain ⟨⟨value', matched'⟩, taken'⟩ :=
        Option.isSome_iff_exists.mp ((success_readScanned_iff here).mp success)
      rw [readScanned_of_takeValue here taken']
      obtain rfl := Numeral.eq_text_of_takeValue_float taken'
      exact ⟨rfl, Nat.add_le_add_left longer _⟩

/-- A digit of another script behind an integer makes a float of it that has no value. -/
theorem readNamed_float_arabicDigit :
    ∃ registry i f, ofRules markedWords = .ok registry ∧
      registry.readNamed "1٣" 0 "INT" = .ok (some i) ∧ i.success = true ∧ i.span = ⟨0, 1⟩ ∧
      registry.readNamed "1٣" 0 "FLOAT" = .ok (some f) ∧ f.success = false := by
  obtain ⟨registry, built, reads⟩ := exists_reads_markedWords
  obtain ⟨intId, int⟩ := reads .int rfl
  obtain ⟨floatId, float⟩ := reads .float rfl
  exact ⟨registry, _, _, built, int "1٣" 0, rfl, rfl, float "1٣" 0, rfl⟩

/-- Behind three digits of its own, a float takes a point and an exponent with other digits. -/
theorem readNamed_float_of_int_thousand :
    ∃ registry i f, ofRules markedWords = .ok registry ∧
      registry.readNamed " -100.25E2" 0 "INT" = .ok (some i) ∧ i.success = true ∧ i.stop = 5 ∧
      registry.readNamed " -100.25E2" 0 "FLOAT" = .ok (some f) ∧ f.success = true ∧ f.start = 1 ∧
      5 ≤ f.stop := by
  obtain ⟨registry, built, reads⟩ := exists_reads_markedWords
  obtain ⟨id, int⟩ := reads .int rfl
  obtain ⟨f, text, float, here, converts, covers⟩ :=
    readNamed_float_of_int built (int " -100.25E2" 0) rfl
  obtain rfl : "-100.25E2".toList = text := Option.some.inj here
  have value : f.success = true := converts.mpr (by decide)
  obtain ⟨starts, longer⟩ := covers value
  exact ⟨registry, _, f, built, int " -100.25E2" 0, rfl, rfl, float, value, starts, longer⟩

end Registry

end RuleGrammar
