import RuleGrammar.Proofs.Regex.Closing
import RuleGrammar.Regex.Bracket

/-!
Owns what the readers of bracketed classes give when a parenthesis stands behind the text.

Contract: a class that is closed by its bracket is read to that bracket, whatever stands behind it. To
look ahead at the next sign makes no difference, since a parenthesis is none of the signs looked for.
-/

namespace RuleGrammar.Regex

variable {commented : Prop} {verbose : Bool} {properties : PropertyTable} {flags : Flags}
  {text text' : List Char}

/-! ## Named classes -/

/-- Whether a caret comes first, and the text behind it. -/
def readCaret (verbose : Bool) : List Char → Bool × List Char
  | '^' :: rest => (true, skipSpace verbose rest)
  | text => (false, text)

/-- The class of the name up to the next colon, if a bracket closes it there. -/
def namedClass (flags : Flags) (negated : Bool) (named : List Char) : Option (CharSet × List Char) :=
  match named.dropWhile (· != ':') with
  | ':' :: ']' :: left =>
      (asciiClass? (String.ofList (named.takeWhile (· != ':')))).map fun set =>
        let folded := flags.foldCase set
        (if negated then folded.compl else folded, left)
  | _ => none

theorem readCaret_cons_ne {c : Char} (other : c ≠ '^') (rest : List Char) :
    readCaret verbose (c :: rest) = (false, c :: rest) := by
  simp only [readCaret, List.cons.injEq, other, false_and, false_imp_iff, implies_true]

theorem readCaret_closes (verbose : Bool) (closes : Closes commented text text') :
    SameRead commented (readCaret verbose text) (readCaret verbose text') := by
  cases text with
  | nil => rcases closes.nil_cases with rfl | rfl <;> exact .of false closes
  | cons c rest =>
      obtain ⟨rest', rfl, rests⟩ := closes.exists_cons
      by_cases caret : c = '^'
      · subst caret
        exact .of true (skipSpace_closes verbose rests)
      · rw [readCaret_cons_ne caret, readCaret_cons_ne caret]
        exact .of false closes

theorem readAsciiClass_colon (rest : List Char) :
    readAsciiClass flags (':' :: rest) =
      namedClass flags (readCaret false rest).1 (readCaret false rest).2 := by
  cases rest with
  | nil => rfl
  | cons c named =>
      by_cases caret : c = '^'
      · subst caret
        rfl
      · simp only [readAsciiClass, readCaret, List.cons.injEq, caret, false_and, false_imp_iff,
          implies_true]
        rfl

theorem namedClass_closes (negated : Bool) (closes : Closes commented text text') :
    Option.Rel (SameRead commented) (namedClass flags negated text) (namedClass flags negated text') := by
  rw [namedClass, namedClass]
  cases name : text.dropWhile (· != ':') with
  | nil => rcases closes.dropWhile_eq_nil_cases name with name' | name' <;> rw [name'] <;> exact .none
  | cons c left =>
      have more : text.dropWhile (· != ':') ≠ [] := name ▸ List.cons_ne_nil c left
      have behind := closes.dropWhile _ fun none => absurd none more
      rw [closes.takeWhile_eq more]
      rw [name] at behind
      obtain ⟨left', name', lefts⟩ := behind.exists_cons
      rw [name']
      by_cases colon : c = ':'
      · subst colon
        cases left with
        | nil => rcases lefts.nil_cases with rfl | rfl <;> exact .none
        | cons c more =>
            obtain ⟨more', rfl, mores⟩ := lefts.exists_cons
            by_cases bracket : c = ']'
            · subst bracket
              show Option.Rel (SameRead commented) (Option.map _ _) (Option.map _ _)
              cases asciiClass? (String.ofList (text.takeWhile (· != ':'))) with
              | none => exact .none
              | some set => exact .some (SameRead.of _ mores)
            · simp only [List.cons.injEq, bracket, false_and, and_false, false_imp_iff, implies_true]
              exact .none
      · simp only [List.cons.injEq, colon, false_and, false_imp_iff, implies_true]
        exact .none

/-- Whether there is a named class does not depend on the parenthesis. -/
theorem readAsciiClass_closes (closes : Closes commented text text') :
    Option.Rel (SameRead commented) (readAsciiClass flags text) (readAsciiClass flags text') := by
  cases text with
  | nil => rcases closes.nil_cases with rfl | rfl <;> exact .none
  | cons c rest =>
      obtain ⟨rest', rfl, rests⟩ := closes.exists_cons
      by_cases colon : c = ':'
      · subst colon
        have caret := readCaret_closes false rests
        rw [readAsciiClass_colon, readAsciiClass_colon, ← caret.value]
        exact namedClass_closes _ caret.rest
      · simp only [readAsciiClass, List.cons.injEq, colon, false_and, false_imp_iff, implies_true]
        exact .none

/-! ## Items of a class -/

theorem head?_dropWhile {test : Char → Bool} {c : Char} {left : List Char} (fails : test c = false)
    (dropped : text.dropWhile test = left) (first : text.head? = some c) : left.head? = some c := by
  cases text with
  | nil => cases first
  | cons d rest =>
      obtain rfl : d = c := Option.some.inj first
      rw [List.dropWhile_cons, fails, if_neg Bool.false_ne_true] at dropped
      rw [← dropped]
      rfl

/-- The parenthesis can only be seen where no other sign but that of a comment or a blank was. -/
theorem peekAfter_eq_some_iff (closes : Closes commented text text') {c : Char} (other : c ≠ ')')
    (sign : c ≠ '#') (ink : Text.isBlank c = false) :
    peekAfter verbose text = some c ↔ peekAfter verbose text' = some c := by
  have parenthesis : some ')' ≠ some c := fun same => other (Option.some.inj same).symm
  cases verbose with
  | false =>
      show text.head? = some c ↔ text'.head? = some c
      cases text with
      | nil => rcases closes.nil_cases with rfl | rfl <;> simp [other.symm]
      | cons d rest =>
          obtain ⟨rest', rfl, _⟩ := closes.exists_cons
          rfl
  | true =>
      have inked := closes.dropWhile Text.isBlank fun _ => rfl
      simp only [peekAfter, if_true]
      cases blanks : text.dropWhile Text.isBlank with
      | nil =>
          rw [blanks] at inked
          have unseen {text : List Char} (blanks : text.dropWhile Text.isBlank = []) :
              text.head? ≠ some c := fun first => nomatch head?_dropWhile ink blanks first
          refine iff_of_false (unseen blanks) ?_
          rcases inked.nil_cases with blanks' | blanks' <;> rw [blanks']
          · exact unseen blanks'
          · exact parenthesis
      | cons d more =>
          rw [blanks] at inked
          obtain ⟨more', blanks', mores⟩ := inked.exists_cons
          rw [blanks']
          by_cases comment : d = '#'
          · subst comment
            have hidden {text more : List Char} (blanks : text.dropWhile Text.isBlank = '#' :: more) :
                text.head? ≠ some c := fun first =>
              sign (Option.some.inj (head?_dropWhile ink blanks first)).symm
            have inked := mores.dropWhile Text.isBlank fun _ => rfl
            simp only
            cases behind : more.dropWhile Text.isBlank with
            | cons e _ =>
                rw [behind] at inked
                obtain ⟨_, behind', _⟩ := inked.exists_cons
                rw [behind']
            | nil =>
                rw [behind] at inked
                refine iff_of_false (hidden blanks) ?_
                rcases inked.nil_cases with behind' | behind' <;> rw [behind']
                · exact hidden blanks'
                · exact parenthesis
          · simp only

theorem readSetPrimitive_closes (closes : Closes commented text text') :
    Survives (SameRead commented) (readSetPrimitive properties flags text)
      (readSetPrimitive properties flags text') := by
  cases text with
  | nil => exact .failed
  | cons c rest =>
      obtain ⟨rest', rfl, rests⟩ := closes.exists_cons
      by_cases backslash : c = '\\'
      · subst backslash
        exact readEscape_closes properties flags rests
      · simp only [readSetPrimitive]
        exact .found (.of _ rests)

theorem lone_closes (first : Primitive) (closes : Closes commented text text') :
    Survives (SameRead commented)
      (match first with
        | .char c => some (CharSet.single c, text)
        | .set set => some (set, text)
        | .look _ => none)
      (match first with
        | .char c => some (CharSet.single c, text')
        | .set set => some (set, text')
        | .look _ => none) := by
  cases first with
  | char c => exact .found (.of _ closes)
  | set set => exact .found (.of _ closes)
  | look _ => exact .failed

theorem readSetItem_closes (closes : Closes commented text text') :
    Survives (SameRead commented) (readSetItem properties flags text)
      (readSetItem properties flags text') := by
  refine (readSetPrimitive_closes closes).bind ?_
  rintro ⟨first, rest⟩ ⟨_, rest'⟩ ⟨rfl, rests⟩
  simp only
  have skipped := skipSpace_closes flags.verbose rests
  generalize skipSpace flags.verbose rest = left at skipped ⊢
  generalize skipSpace flags.verbose rest' = left' at skipped ⊢
  cases left with
  | nil => exact .failed
  | cons c more =>
      obtain ⟨more', rfl, mores⟩ := skipped.exists_cons
      have lone := lone_closes first skipped
      by_cases hyphen : c = '-'
      · subst hyphen
        simp only
        have next : (peekAfter flags.verbose more = some ']' ∨ peekAfter flags.verbose more = some '-') ↔
            (peekAfter flags.verbose more' = some ']' ∨ peekAfter flags.verbose more' = some '-') :=
          or_congr (peekAfter_eq_some_iff mores (by decide) (by decide) rfl)
            (peekAfter_eq_some_iff mores (by decide) (by decide) rfl)
        simp only [next]
        split_ifs
        · exact lone
        · have behind := skipSpace_closes flags.verbose mores
          generalize skipSpace flags.verbose more = left at behind ⊢
          generalize skipSpace flags.verbose more' = left' at behind ⊢
          cases left with
          | nil => exact .failed
          | cons c more =>
              obtain ⟨more', rfl, mores⟩ := behind.exists_cons
              refine (readSetPrimitive_closes behind).bind ?_
              rintro ⟨second, left⟩ ⟨_, left'⟩ ⟨rfl, lefts⟩
              cases first with
              | set _ | look _ => exact .failed
              | char a =>
                  cases second with
                  | set _ | look _ => exact .failed
                  | char b =>
                      simp only
                      split_ifs
                      · exact .found (.of _ lefts)
                      · exact .failed
      · simp only [List.cons.injEq, hyphen, false_and, false_imp_iff, implies_true]
        exact lone

theorem readLeadingHyphens_closes (verbose : Bool) {fuel fuel' : Nat} (bracket : OpenSet)
    (closes : Closes commented text text') (enough : text.length ≤ fuel) (enough' : text'.length ≤ fuel') :
    SameRead commented (readLeadingHyphens verbose fuel bracket text)
      (readLeadingHyphens verbose fuel' bracket text') := by
  refine Closes.skipInduction verbose (motive := fun fuel fuel' text text' => ∀ bracket,
    SameRead commented (readLeadingHyphens verbose fuel bracket text)
      (readLeadingHyphens verbose fuel' bracket text')) ?_ ?_ closes enough enough' bracket
  · intro fuel fuel' text' closes bracket
    rcases closes.nil_cases with rfl | rfl <;> cases fuel <;> cases fuel' <;> exact .of bracket closes
  · intro fuel fuel' c rest rest' closes further bracket
    by_cases hyphen : c = '-'
    · subst hyphen
      exact further _
    · simp only [readLeadingHyphens, List.cons.injEq, hyphen, false_and, false_imp_iff,
        implies_true]
      exact .of bracket closes

/-! ## Brackets -/

/-- Takes a bracket for plain where the class would be empty. Some text must be left. -/
def readFirstItem (verbose : Bool) (bracket : OpenSet) (text : List Char) :
    Option (OpenSet × List Char) :=
  match bracket.items, text with
  | _, [] => none
  | [], ']' :: rest =>
      match skipSpace verbose rest with
      | [] => none
      | rest => some (bracket.pushSet (.single ']'), rest)
  | _, rest => some (bracket, rest)

theorem readOpenSet_eq (text : List Char) :
    readOpenSet verbose text =
      let sign := readCaret verbose (skipSpace verbose text)
      let opened := readLeadingHyphens verbose sign.2.length ⟨sign.1, none, []⟩ sign.2
      readFirstItem verbose opened.1 opened.2 := by
  rw [readOpenSet]
  generalize skipSpace verbose text = behind
  cases behind with
  | nil => rfl
  | cons c rest =>
      by_cases caret : c = '^'
      · subst caret
        rfl
      · rw [readCaret_cons_ne caret]
        simp only [List.cons.injEq, caret, false_and, false_imp_iff, implies_true]
        rfl

theorem readFirstItem_closes (bracket : OpenSet) (closes : Closes commented text text') :
    Survives (SameRead commented) (readFirstItem verbose bracket text)
      (readFirstItem verbose bracket text') := by
  cases text with
  | nil => simp only [readFirstItem]; exact .failed
  | cons c rest =>
      obtain ⟨rest', rfl, rests⟩ := closes.exists_cons
      simp only [readFirstItem]
      cases bracket.items with
      | cons _ _ =>
          simp only
          exact .found (.of bracket closes)
      | nil =>
          by_cases plain : c = ']'
          · subst plain
            have behind := skipSpace_closes verbose rests
            simp only
            generalize skipSpace verbose rest = left at behind ⊢
            generalize skipSpace verbose rest' = left' at behind ⊢
            cases left with
            | nil => exact .failed
            | cons d left =>
                obtain ⟨left', rfl, _⟩ := behind.exists_cons
                exact .found (.of _ behind)
          · simp only [List.cons.injEq, plain, false_and, false_imp_iff, implies_true]
            exact .found (.of bracket closes)

theorem readOpenSet_closes (verbose : Bool) (closes : Closes commented text text') :
    Survives (SameRead commented) (readOpenSet verbose text) (readOpenSet verbose text') := by
  have sign := readCaret_closes verbose (skipSpace_closes verbose closes)
  rw [readOpenSet_eq, readOpenSet_eq]
  simp only
  rw [← sign.value]
  have opened := readLeadingHyphens_closes verbose
    ⟨(readCaret verbose (skipSpace verbose text)).1, none, []⟩ sign.rest (Nat.le_refl _)
    (Nat.le_refl _)
  rw [← opened.value]
  exact readFirstItem_closes _ opened.rest

theorem readSetBody_closes {fuel fuel' : Nat} (enough : fuel ≤ fuel') (bracket : OpenSet)
    (outer : List OpenSet) (closes : Closes commented text text') :
    Survives (SameRead commented) (readSetBody properties flags fuel bracket outer text)
      (readSetBody properties flags fuel' bracket outer text') := by
  induction fuel generalizing bracket outer text text' fuel' with
  | zero => exact .failed
  | succ fuel inductionHypothesis =>
      obtain ⟨fuel', rfl⟩ := Nat.exists_eq_succ_of_ne_zero (Nat.ne_zero_of_lt enough)
      have enough := Nat.le_of_succ_le_succ enough
      rw [readSetBody, readSetBody]
      have skipped := skipSpace_closes flags.verbose closes
      generalize skipSpace flags.verbose text = left at skipped ⊢
      generalize skipSpace flags.verbose text' = left' at skipped ⊢
      split
      case h_1 => exact .failed
      case h_2 rest =>
        obtain ⟨rest', rfl, rests⟩ := skipped.exists_cons
        have named : Option.Rel (SameRead commented) (readAsciiClass flags rest)
            (readAsciiClass flags rest') := readAsciiClass_closes rests
        simp only
        generalize readAsciiClass flags rest = found at named ⊢
        generalize readAsciiClass flags rest' = found' at named ⊢
        cases named with
        | @some read read' same =>
            obtain ⟨set, left⟩ := read
            obtain ⟨_, left'⟩ := read'
            obtain ⟨rfl, lefts⟩ := same
            simp only
            split_ifs
            · exact inductionHypothesis enough _ outer lefts
            · exact .failed
        | none =>
            have opened := readOpenSet_closes flags.verbose rests
            simp only
            generalize readOpenSet flags.verbose rest = found at opened ⊢
            generalize readOpenSet flags.verbose rest' = found' at opened ⊢
            cases opened with
            | failed => exact .failed
            | @found read read' same =>
                obtain ⟨inner, left⟩ := read
                obtain ⟨_, left'⟩ := read'
                obtain ⟨rfl, lefts⟩ := same
                exact inductionHypothesis enough inner _ lefts
      case h_3 rest =>
        obtain ⟨rest', rfl, rests⟩ := skipped.exists_cons
        simp only
        split_ifs
        · cases outer with
          | nil => exact .found (.of _ rests)
          | cons around outer => exact inductionHypothesis enough _ outer rests
        · exact .failed
      case h_4 rest | h_5 rest | h_6 rest =>
        obtain ⟨_, rfl, behind⟩ := skipped.exists_cons
        obtain ⟨rest', rfl, rests⟩ := behind.exists_cons
        exact inductionHypothesis enough _ outer rests
      case h_7 more bracket' closing inter diff symmDiff =>
        have item : Survives (SameRead commented) (readSetItem properties flags left)
            (readSetItem properties flags left') := readSetItem_closes skipped
        rcases found : readSetItem properties flags left with _ | ⟨set, rest⟩
        · exact .failed
        rw [found] at item
        obtain ⟨⟨_, rest'⟩, found', rfl, rests⟩ := item.exists_found
        simp only
        split
        case isFalse => exact .failed
        case isTrue admitted =>
          -- The parenthesis makes no other sign of what comes first.
          split
          case h_1 => exact (skipped.ne_nil more rfl).elim
          case h_2 => exact (skipped.ne_cons (by decide) bracket' _ rfl).elim
          case h_3 => exact (skipped.ne_cons (by decide) closing _ rfl).elim
          case h_4 => exact (skipped.ne_cons_cons (by decide) inter _ rfl).elim
          case h_5 => exact (skipped.ne_cons_cons (by decide) diff _ rfl).elim
          case h_6 => exact (skipped.ne_cons_cons (by decide) symmDiff _ rfl).elim
          case h_7 =>
            rw [found']
            simp only [admitted, if_true]
            exact inductionHypothesis enough _ outer rests

theorem readBracket_closes (closes : Closes commented text text') :
    Survives (SameRead commented) (readBracket properties flags text)
      (readBracket properties flags text') := by
  refine (readOpenSet_closes flags.verbose closes).bind ?_
  rintro ⟨bracket, rest⟩ ⟨_, rest'⟩ ⟨rfl, rests⟩
  exact readSetBody_closes (Nat.succ_le_succ rests.length_le) bracket [] rests

end RuleGrammar.Regex
