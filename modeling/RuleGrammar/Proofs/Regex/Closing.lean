import Mathlib.Tactic.SplitIfs
import RuleGrammar.Regex.Escape

/-!
Owns what the readers of a pattern's small parts give when a parenthesis stands behind the text.

Contract: a reader that reads a part of a text reads the same part with the parenthesis behind it, and the
parenthesis is left. Only a comment of verbose mode that runs to the end of the text hides it.
-/

namespace RuleGrammar.Regex

/-! ## Closed texts -/

/-- A text, and the same with a parenthesis behind it that a comment may have taken, if there is one. -/
inductive Closes (commented : Prop) : List Char → List Char → Prop where
  | closed (text : List Char) (comments : '#' ∈ text → commented) :
      Closes commented text (text ++ [')'])
  | hidden (text : List Char) (comment : commented) : Closes commented text text

variable {commented : Prop}

namespace Closes

variable {text text' rest rest' : List Char}

theorem length_le (closes : Closes commented text text') : text.length ≤ text'.length := by
  cases closes with
  | closed => exact (List.sublist_append_left text _).length_le
  | hidden => exact Nat.le_refl _

theorem nil_cases (closes : Closes commented [] text') : text' = [] ∨ text' = [')'] := by
  cases closes with
  | closed => exact .inr rfl
  | hidden => exact .inl rfl

theorem comment_of_nil (closes : Closes commented [] []) : commented := by
  cases closes with
  | hidden comment => exact comment

theorem exists_cons {c : Char} (closes : Closes commented (c :: rest) text') :
    ∃ rest', text' = c :: rest' ∧ Closes commented rest rest' := by
  cases closes with
  | closed comments =>
      exact ⟨rest ++ [')'], rfl, .closed rest fun member => comments (List.mem_cons_of_mem c member)⟩
  | hidden comment => exact ⟨rest, rfl, .hidden rest comment⟩

/-- What comes first does so in the text alone, if it is not the parenthesis. -/
theorem exists_append (start : List Char) (other : ')' ∉ start)
    (closes : Closes commented text (start ++ rest')) :
    ∃ rest, text = start ++ rest ∧ Closes commented rest rest' := by
  induction start generalizing text with
  | nil => exact ⟨text, rfl, closes⟩
  | cons c start inductionHypothesis =>
      cases text with
      | nil =>
          rcases closes.nil_cases with none' | parenthesis
          · cases none'
          · exact absurd (List.cons.inj parenthesis).1 (List.ne_of_not_mem_cons other).symm
      | cons d text =>
          obtain ⟨_, same, closes⟩ := closes.exists_cons
          obtain ⟨rfl, rfl⟩ := List.cons.inj same
          obtain ⟨rest, rfl, rests⟩ := inductionHypothesis (List.not_mem_of_not_mem_cons other) closes
          exact ⟨rest, rfl, rests⟩

theorem ne_nil (more : text = [] → False) (closes : Closes commented text text') :
    text' = [] → False := by
  rintro rfl
  exact more (List.length_eq_zero_iff.mp (Nat.le_zero.mp closes.length_le))

theorem ne_cons {c : Char} (other : c ≠ ')') (apart : ∀ rest, text = c :: rest → False)
    (closes : Closes commented text text') (rest' : List Char) : text' = c :: rest' → False := by
  rintro rfl
  obtain ⟨rest, rfl, _⟩ := closes.exists_append [c] (by simpa using other.symm)
  exact apart rest rfl

theorem ne_cons_cons {c d : Char} (other : ')' ∉ [c, d])
    (apart : ∀ rest, text = c :: d :: rest → False) (closes : Closes commented text text')
    (rest' : List Char) : text' = c :: d :: rest' → False := by
  rintro rfl
  obtain ⟨rest, rfl, _⟩ := closes.exists_append [c, d] other
  exact apart rest rfl

/-- What is left behind characters of one kind, if the parenthesis is not of that kind or is not reached. -/
theorem dropWhile (test : Char → Bool) (closes : Closes commented text text')
    (kept : text.dropWhile test = [] → test ')' = false) :
    Closes commented (text.dropWhile test) (text'.dropWhile test) := by
  cases closes with
  | hidden comment => exact .hidden _ comment
  | closed comments =>
      rw [List.dropWhile_append]
      split_ifs with none
      · rw [List.isEmpty_iff] at none
        rw [none, List.dropWhile_cons, kept none]
        exact .closed [] (by simp)
      · exact .closed _ fun member => comments ((List.dropWhile_sublist test).mem member)

theorem dropWhile_eq_nil_cases {test : Char → Bool} (closes : Closes commented text text')
    (none : text.dropWhile test = []) :
    text'.dropWhile test = [] ∨ text'.dropWhile test = [')'] := by
  cases closes with
  | hidden => exact .inl none
  | closed =>
      rw [List.dropWhile_append, none, List.isEmpty_nil, if_pos rfl, List.dropWhile_cons]
      split_ifs
      · exact .inl rfl
      · exact .inr rfl

theorem takeWhile_eq {test : Char → Bool} (closes : Closes commented text text')
    (more : text.dropWhile test ≠ []) : text'.takeWhile test = text.takeWhile test := by
  cases closes with
  | hidden => rfl
  | closed comments =>
      clear comments
      induction text with
      | nil => exact absurd rfl more
      | cons c text inductionHypothesis =>
          rw [List.dropWhile_cons] at more
          rw [List.cons_append, List.takeWhile_cons, List.takeWhile_cons]
          split_ifs at more ⊢ with passes
          · rw [inductionHypothesis more]
          · rfl

end Closes

/-! ## Readers that carry on -/

/-- Where the first of two results is there, so is the second, and they are related. -/
inductive Survives {α β : Type} (related : α → β → Prop) : Option α → Option β → Prop where
  | failed {result : Option β} : Survives related none result
  | found {a : α} {b : β} : related a b → Survives related (some a) (some b)

namespace Survives

variable {α β γ δ : Type} {related : α → β → Prop} {related' : γ → δ → Prop}

theorem exists_found {a : α} {result : Option β} (survives : Survives related (some a) result) :
    ∃ b, result = some b ∧ related a b := by
  cases survives with
  | found here => exact ⟨_, rfl, here⟩

theorem holds {a : α} {b : β} (survives : Survives related (some a) (some b)) : related a b := by
  cases survives with
  | found here => exact here

theorem bind {result : Option α} {result' : Option β} {next : α → Option γ} {next' : β → Option δ}
    (survives : Survives related result result')
    (follows : ∀ a b, related a b → Survives related' (next a) (next' b)) :
    Survives related' (result >>= next) (result' >>= next') := by
  cases survives with
  | failed => exact .failed
  | found here => exact follows _ _ here

/-- A step that does not depend on the texts. -/
theorem bindSame {result : Option α} {next : α → Option γ} {next' : α → Option δ}
    (follows : ∀ a, Survives related' (next a) (next' a)) :
    Survives related' (result >>= next) (result >>= next') := by
  cases result with
  | none => exact .failed
  | some a => exact follows a

theorem map {result : Option α} {result' : Option β} {f : α → γ} {g : β → δ}
    (survives : Survives related result result') (carries : ∀ a b, related a b → related' (f a) (g b)) :
    Survives related' (result.map f) (result'.map g) := by
  cases survives with
  | failed => exact .failed
  | found here => exact .found (carries _ _ here)

theorem filter {result : Option α} {result' : Option β} {test : α → Bool} {test' : β → Bool}
    (survives : Survives related result result') (agree : ∀ a b, related a b → test a = test' b) :
    Survives related (result.filter test) (result'.filter test') := by
  cases survives with
  | failed => exact .failed
  | @found a b here =>
      rw [Option.filter_some, Option.filter_some, agree a b here]
      split_ifs
      · exact .found here
      · exact .failed

end Survives

/-- Two readers have read the same, and one has the text left that closes the other's. -/
structure SameRead (commented : Prop) {α : Type} (read read' : α × List Char) : Prop where
  value : read.1 = read'.1
  rest : Closes commented read.2 read'.2

theorem SameRead.of {α : Type} (value : α) {rest rest' : List Char}
    (closes : Closes commented rest rest') : SameRead commented (value, rest) (value, rest') :=
  ⟨rfl, closes⟩

theorem SameRead.mapValue {α β : Type} {read read' : α × List Char} (f : α → β)
    (same : SameRead commented read read') :
    SameRead commented (f read.1, read.2) (f read'.1, read'.2) :=
  ⟨congrArg f same.value, same.rest⟩

variable {verbose : Bool} {text text' : List Char}

/-! ## Blanks and comments -/

theorem dropSpace_closes {inComment : Bool} (inside : inComment = true → commented)
    (closes : Closes commented text text') :
    Closes commented (dropSpace inComment text) (dropSpace inComment text') := by
  cases closes with
  | hidden comment => exact .hidden _ comment
  | closed comments =>
      induction text generalizing inComment with
      | nil =>
          cases inComment with
          | false => exact .closed [] (by simp)
          | true => exact .hidden [] (inside rfl)
      | cons c text inductionHypothesis =>
          have others : '#' ∈ text → commented := fun member =>
            comments (List.mem_cons_of_mem c member)
          cases inComment with
          | true => exact inductionHypothesis (fun _ => inside rfl) others
          | false =>
              simp only [List.cons_append, dropSpace]
              split_ifs with blank sign
              · exact inductionHypothesis nofun others
              · exact inductionHypothesis (fun _ => comments (sign ▸ List.mem_cons_self)) others
              · exact .closed (c :: text) comments

theorem skipSpace_nil (verbose : Bool) : skipSpace verbose [] = [] := by
  cases verbose <;> rfl

theorem skipSpace_closes (verbose : Bool) (closes : Closes commented text text') :
    Closes commented (skipSpace verbose text) (skipSpace verbose text') := by
  cases verbose with
  | true => exact dropSpace_closes nofun closes
  | false => exact closes

theorem length_dropSpace_le (inComment : Bool) (text : List Char) :
    (dropSpace inComment text).length ≤ text.length := by
  induction text generalizing inComment with
  | nil => cases inComment <;> exact Nat.le_refl 0
  | cons c text inductionHypothesis =>
      cases inComment with
      | true => exact Nat.le_trans (inductionHypothesis _) (Nat.le_succ _)
      | false =>
          rw [dropSpace]
          split_ifs
          · exact Nat.le_trans (inductionHypothesis false) (Nat.le_succ _)
          · exact Nat.le_trans (inductionHypothesis true) (Nat.le_succ _)
          · exact Nat.le_refl _

/-- Fuel that is enough for a text is enough for what is left of it behind a character. -/
theorem length_skipSpace_le {c : Char} {rest : List Char} {fuel : Nat}
    (enough : (c :: rest).length ≤ fuel + 1) : (skipSpace verbose rest).length ≤ fuel := by
  have enough : rest.length ≤ fuel := Nat.le_of_succ_le_succ enough
  cases verbose with
  | true => exact Nat.le_trans (length_dropSpace_le false rest) enough
  | false => exact enough

/-- What readers give that go on behind the blanks after each character, with fuel for the whole text. -/
theorem Closes.skipInduction (verbose : Bool)
    {motive : Nat → Nat → List Char → List Char → Prop}
    (ended : ∀ fuel fuel' text', Closes commented [] text' → motive fuel fuel' [] text')
    (step : ∀ fuel fuel' c rest rest', Closes commented (c :: rest) (c :: rest') →
      motive fuel fuel' (skipSpace verbose rest) (skipSpace verbose rest') →
      motive (fuel + 1) (fuel' + 1) (c :: rest) (c :: rest'))
    {fuel fuel' : Nat} (closes : Closes commented text text') (enough : text.length ≤ fuel)
    (enough' : text'.length ≤ fuel') : motive fuel fuel' text text' := by
  induction fuel generalizing text text' fuel' with
  | zero =>
      obtain rfl := List.length_eq_zero_iff.mp (Nat.le_zero.mp enough)
      exact ended 0 fuel' text' closes
  | succ fuel inductionHypothesis =>
      cases text with
      | nil => exact ended (fuel + 1) fuel' text' closes
      | cons c rest =>
          obtain ⟨rest', rfl, rests⟩ := closes.exists_cons
          obtain ⟨fuel', rfl⟩ := Nat.exists_eq_succ_of_ne_zero (Nat.ne_zero_of_lt enough')
          apply step fuel fuel' c rest rest' closes
          exact inductionHypothesis (skipSpace_closes verbose rests) (length_skipSpace_le enough)
            (length_skipSpace_le enough')

theorem skipBlanks_closes {fuel fuel' : Nat} (closes : Closes commented text text')
    (enough : text.length ≤ fuel) (enough' : text'.length ≤ fuel') :
    Closes commented (skipBlanks verbose fuel text) (skipBlanks verbose fuel' text') := by
  refine Closes.skipInduction verbose (motive := fun fuel fuel' text text' =>
    Closes commented (skipBlanks verbose fuel text) (skipBlanks verbose fuel' text')) ?_ ?_
    closes enough enough'
  · intro fuel fuel' text' closes
    rcases closes.nil_cases with rfl | rfl <;> cases fuel <;> cases fuel' <;> exact closes
  · intro fuel fuel' c rest rest' closes further
    rw [skipBlanks, skipBlanks]
    split_ifs
    · exact further
    · exact closes

/-! ## Counts -/

theorem readDigits_closes {fuel fuel' : Nat} (closes : Closes commented text text')
    (enough : text.length ≤ fuel) (enough' : text'.length ≤ fuel') :
    SameRead commented (readDigits verbose fuel text) (readDigits verbose fuel' text') := by
  refine Closes.skipInduction verbose (motive := fun fuel fuel' text text' =>
    SameRead commented (readDigits verbose fuel text) (readDigits verbose fuel' text')) ?_ ?_
    closes enough enough'
  · intro fuel fuel' text' closes
    rcases closes.nil_cases with rfl | rfl <;> cases fuel <;> cases fuel' <;> exact .of [] closes
  · intro fuel fuel' c rest rest' closes further
    rw [readDigits, readDigits]
    cases Text.digitValue? 10 c with
    | none => exact .of [] closes
    | some digit => exact further.mapValue (digit :: ·)

theorem readCount_closes (closes : Closes commented text text') :
    Survives (SameRead commented) (readCount verbose text) (readCount verbose text') := by
  have shorter : ∀ text : List Char, (text.dropWhile Text.isBlank).length ≤ text.length :=
    fun text => (List.dropWhile_sublist _).length_le
  have digits : SameRead commented
      (readDigits verbose text.length (text.dropWhile Text.isBlank))
      (readDigits verbose text'.length (text'.dropWhile Text.isBlank)) :=
    readDigits_closes (closes.dropWhile _ fun _ => rfl) (shorter text) (shorter text')
  simp only [readCount]
  rw [← digits.value]
  split_ifs
  · exact .failed
  · exact .found (.of _ (skipBlanks_closes digits.rest (Nat.le_refl _) (Nat.le_refl _)))

/-! ## Characters by number -/

theorem readHexFixed_closes (closes : Closes commented text text') (count value : Nat) :
    Survives (SameRead commented) (readHexFixed verbose count value text)
      (readHexFixed verbose count value text') := by
  induction count generalizing value text text' with
  | zero =>
      rw [readHexFixed, readHexFixed]
      cases charOfNat? value with
      | none => exact .failed
      | some c => exact .found (.of c closes)
  | succ count inductionHypothesis =>
      cases text with
      | nil => exact .failed
      | cons c rest =>
          obtain ⟨rest', rfl, rests⟩ := closes.exists_cons
          exact .bindSame fun digit => inductionHypothesis (skipSpace_closes verbose rests) _

theorem readHexBraced_closes {fuel fuel' : Nat} (enough : fuel ≤ fuel') (value : Option Nat)
    (closes : Closes commented text text') :
    Survives (SameRead commented) (readHexBraced verbose fuel value text)
      (readHexBraced verbose fuel' value text') := by
  induction fuel generalizing fuel' value text text' with
  | zero => exact .failed
  | succ fuel inductionHypothesis =>
      obtain ⟨fuel', rfl⟩ := Nat.exists_eq_succ_of_ne_zero (Nat.ne_zero_of_lt enough)
      rw [readHexBraced, readHexBraced]
      have skipped := skipSpace_closes verbose closes
      generalize skipSpace verbose text = left at skipped ⊢
      generalize skipSpace verbose text' = left' at skipped ⊢
      cases left with
      | nil => exact .failed
      | cons c rest =>
          obtain ⟨rest', rfl, rests⟩ := skipped.exists_cons
          by_cases brace : c = '\x7d'
          · subst brace
            exact .bindSame fun _ => .bindSame fun c =>
              .found (.of c (skipSpace_closes verbose rests))
          · simp only
            exact .bindSame fun digit =>
              inductionHypothesis (Nat.le_of_succ_le_succ enough) _ rests

theorem readHex_closes (count : Nat) (test : Char → Bool) (closes : Closes commented text text') :
    Survives (SameRead commented) (readHex verbose count test text)
      (readHex verbose count test text') := by
  rw [readHex, readHex]
  have skipped := skipSpace_closes verbose closes
  generalize skipSpace verbose text = left at skipped ⊢
  generalize skipSpace verbose text' = left' at skipped ⊢
  have fixed : Survives (SameRead commented)
      ((readHexFixed verbose count 0 left).filter (test ∘ Prod.fst))
      ((readHexFixed verbose count 0 left').filter (test ∘ Prod.fst)) :=
    (readHexFixed_closes skipped count 0).filter fun _ _ same => congrArg test same.value
  cases left with
  | nil => rcases skipped.nil_cases with rfl | rfl <;> exact fixed
  | cons c rest =>
      obtain ⟨rest', rfl, rests⟩ := skipped.exists_cons
      by_cases brace : c = '\x7b'
      · subst brace
        exact readHexBraced_closes (Nat.succ_le_succ rests.length_le) none rests
      · simp only [List.cons.injEq, brace, false_and, false_imp_iff, implies_true]
        exact fixed

/-! ## Escapes -/

theorem readName_closes {fuel fuel' : Nat} (closes : Closes commented text text')
    (enough : text.length ≤ fuel) (enough' : text'.length ≤ fuel') :
    SameRead commented (readName verbose fuel text) (readName verbose fuel' text') := by
  refine Closes.skipInduction verbose (motive := fun fuel fuel' text text' =>
    SameRead commented (readName verbose fuel text) (readName verbose fuel' text')) ?_ ?_
    closes enough enough'
  · intro fuel fuel' text' closes
    rcases closes.nil_cases with rfl | rfl <;> cases fuel <;> cases fuel' <;> exact .of [] closes
  · intro fuel fuel' c rest rest' closes further
    rw [readName, readName]
    split_ifs
    · exact further.mapValue (c :: ·)
    · exact .of [] closes

theorem readBoundary_closes (closes : Closes commented text text') :
    Survives (SameRead commented) (readBoundary verbose text) (readBoundary verbose text') := by
  cases text with
  | nil => rcases closes.nil_cases with rfl | rfl <;> exact .found (.of _ closes)
  | cons sign inside =>
      obtain ⟨inside', rfl, insides⟩ := closes.exists_cons
      by_cases brace : sign = '\x7b'
      · subst brace
        simp only [readBoundary]
        have skipped := skipSpace_closes verbose insides
        generalize skipSpace verbose inside = left at skipped ⊢
        generalize skipSpace verbose inside' = left' at skipped ⊢
        cases left with
        | nil => exact .failed
        | cons c rest =>
            obtain ⟨rest', rfl, rests⟩ := skipped.exists_cons
            simp only
            split_ifs with named
            · have name : SameRead commented (readName verbose (rest.length + 1) (c :: rest))
                  (readName verbose (rest'.length + 1) (c :: rest')) :=
                readName_closes skipped (Nat.le_refl _) (Nat.le_refl _)
              generalize readName verbose (rest.length + 1) (c :: rest) = read at name ⊢
              generalize readName verbose (rest'.length + 1) (c :: rest') = read' at name ⊢
              obtain ⟨name, left⟩ := read
              obtain ⟨name', left'⟩ := read'
              obtain ⟨rfl, lefts⟩ := name
              cases left with
              | nil => exact .failed
              | cons c left =>
                  obtain ⟨left', rfl, behind⟩ := lefts.exists_cons
                  by_cases brace : c = '\x7d'
                  · subst brace
                    simp only
                    split
                    all_goals first | exact .found (SameRead.of _ behind) | exact .failed
                  · simp only [Prod.mk.injEq, List.cons.injEq, brace, false_and, and_false, false_imp_iff,
                      implies_true]
                    exact .failed
            · exact .found (.of _ closes)
      · simp only [readBoundary, List.cons.injEq, brace, false_and, false_imp_iff, implies_true]
        exact .found (SameRead.of _ closes)

theorem readBraced_closes {fuel fuel' : Nat} (enough : fuel ≤ fuel')
    (closes : Closes commented text text') :
    Survives (SameRead commented) (readBraced verbose fuel text) (readBraced verbose fuel' text') := by
  induction fuel generalizing fuel' text text' with
  | zero => exact .failed
  | succ fuel inductionHypothesis =>
      obtain ⟨fuel', rfl⟩ := Nat.exists_eq_succ_of_ne_zero (Nat.ne_zero_of_lt enough)
      rw [readBraced, readBraced]
      have skipped := skipSpace_closes verbose closes
      generalize skipSpace verbose text = left at skipped ⊢
      generalize skipSpace verbose text' = left' at skipped ⊢
      cases left with
      | nil => exact .failed
      | cons c rest =>
          obtain ⟨rest', rfl, rests⟩ := skipped.exists_cons
          by_cases brace : c = '\x7d'
          · subst brace
            exact .found (.of [] rests)
          · simp only
            exact (inductionHypothesis (Nat.le_of_succ_le_succ enough) rests).map
              fun _ _ read => read.mapValue (c :: ·)

/-- A property that is named in a text is not named by the parenthesis behind it. -/
theorem readProperty_closes (closes : Closes commented text text') :
    Survives (SameRead commented) (readProperty verbose text) (readProperty verbose text') := by
  rw [readProperty, readProperty]
  have skipped := skipSpace_closes verbose closes
  generalize skipSpace verbose text = left at skipped ⊢
  generalize skipSpace verbose text' = left' at skipped ⊢
  cases left with
  | nil => exact .failed
  | cons c rest =>
      obtain ⟨rest', rfl, rests⟩ := skipped.exists_cons
      by_cases brace : c = '\x7b'
      · subst brace
        exact readBraced_closes (Nat.succ_le_succ rests.length_le) rests
      · simp only
        split_ifs
        · exact .failed
        · exact .found (.of [c] rests)

theorem readUnicodeClass_closes (properties : PropertyTable) (flags : Flags) (negated : Bool)
    (closes : Closes commented text text') :
    Survives (SameRead commented) (readUnicodeClass properties flags negated text)
      (readUnicodeClass properties flags negated text') := by
  refine (readProperty_closes closes).bind ?_
  rintro ⟨name, rest⟩ ⟨_, rest'⟩ ⟨rfl, rests⟩
  refine .bindSame fun set => ?_
  simp only
  split_ifs
  · exact .found (.of _ rests)
  · exact .found (.of _ rests)
  · exact .failed

theorem readEscape_closes (properties : PropertyTable) (flags : Flags)
    (closes : Closes commented text text') :
    Survives (SameRead commented) (readEscape properties flags text)
      (readEscape properties flags text') := by
  have classOf (negated : Bool) (set : CharSet) {rest rest' : List Char}
      (rests : Closes commented rest rest') : Survives (SameRead commented)
        ((flags.classOf? negated set).map fun set => (Primitive.set set, rest))
        ((flags.classOf? negated set).map fun set => (Primitive.set set, rest')) := by
    cases flags.classOf? negated set with
    | none => exact .failed
    | some set => exact .found (.of _ rests)
  cases text with
  | nil => exact .failed
  | cons c rest =>
      obtain ⟨rest', rfl, rests⟩ := closes.exists_cons
      simp only [readEscape]
      split
      case h_1 | h_2 | h_3 =>
        exact (readHex_closes _ _ rests).map fun _ _ read => read.mapValue Primitive.char
      case h_4 | h_5 =>
        exact (readUnicodeClass_closes properties flags _ rests).map fun _ _ read =>
          read.mapValue Primitive.set
      case h_6 | h_7 | h_8 | h_9 | h_10 | h_11 => exact classOf _ _ rests
      case h_20 =>
        exact (readBoundary_closes rests).map fun _ _ read =>
          read.mapValue fun edge => Primitive.look (.word edge flags.unicode)
      case h_24 =>
        split_ifs
        · exact .found (.of _ rests)
        · exact .failed
      all_goals exact .found (.of _ rests)

/-! ## Group names -/

theorem readGroupName_closes (first : Bool) (closes : Closes commented text text') :
    Survives (SameRead commented) (readGroupName first text) (readGroupName first text') := by
  induction text generalizing first text' with
  | nil => cases first <;> exact .failed
  | cons c rest inductionHypothesis =>
      obtain ⟨rest', rfl, rests⟩ := closes.exists_cons
      by_cases bracket : c = '>'
      · subst bracket
        rw [readGroupName, readGroupName]
        split_ifs
        · exact .failed
        · exact .found (.of [] rests)
      · simp only [readGroupName]
        split_ifs
        · exact (inductionHypothesis false rests).map fun _ _ read => read.mapValue (c :: ·)
        · exact .failed

end RuleGrammar.Regex
