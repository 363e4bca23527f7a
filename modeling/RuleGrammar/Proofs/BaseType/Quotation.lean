import RuleGrammar.BaseType
import RuleGrammar.Proofs.Regex.Membership
import RuleGrammar.Proofs.Regex.Preference
import RuleGrammar.Proofs.Regex.Properties

/-!
Owns quotations: what stands between double quotes, where a backslash takes the character behind it along.

Contract: the expression of the type of quoted texts leaves what one pass up to the first quote of its own
leaves (`Quotation.scannedBy_scan`), and such a pass succeeds exactly on the texts that begin with a
quotation (`Quotation.scan_eq_some_iff`). Backtracking cannot split an escape, for nothing else begins
with a backslash.
-/

namespace RuleGrammar.Quotation

/-! ## One pass -/

/-- A text without quotes of its own, in which every backslash escapes a character that ends no line. -/
inductive IsBody : List Char → Prop where
  | nil : IsBody []
  | plain {c : Char} {body : List Char} (unquoted : c ≠ '"') (unescaped : c ≠ '\\') :
      IsBody body → IsBody (c :: body)
  | escaped {c : Char} {body : List Char} (sameLine : c ≠ '\n') :
      IsBody body → IsBody ('\\' :: c :: body)

/-- What stands before the closing quote, and what follows that quote. -/
def scanBody : Reader (List Char)
  | [] => none
  | '"' :: rest => some ([], rest)
  | ['\\'] => none
  | '\\' :: c :: rest =>
      if c = '\n' then none
      else (scanBody rest).map fun found => ('\\' :: c :: found.1, found.2)
  | c :: rest => (scanBody rest).map fun found => (c :: found.1, found.2)

/-- A quotation with its quotes. -/
def scan : Reader (List Char)
  | [] => none
  | c :: text =>
      if c = '"' then (scanBody text).map fun found => (c :: (found.1 ++ ['"']), found.2)
      else none

theorem scan_eq_none {text : List Char} (other : ∀ c ∈ text.head?, c ≠ '"') : scan text = none := by
  cases text with
  | nil => rfl
  | cons c rest => exact if_neg (other c rfl)

theorem ne_backslash {c : Char} {text : List Char} (notLast : c = '\\' → text = [] → False)
    (notBefore : ∀ d rest, c = '\\' → text = d :: rest → False) : c ≠ '\\' := by
  cases text with
  | nil => exact fun same => notLast same rfl
  | cons d rest => exact fun same => notBefore d rest same rfl

theorem isBody_of_scanBody {text : List Char} {found : List Char × List Char}
    (scanned : scanBody text = some found) : text = found.1 ++ '"' :: found.2 ∧ IsBody found.1 := by
  fun_induction scanBody text generalizing found with
  | case1 | case3 | case4 => cases scanned
  | case2 rest =>
      cases scanned
      exact ⟨rfl, .nil⟩
  | case5 c rest sameLine inductionHypothesis =>
      obtain ⟨later, scanned', rfl⟩ := Option.map_eq_some_iff.mp scanned
      obtain ⟨split, body⟩ := inductionHypothesis scanned'
      exact ⟨by simp [split], .escaped sameLine body⟩
  | case6 c text unquoted notLast notBefore inductionHypothesis =>
      obtain ⟨later, scanned', rfl⟩ := Option.map_eq_some_iff.mp scanned
      obtain ⟨split, body⟩ := inductionHypothesis scanned'
      exact ⟨by simp [split], .plain unquoted (ne_backslash notLast notBefore) body⟩

theorem scanBody_append {body : List Char} (isBody : IsBody body) (rest : List Char) :
    scanBody (body ++ '"' :: rest) = some (body, rest) := by
  induction isBody with
  | nil => rfl
  | plain unquoted unescaped _ inductionHypothesis =>
      simp [scanBody, unescaped, inductionHypothesis]
  | escaped sameLine _ inductionHypothesis =>
      simp [scanBody, sameLine, inductionHypothesis]

/-- A quotation is read exactly from the texts that begin with one. -/
theorem scan_eq_some_iff {text matched rest : List Char} :
    scan text = some (matched, rest) ↔
      ∃ body, IsBody body ∧ matched = '"' :: (body ++ ['"']) ∧ text = matched ++ rest := by
  constructor
  · intro scanned
    cases text with
    | nil => cases scanned
    | cons c text =>
        rw [scan] at scanned
        split_ifs at scanned with quote
        obtain ⟨found, scanned', same⟩ := Option.map_eq_some_iff.mp scanned
        obtain ⟨split, body⟩ := isBody_of_scanBody scanned'
        cases same
        exact ⟨found.1, body, by rw [quote], by simp [split]⟩
  · rintro ⟨body, isBody, rfl, rfl⟩
    have whole : ('"' :: (body ++ ['"'])) ++ rest = '"' :: (body ++ '"' :: rest) := by simp
    rw [whole, scan, if_pos rfl, scanBody_append isBody]
    rfl

/-! ## Expression -/

def unquoted : CharSet :=
  ((CharSet.single '"').union (.single '\\')).compl

def sameLine : CharSet :=
  (CharSet.single '\n').compl

/-- One character, or a backslash and the character that it escapes. -/
def unit : Regex :=
  .alt (.oneOf unquoted) (.cat (.literal ['\\']) (.oneOf sameLine))

def expression : Regex :=
  .cat (.cat (.literal ['"']) (.times unit 0 none true)) (.literal ['"'])

theorem parse?_expression (properties : Regex.PropertyTable) :
    Regex.parse? properties "\"(?:[^\"\\\\]|\\\\.)*\"".toList = some expression :=
  Regex.parse?_of_none (by decide +kernel) properties

theorem contains_unquoted (c : Char) : unquoted.contains c = true ↔ c ≠ '"' ∧ c ≠ '\\' := by
  rw [unquoted, CharSet.contains_compl c (by decide),
    CharSet.contains_union c (by decide) (by decide)]
  simp [CharSet.contains_single, Bool.eq_false_iff]

theorem contains_sameLine (c : Char) : sameLine.contains c = true ↔ c ≠ '\n' := by
  rw [sameLine, CharSet.contains_compl c (by decide)]
  simp [CharSet.contains_single, Bool.eq_false_iff]

/-! ## What the expression leaves -/

theorem remainders_unit_quote (rest : List Char) : unit.remainders ('"' :: rest) = [] := by
  have other : unquoted.contains '"' = false := by decide
  simp [unit, Regex.remainders, other, Text.dropPrefix?]

/-- Behind a backslash an escape is the only way on. -/
theorem remainders_unit_backslash (rest : List Char) :
    unit.remainders ('\\' :: rest) = (Regex.oneOf sameLine).remainders rest := by
  have other : unquoted.contains '\\' = false := by decide
  simp [unit, Regex.remainders, other, Text.dropPrefix?]

theorem remainders_unit_plain {c : Char} (notQuote : c ≠ '"') (notBackslash : c ≠ '\\')
    (rest : List Char) : unit.remainders (c :: rest) = [rest] := by
  have member := (contains_unquoted c).mpr ⟨notQuote, notBackslash⟩
  simp [unit, Regex.remainders, member, Text.dropPrefix?, Ne.symm notBackslash]

/-- What is left by units and a closing quote. -/
def behindUnits (count : Nat) (text : List Char) : Option (List Char) :=
  (Regex.furtherRounds unit.remainders true count text).findSome?
    (Regex.findBehind (.literal ['"']) some)

theorem behindUnits_nil (count : Nat) : behindUnits count [] = none := by
  cases count <;> rfl

theorem behindUnits_cons {c : Char} {text : List Char} {count : Nat}
    (enough : (c :: text).length ≤ count) :
    behindUnits count (c :: text) =
      ((unit.remainders (c :: text)).findSome? (behindUnits (count - 1))).or
        (if c = '"' then some text else none) := by
  obtain ⟨count, rfl⟩ := Nat.exists_eq_succ_of_ne_zero (Nat.ne_zero_of_lt enough)
  rw [behindUnits, Regex.findSome?_furtherRounds_succ, if_pos rfl, Regex.findBehind_char_cons]
  rfl

theorem behindUnits_eq {text : List Char} {count : Nat} (enough : text.length ≤ count) :
    behindUnits count text = (scanBody text).map Prod.snd := by
  fun_induction scanBody text generalizing count with
  | case1 => exact behindUnits_nil count
  | case2 rest => rw [behindUnits_cons enough, remainders_unit_quote]; rfl
  | case3 => rw [behindUnits_cons enough, remainders_unit_backslash]; rfl
  | case4 rest =>
      rw [behindUnits_cons enough, remainders_unit_backslash]
      rfl
  | case5 c rest notEnd inductionHypothesis =>
      have escape : (Regex.oneOf sameLine).remainders (c :: rest) = [rest] :=
        if_pos ((contains_sameLine c).mpr notEnd)
      have further : behindUnits (count - 1) rest = _ := inductionHypothesis (by simp at enough; omega)
      rw [behindUnits_cons enough, remainders_unit_backslash, escape, if_neg (by decide), Option.or_none,
        findSome?_cons_or, List.findSome?_nil, Option.or_none, further, Option.map_map]
      rfl
  | case6 c text notQuote notLast notBefore inductionHypothesis =>
      have further : behindUnits (count - 1) text = _ := inductionHypothesis (by simp at enough; omega)
      rw [behindUnits_cons enough, remainders_unit_plain notQuote (ne_backslash notLast notBefore),
        if_neg notQuote, Option.or_none, findSome?_cons_or, List.findSome?_nil, Option.or_none, further,
        Option.map_map]
      rfl

theorem scannedBy_scan : expression.ScannedBy scan where
  left text := by
    have units : ∀ rest, Regex.findBehind (.times unit 0 none true)
        (Regex.findBehind (.literal ['"']) some) rest = (scanBody rest).map Prod.snd := by
      intro rest
      rw [Regex.findBehind_times]
      exact behindUnits_eq (Nat.le_refl _)
    rw [expression, Regex.findBehind_cat, Regex.findBehind_cat, funext units]
    cases text with
    | nil => rfl
    | cons c rest =>
        rw [Regex.findBehind_char_cons, scan]
        split_ifs
        · rw [Option.map_map]
          rfl
        · rfl
  split {text matched rest} found := by
    obtain ⟨body, -, -, split⟩ := scan_eq_some_iff.mp found
    exact split

end RuleGrammar.Quotation
