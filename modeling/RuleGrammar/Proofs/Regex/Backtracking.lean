import Mathlib.Data.List.Basic
import Mathlib.Tactic.SplitIfs
import RuleGrammar.Regex.Basic
import RuleGrammar.Text.Offset

/-!
Owns what regular expressions match by backtracking: the texts that an expression can leave behind
it, the preferred one first.

Contract: what is left is shorter by the length of a shortest match at least, so that a repetition whose
rounds read something has at most as many rounds as there are characters (`Regex.furtherRounds_eq`).
-/

namespace RuleGrammar

/-! ## Searching lists -/

section

variable {α β γ : Type}

theorem findSome?_cons_or (f : α → Option β) (x : α) (xs : List α) :
    (x :: xs).findSome? f = (f x).or (xs.findSome? f) := by
  rw [List.findSome?_cons]
  cases f x <;> rfl

theorem findSome?_some (xs : List α) : xs.findSome? some = xs.head? := by
  cases xs <;> rfl

theorem findSome?_flatMap (f : β → Option γ) (g : α → List β) (xs : List α) :
    (xs.flatMap g).findSome? f = xs.findSome? fun x => (g x).findSome? f := by
  induction xs with
  | nil => rfl
  | cons x xs inductionHypothesis =>
      rw [List.flatMap_cons, List.findSome?_append, findSome?_cons_or, inductionHypothesis]

theorem findSome?_congr {f g : α → Option β} {xs : List α} (same : ∀ x ∈ xs, f x = g x) :
    xs.findSome? f = xs.findSome? g := by
  induction xs with
  | nil => rfl
  | cons x xs inductionHypothesis =>
      rw [List.forall_mem_cons] at same
      rw [findSome?_cons_or, findSome?_cons_or, same.1, inductionHypothesis same.2]

end

namespace Regex

/-! ## Backtracking -/

/-- Rounds that have to be read, one after the other. -/
def requiredRounds (once : List Char → List (List Char)) : (count : Nat) → List Char → List (List Char)
  | 0, text => [text]
  | count + 1, text => (once text).flatMap (requiredRounds once count)

/-- Rounds up to a number of them: a greedy repetition prefers one more to none. -/
def furtherRounds (once : List Char → List (List Char)) (greedy : Bool) :
    (count : Nat) → List Char → List (List Char)
  | 0, text => [text]
  | count + 1, text =>
      let more := (once text).flatMap (furtherRounds once greedy count)
      if greedy then more ++ [text] else text :: more

/-- What an expression can leave of a text, in the order in which backtracking comes to it. Conditions
on positions are taken for granted, and so is that rounds without an upper bound read something. -/
def remainders : Regex → List Char → List (List Char)
  | .empty, text => [text]
  | .literal chars, text => (Text.dropPrefix? chars text).toList
  | .oneOf _, [] => []
  | .oneOf set, c :: rest => if set.contains c then [rest] else []
  | .look _, text => [text]
  | .group _ body, text => body.remainders text
  | .cat first second, text => (first.remainders text).flatMap second.remainders
  | .alt preferred other, text => preferred.remainders text ++ other.remainders text
  | .times body min max greedy, text =>
      (requiredRounds body.remainders min text).flatMap fun rest =>
        furtherRounds body.remainders greedy ((max.map (· - min)).getD rest.length) rest

/-- No conditions on positions, and every round of a repetition reads something. -/
def isPlain : Regex → Bool
  | .empty => true
  | .literal _ => true
  | .oneOf _ => true
  | .look _ => false
  | .group _ body => body.isPlain
  | .cat first second => first.isPlain && second.isPlain
  | .alt preferred other => preferred.isPlain && other.isPlain
  | .times body _ _ _ => body.isConsuming && body.isPlain

/-! ## What is left is shorter -/

section

variable {once : List Char → List (List Char)} {rest text : List Char} {count least : Nat}

theorem length_of_mem_requiredRounds
    (shorter : ∀ {text rest : List Char}, rest ∈ once text → rest.length + least ≤ text.length)
    (member : rest ∈ requiredRounds once count text) : rest.length + count * least ≤ text.length := by
  induction count generalizing text with
  | zero =>
      obtain rfl := List.mem_singleton.mp member
      omega
  | succ count inductionHypothesis =>
      obtain ⟨middle, first, later⟩ := List.mem_flatMap.mp member
      have here := shorter first
      have there := inductionHypothesis later
      rw [Nat.succ_mul]
      omega

theorem length_of_mem_furtherRounds {greedy : Bool}
    (shorter : ∀ {text rest : List Char}, rest ∈ once text → rest.length ≤ text.length)
    (member : rest ∈ furtherRounds once greedy count text) : rest.length ≤ text.length := by
  induction count generalizing text with
  | zero =>
      obtain rfl := List.mem_singleton.mp member
      exact Nat.le_refl _
  | succ count inductionHypothesis =>
      have split : rest = text ∨ rest ∈ (once text).flatMap (furtherRounds once greedy count) := by
        rw [furtherRounds] at member
        split_ifs at member
        · simpa [or_comm] using member
        · simpa using member
      rcases split with rfl | more
      · exact Nat.le_refl _
      · obtain ⟨middle, first, later⟩ := List.mem_flatMap.mp more
        exact Nat.le_trans (inductionHypothesis later) (shorter first)

/-- What is left of a text is shorter by the length of a shortest match at least. -/
theorem length_of_mem_remainders (regex : Regex) (member : rest ∈ regex.remainders text) :
    rest.length + regex.minLength.getD 0 ≤ text.length := by
  induction regex generalizing text rest with
  | empty | look =>
      obtain rfl := List.mem_singleton.mp member
      exact Nat.le_refl _
  | literal chars =>
      rw [remainders, Option.mem_toList, Text.dropPrefix?_eq_some_iff] at member
      rw [member, List.length_append, minLength, Option.getD_some]
      omega
  | oneOf set =>
      cases text with
      | nil => cases member
      | cons c text =>
          rw [remainders] at member
          split_ifs at member
          · obtain rfl := List.mem_singleton.mp member
            rw [minLength]
            split_ifs <;> simp
          · cases member
  | group _ body inductionHypothesis => exact inductionHypothesis member
  | cat first second firstShorter secondShorter =>
      obtain ⟨middle, here, there⟩ := List.mem_flatMap.mp member
      have before := firstShorter here
      have behind := secondShorter there
      have sum : (cat first second).minLength.getD 0 ≤
          first.minLength.getD 0 + second.minLength.getD 0 := by
        rw [minLength]
        cases first.minLength <;> cases second.minLength <;> simp
      omega
  | alt preferred other preferredShorter otherShorter =>
      have least : (alt preferred other).minLength.getD 0 ≤
          Nat.min (preferred.minLength.getD 0) (other.minLength.getD 0) := by
        rw [minLength]
        cases preferred.minLength <;> cases other.minLength <;> simp
      rw [Nat.le_min] at least
      rcases List.mem_append.mp member with here | here
      · have left := preferredShorter here
        omega
      · have left := otherShorter here
        omega
  | times body min max greedy shorter =>
      obtain ⟨middle, here, there⟩ := List.mem_flatMap.mp member
      have before := length_of_mem_requiredRounds shorter here
      have behind := length_of_mem_furtherRounds
        (fun member => Nat.le_trans (Nat.le_add_right _ _) (shorter member)) there
      have product : (times body min max greedy).minLength.getD 0 ≤ min * body.minLength.getD 0 := by
        rw [minLength]
        cases body.minLength <;> simp
      omega

theorem length_lt_of_isConsuming {regex : Regex} (consuming : regex.isConsuming = true)
    (member : rest ∈ regex.remainders text) : rest.length < text.length := by
  have shorter := regex.length_of_mem_remainders member
  obtain ⟨least, same, positive⟩ := (Option.any_eq_true ..).mp consuming
  rw [same, Option.getD_some] at shorter
  have := of_decide_eq_true positive
  omega

/-- Rounds that each read something are at most as many as there are characters. -/
theorem furtherRounds_eq {greedy : Bool} {count' : Nat}
    (shorter : ∀ {text rest : List Char}, rest ∈ once text → rest.length < text.length)
    (enough : text.length ≤ count) (enough' : text.length ≤ count') :
    furtherRounds once greedy count text = furtherRounds once greedy count' text := by
  have ended : ∀ {text : List Char} (count : Nat), text.length = 0 →
      furtherRounds once greedy count text = [text] := by
    intro text count empty
    have nothing : once text = [] := List.eq_nil_iff_forall_not_mem.mpr fun rest member => by
      have := shorter member
      omega
    cases count with
    | zero => rfl
    | succ count => simp [furtherRounds, nothing]
  induction count generalizing text count' with
  | zero => rw [ended 0 (by omega), ended count' (by omega)]
  | succ count inductionHypothesis =>
      cases count' with
      | zero => rw [ended (count + 1) (by omega), ended 0 (by omega)]
      | succ count' =>
          have further : (once text).flatMap (furtherRounds once greedy count) =
              (once text).flatMap (furtherRounds once greedy count') := by
            refine List.flatMap_congr fun rest member => ?_
            have := shorter member
            exact inductionHypothesis (by omega) (by omega)
          rw [furtherRounds, furtherRounds, further]

/-! ## What is found behind an expression -/

/-- What is found first by looking at the texts that an expression can leave. -/
def findBehind {β : Type} (regex : Regex) (next : List Char → Option β) (text : List Char) : Option β :=
  (regex.remainders text).findSome? next

variable {β : Type} {next : List Char → Option β} {set : CharSet} {greedy : Bool}

theorem findSome?_furtherRounds_succ (count : Nat) (text : List Char) :
    (furtherRounds once greedy (count + 1) text).findSome? next =
      let further := (once text).findSome? fun rest =>
        (furtherRounds once greedy count rest).findSome? next
      if greedy then further.or (next text) else (next text).or further := by
  rw [furtherRounds, ← findSome?_flatMap]
  cases greedy
  · exact findSome?_cons_or ..
  · simp [List.findSome?_append, findSome?_cons_or]

theorem findBehind_literal (chars : List Char) :
    findBehind (.literal chars) next text = (Text.dropPrefix? chars text).bind next := by
  rw [findBehind, remainders]
  cases Text.dropPrefix? chars text <;> simp [findSome?_cons_or]

theorem findBehind_char_cons (c d : Char) :
    findBehind (.literal [c]) next (d :: rest) = if d = c then next rest else none := by
  rw [findBehind_literal]
  by_cases same : c = d
  · rw [if_pos same.symm, same]
    simp [Text.dropPrefix?]
  · rw [if_neg (Ne.symm same)]
    simp [Text.dropPrefix?, same]

theorem findBehind_oneOf_cons (c : Char) :
    findBehind (.oneOf set) next (c :: rest) = if set.contains c then next rest else none := by
  rw [findBehind, remainders]
  split_ifs <;> simp [findSome?_cons_or]

theorem findBehind_group (index : Nat) (body : Regex) :
    findBehind (.group index body) next text = body.findBehind next text := rfl

theorem findBehind_cat (first second : Regex) :
    findBehind (.cat first second) next = first.findBehind (second.findBehind next) :=
  funext fun _ => findSome?_flatMap ..

theorem findBehind_alt (preferred other : Regex) :
    findBehind (.alt preferred other) next text =
      (preferred.findBehind next text).or (other.findBehind next text) :=
  List.findSome?_append

/-- Rounds none of which has to be read. -/
theorem findBehind_times (body : Regex) (max : Option Nat) (greedy : Bool) :
    findBehind (.times body 0 max greedy) next text =
      (furtherRounds body.remainders greedy (max.getD text.length) text).findSome? next := by
  have rounds : remainders (.times body 0 max greedy) text =
      furtherRounds body.remainders greedy ((max.map (· - 0)).getD text.length) text :=
    List.flatMap_singleton ..
  have count : max.map (· - 0) = max := by cases max <;> rfl
  rw [findBehind, rounds, count]

/-- An expression that may be left out is tried first. -/
theorem findBehind_optional (body : Regex) :
    findBehind (.times body 0 (some 1) true) next text =
      (body.findBehind next text).or (next text) := by
  rw [findBehind_times, Option.getD_some, findSome?_furtherRounds_succ]
  simp [furtherRounds, findSome?_cons_or, findBehind]

/-- A run of characters ends where no more of them follow, if what is behind it is found there, or cannot
be found in front of one of them. -/
theorem findSome?_furtherRounds_oneOf (enough : text.length ≤ count)
    (settled : (next (text.dropWhile set.contains)).isSome ∨
      ∀ c rest, set.contains c = true → next (c :: rest) = none) :
    (furtherRounds (remainders (.oneOf set)) true count text).findSome? next =
      next (text.dropWhile set.contains) := by
  induction text generalizing count with
  | nil =>
      cases count with
      | zero => simp [furtherRounds, findSome?_cons_or]
      | succ count => simp [furtherRounds, remainders, findSome?_cons_or]
  | cons c text inductionHypothesis =>
      obtain ⟨count, rfl⟩ := Nat.exists_eq_succ_of_ne_zero (Nat.ne_zero_of_lt enough)
      rw [findSome?_furtherRounds_succ, if_pos rfl, remainders]
      by_cases member : set.contains c = true
      · rw [List.dropWhile_cons_of_pos member] at settled ⊢
        rw [if_pos member, findSome?_cons_or, List.findSome?_nil, Option.or_none,
          inductionHypothesis (Nat.le_of_succ_le_succ enough) settled]
        rcases settled with found | missed
        · exact Option.or_of_isSome found
        · rw [missed c text member, Option.or_none]
      · rw [if_neg member, List.findSome?_nil, Option.none_or, List.dropWhile_cons_of_neg member]

theorem findBehind_anyOf
    (settled : (next (text.dropWhile set.contains)).isSome ∨
      ∀ c rest, set.contains c = true → next (c :: rest) = none) :
    findBehind (.times (.oneOf set) 0 none true) next text = next (text.dropWhile set.contains) := by
  rw [findBehind_times]
  exact findSome?_furtherRounds_oneOf (Nat.le_refl _) settled

theorem findBehind_someOf
    (settled : (next (text.dropWhile set.contains)).isSome ∨
      ∀ c rest, set.contains c = true → next (c :: rest) = none) :
    findBehind (.times (.oneOf set) 1 none true) next text =
      if text.head?.any set.contains then next (text.dropWhile set.contains) else none := by
  cases text with
  | nil => rfl
  | cons c text =>
      by_cases member : set.contains c = true
      · rw [List.dropWhile_cons_of_pos member] at settled ⊢
        have rounds : remainders (.times (.oneOf set) 1 none true) (c :: text) =
            furtherRounds (remainders (.oneOf set)) true text.length text := by
          simp [remainders, requiredRounds, member]
        rw [findBehind, rounds, findSome?_furtherRounds_oneOf (Nat.le_refl _) settled, List.head?_cons,
          Option.any_some, if_pos member]
      · rw [List.head?_cons, Option.any_some, if_neg member, findBehind]
        simp [remainders, requiredRounds, member]

end

end Regex

end RuleGrammar
