import RuleGrammar.Proofs.Boundary
import RuleGrammar.Proofs.Regex.BracketClosing
import RuleGrammar.Proofs.Regex.Places

/-!
Owns what the group does that ties a pattern to the start of a text.

Contract: where a text is a regular expression by itself, the text in that group is one too unless a comment
at its end takes the parenthesis, or the group makes it too deep; it is then the first expression behind a
condition on the start of the text (`Regex.parse?_anchored_iff`), whatever flags, comments and parentheses
the text has. So a compiled pattern reads what its text matches at the start (`Pattern.read?_eq_some_iff`).
-/

namespace RuleGrammar

namespace Regex

namespace PatternState

/-! ## Reading a closed text -/

/-- Two states that are the same but for the text. -/
inductive Beside : PatternState → PatternState → Prop where
  | mk {rest rest' : List Char} {flags : Flags} {pieces branches : List Piece} {outer : List Level}
      {groups : Nat} {names : List (List Char)} :
      Beside ⟨rest, flags, pieces, branches, outer, groups, names⟩
        ⟨rest', flags, pieces, branches, outer, groups, names⟩

/-- The same, the text of the second closing that of the first. -/
structure ClosedBy (commented : Prop) (state closed : PatternState) : Prop where
  beside : Beside state closed
  rest : Closes commented state.rest closed.rest

variable {properties : PropertyTable} {commented : Prop} {state closed : PatternState}
  {rest rest' : List Char}

theorem Beside.flags (beside : Beside state closed) : closed.flags = state.flags := by
  cases beside
  rfl

theorem push_closedBy (beside : Beside state closed) (piece : Piece)
    (closes : Closes commented rest rest') :
    ClosedBy commented (state.push piece rest) (closed.push piece rest') := by
  cases beside
  exact ⟨.mk, closes⟩

theorem repeatLast_closedBy (beside : Beside state closed) (closes : Closes commented rest rest') (min : Nat)
    (max : Option Nat) (lazy : Bool) :
    Survives (ClosedBy commented) (state.repeatLast min max lazy rest)
      (closed.repeatLast min max lazy rest') := by
  obtain @⟨_, _, _, pieces⟩ := beside
  cases pieces with
  | nil => exact .failed
  | cons piece pieces =>
      simp only [repeatLast]
      split_ifs
      · exact .found ⟨.mk, closes⟩
      · exact .failed

theorem repeatMarked_closedBy (beside : Beside state closed) (closes : Closes commented rest rest')
    (min : Nat) (max : Option Nat) :
    Survives (ClosedBy commented) (state.repeatMarked min max rest) (closed.repeatMarked min max rest') := by
  cases rest with
  | nil =>
      rcases closes.nil_cases with rfl | rfl <;> exact repeatLast_closedBy beside closes min max false
  | cons c rest =>
      obtain ⟨rest', rfl, rests⟩ := closes.exists_cons
      by_cases mark : c = '?'
      · subst mark
        exact repeatLast_closedBy beside rests min max true
      · simp only [repeatMarked, List.cons.injEq, mark, false_and, false_imp_iff, implies_true]
        exact repeatLast_closedBy beside closes min max false

theorem repeatCounted_closedBy (beside : Beside state closed) (closes : Closes commented rest rest') :
    Survives (ClosedBy commented) (state.repeatCounted rest) (closed.repeatCounted rest') := by
  rw [repeatCounted, repeatCounted, beside.flags]
  refine (readCount_closes (skipSpace_closes _ closes)).bind ?_
  rintro ⟨min, left⟩ ⟨_, left'⟩ ⟨rfl, lefts⟩
  cases left with
  | nil => exact .failed
  | cons c left =>
      obtain ⟨left', rfl, behind⟩ := Closes.exists_cons lefts
      have skipped := skipSpace_closes state.flags.verbose behind
      by_cases brace : c = '\x7d'
      · subst brace
        exact repeatMarked_closedBy beside skipped min (some min)
      by_cases comma : c = ','
      · subst comma
        simp only
        generalize skipSpace state.flags.verbose left = text at skipped ⊢
        generalize skipSpace state.flags.verbose left' = text' at skipped ⊢
        split
        case h_1 rest =>
          obtain ⟨rest', rfl, rests⟩ := skipped.exists_cons
          exact repeatMarked_closedBy beside (skipSpace_closes _ rests) min none
        case h_2 brace =>
          have brace' := skipped.ne_cons (by decide) brace
          simp only
          refine (readCount_closes skipped).bind ?_
          rintro ⟨max, left⟩ ⟨_, left'⟩ ⟨rfl, lefts⟩
          cases left with
          | nil => exact .failed
          | cons c left =>
              obtain ⟨left', rfl, behind⟩ := Closes.exists_cons lefts
              by_cases brace : c = '\x7d'
              · subst brace
                simp only
                split_ifs
                · exact repeatMarked_closedBy beside (skipSpace_closes _ behind) min (some max)
                · exact .failed
              · simp only [Prod.mk.injEq, List.cons.injEq, brace, false_and, and_false, false_imp_iff,
                  implies_true]
                exact .failed
      · simp only [List.cons.injEq, brace, comma, false_and, false_imp_iff, implies_true]
        exact .failed

theorem openGroup_closedBy (beside : Beside state closed) (closes : Closes commented rest rest')
    (index : Option Nat) (flags : Flags) :
    ClosedBy commented (state.openGroup index flags rest) (closed.openGroup index flags rest') := by
  cases beside
  exact ⟨.mk, closes⟩

theorem openNumbered_closedBy (beside : Beside state closed) (closes : Closes commented rest rest') :
    ClosedBy commented (state.openNumbered rest) (closed.openNumbered rest') := by
  cases beside
  exact ⟨.mk, closes⟩

theorem closeGroup_closedBy (beside : Beside state closed) (closes : Closes commented rest rest') :
    Survives (ClosedBy commented) (state.closeGroup rest) (closed.closeGroup rest') := by
  obtain @⟨_, _, _, _, _, outer⟩ := beside
  cases outer with
  | nil => exact .failed
  | cons level outer => exact .found ⟨.mk, closes⟩

theorem readFlags_closes (run : FlagRun) (closes : Closes commented rest rest') :
    Survives (SameRead commented) (readFlags run rest) (readFlags run rest') := by
  induction rest generalizing run rest' with
  | nil => exact .failed
  | cons c rest inductionHypothesis =>
      obtain ⟨rest', rfl, rests⟩ := closes.exists_cons
      rw [readFlags, readFlags]
      split_ifs
      · exact .failed
      · exact .found (.of run closes)
      · exact .failed
      · exact inductionHypothesis _ rests
      · cases Flag.ofChar? c with
        | none => exact .failed
        | some flag =>
            simp only
            split_ifs
            · exact .failed
            · exact inductionHypothesis _ rests

theorem openFlags_closedBy (beside : Beside state closed) (closes : Closes commented rest rest') :
    Survives (ClosedBy commented) (state.openFlags rest) (closed.openFlags rest') := by
  rw [openFlags, openFlags, beside.flags]
  refine (readFlags_closes _ closes).bind ?_
  rintro ⟨run, left⟩ ⟨_, left'⟩ ⟨rfl, lefts⟩
  cases left with
  | nil => exact .failed
  | cons c left =>
      obtain ⟨left', rfl, behind⟩ := Closes.exists_cons lefts
      by_cases colon : c = ':'
      · subst colon
        exact .found (openGroup_closedBy beside behind none run.flags)
      · simp only
        split_ifs
        · exact .failed
        · cases beside
          exact .found ⟨.mk, behind⟩

theorem openNamed_closedBy (beside : Beside state closed) (closes : Closes commented rest rest') :
    Survives (ClosedBy commented) (state.openNamed rest) (closed.openNamed rest') := by
  refine (readGroupName_closes true closes).bind ?_
  rintro ⟨name, left⟩ ⟨_, left'⟩ ⟨rfl, lefts⟩
  cases beside
  simp only
  split_ifs
  · exact .failed
  · exact .found ⟨.mk, lefts⟩

theorem openParen_closedBy (beside : Beside state closed) (closes : Closes commented rest rest') :
    Survives (ClosedBy commented) (state.openParen rest) (closed.openParen rest') := by
  rw [openParen, openParen, beside.flags]
  have skipped := skipSpace_closes state.flags.verbose closes
  generalize skipSpace state.flags.verbose rest = text at skipped ⊢
  generalize skipSpace state.flags.verbose rest' = text' at skipped ⊢
  split
  case h_1 | h_2 | h_3 | h_4 => exact .failed
  case h_5 =>
    obtain ⟨_, rfl, first⟩ := skipped.exists_cons
    obtain ⟨_, rfl, second⟩ := first.exists_cons
    obtain ⟨rest', rfl, rests⟩ := second.exists_cons
    exact openNamed_closedBy beside rests
  case h_6 behind ahead =>
    -- No name begins with a sign that makes a condition of the group.
    obtain ⟨_, rfl, first⟩ := skipped.exists_cons
    obtain ⟨rest', rfl, rests⟩ := first.exists_cons
    have behind' := rests.ne_cons (by decide) behind
    have ahead' := rests.ne_cons (by decide) ahead
    simp only
    exact openNamed_closedBy beside rests
  case h_7 equal bang behind ahead named angle =>
    obtain ⟨rest', rfl, rests⟩ := skipped.exists_cons
    have equal' := rests.ne_cons (by decide) equal
    have bang' := rests.ne_cons (by decide) bang
    have behind' := rests.ne_cons_cons (by decide) behind
    have ahead' := rests.ne_cons_cons (by decide) ahead
    have named' := rests.ne_cons_cons (by decide) named
    have angle' := rests.ne_cons (by decide) angle
    simp only
    exact openFlags_closedBy beside rests
  case h_8 other =>
    have other' := skipped.ne_cons (by decide) other
    split
    case h_8 => exact .found (openNumbered_closedBy beside skipped)
    all_goals exact (other' _ rfl).elim

theorem step_closedBy (properties : PropertyTable) (beside : Beside state closed)
    (closes : Closes commented rest rest') (c : Char) :
    Survives (ClosedBy commented) (state.step properties c rest)
      (closed.step properties c rest') := by
  simp only [step, beside.flags]
  split
  case h_1 => exact openParen_closedBy beside closes
  case h_2 => exact closeGroup_closedBy beside closes
  case h_3 =>
    cases beside
    exact .found ⟨.mk, closes⟩
  case h_4 =>
    refine (readBracket_closes closes).bind ?_
    rintro ⟨part, left⟩ ⟨_, left'⟩ ⟨rfl, lefts⟩
    exact .found (push_closedBy beside _ lefts)
  case h_5 => exact repeatMarked_closedBy beside closes 0 (some 1)
  case h_6 => exact repeatMarked_closedBy beside closes 0 none
  case h_7 => exact repeatMarked_closedBy beside closes 1 none
  case h_8 => exact repeatCounted_closedBy beside closes
  case h_9 =>
    refine (readEscape_closes properties state.flags closes).bind ?_
    rintro ⟨part, left⟩ ⟨_, left'⟩ ⟨rfl, lefts⟩
    exact .found (push_closedBy beside _ lefts)
  case h_10 =>
    split_ifs
    · exact .found (push_closedBy beside _ closes)
    · exact .failed
  all_goals exact .found (push_closedBy beside _ closes)

/-! ## Reading inside more groups -/

/-- The same state with more levels around it. -/
def around (state : PatternState) (levels : List Level) : PatternState :=
  { state with outer := state.outer ++ levels }

/-- The second state is the first with these levels around it. -/
def Surrounds (levels : List Level) (state inner : PatternState) : Prop :=
  inner = state.around levels

section

variable (state : PatternState) (levels : List Level) (rest : List Char)

@[simp]
theorem around_flags : (state.around levels).flags = state.flags := rfl

theorem repeatLast_surrounds (min : Nat) (max : Option Nat) (lazy : Bool) :
    Survives (Surrounds levels) (state.repeatLast min max lazy rest)
      ((state.around levels).repeatLast min max lazy rest) := by
  obtain ⟨_, _, pieces⟩ := state
  cases pieces with
  | nil => exact .failed
  | cons piece pieces =>
      simp only [repeatLast, around]
      split_ifs
      · exact .found rfl
      · exact .failed

theorem repeatMarked_surrounds (min : Nat) (max : Option Nat) :
    Survives (Surrounds levels) (state.repeatMarked min max rest)
      ((state.around levels).repeatMarked min max rest) := by
  unfold repeatMarked
  split <;> exact repeatLast_surrounds ..

theorem repeatCounted_surrounds :
    Survives (Surrounds levels) (state.repeatCounted rest)
      ((state.around levels).repeatCounted rest) := by
  refine .bindSame ?_
  rintro ⟨min, left⟩
  simp only [around_flags]
  split
  · exact repeatMarked_surrounds ..
  · split
    · exact repeatMarked_surrounds ..
    · refine .bindSame ?_
      rintro ⟨max, left⟩
      split
      · split_ifs
        · exact repeatMarked_surrounds ..
        · exact .failed
      · exact .failed
  · exact .failed

theorem closeGroup_surrounds :
    Survives (Surrounds levels) (state.closeGroup rest) ((state.around levels).closeGroup rest) := by
  obtain ⟨_, _, _, _, outer⟩ := state
  cases outer with
  | nil => exact .failed
  | cons level outer => exact .found rfl

theorem openFlags_surrounds :
    Survives (Surrounds levels) (state.openFlags rest) ((state.around levels).openFlags rest) := by
  refine .bindSame ?_
  rintro ⟨run, left⟩
  split
  · exact .found rfl
  · split_ifs
    · exact .failed
    · exact .found rfl
  · exact .failed

theorem openNamed_surrounds :
    Survives (Surrounds levels) (state.openNamed rest) ((state.around levels).openNamed rest) := by
  refine .bindSame ?_
  rintro ⟨name, left⟩
  show Survives _ (if state.names.contains name then none else _)
    (if state.names.contains name then none else _)
  split_ifs
  · exact .failed
  · exact .found rfl

theorem openParen_surrounds :
    Survives (Surrounds levels) (state.openParen rest) ((state.around levels).openParen rest) := by
  simp only [openParen, around]
  split
  case h_1 | h_2 | h_3 | h_4 => exact .failed
  case h_5 | h_6 => exact openNamed_surrounds ..
  case h_7 => exact openFlags_surrounds ..
  case h_8 => exact .found rfl

/-- A step does not look at the levels around a group, unless it closes the last of them. -/
theorem step_surrounds (properties : PropertyTable) (c : Char) :
    Survives (Surrounds levels) (state.step properties c rest)
      ((state.around levels).step properties c rest) := by
  simp only [step]
  split
  case h_1 => exact openParen_surrounds ..
  case h_2 => exact closeGroup_surrounds ..
  case h_4 | h_9 => exact .bindSame fun _ => .found rfl
  case h_5 | h_6 | h_7 => exact repeatMarked_surrounds ..
  case h_8 => exact repeatCounted_surrounds ..
  case h_10 =>
    rw [around_flags]
    split_ifs
    · exact .found rfl
    · exact .failed
  all_goals exact .found rfl

end

/-! ## Reading to the end -/

theorem closeGroup_rest {next : PatternState} (closed : state.closeGroup rest = some next) :
    next.rest = rest := by
  rw [closeGroup] at closed
  cases outer : state.outer with
  | nil =>
      rw [outer] at closed
      cases closed
  | cons level levels =>
      rw [outer] at closed
      rw [← Option.some.inj closed]

theorem run_succ_of_nil (left : skipSpace state.flags.verbose state.rest = []) (fuel : Nat) :
    run properties (fuel + 1) state = some { state with rest := [] } := by
  rw [run, left]

theorem run_succ_of_cons {c : Char} (left : skipSpace state.flags.verbose state.rest = c :: rest)
    (fuel : Nat) : run properties (fuel + 1) state =
      (state.step properties c rest).bind (run properties fuel) := by
  simp only [run, left]
  cases state.step properties c rest <;> rfl

theorem run_of_rest_eq_nil (none : state.rest = []) (fuel : Nat) :
    run properties fuel state = some state := by
  cases fuel with
  | zero => rw [run, none, List.isEmpty_nil, if_pos rfl]
  | succ fuel =>
      rw [run_succ_of_nil (by rw [none, skipSpace_nil]), ← none]

/-- A text that comes to a final state by itself is read inside more levels with a parenthesis behind it:
to the same state if a comment takes the parenthesis, which closes the innermost level otherwise. -/
def Meets (properties : PropertyTable) (commented : Prop) (fuel : Nat) (closed final : PatternState) : Prop :=
  (commented ∧
    ∀ levels more,
      run properties (fuel + more + 1) (closed.around levels) = some (final.around levels)) ∨
    ∀ levels more,
      run properties (fuel + more + 1) (closed.around levels) = (final.around levels).closeGroup []

/-- Behind the text there is at most the parenthesis. -/
theorem meets_of_ended (properties : PropertyTable) (beside : Beside state closed)
    (ended : Closes commented [] (skipSpace state.flags.verbose closed.rest)) (fuel : Nat) :
    Meets properties commented fuel closed { state with rest := [] } := by
  rw [← beside.flags] at ended
  rcases ended.nil_cases with none | ended
  · refine .inl ⟨(none ▸ ended).comment_of_nil, fun levels more => ?_⟩
    have left : skipSpace (closed.around levels).flags.verbose (closed.around levels).rest = [] := none
    rw [run_succ_of_nil left]
    cases beside
    rfl
  · refine .inr fun levels more => ?_
    have left : skipSpace (closed.around levels).flags.verbose (closed.around levels).rest = [')'] :=
      ended
    have closes : (closed.around levels).step properties ')' [] =
        (({ state with rest := [] } : PatternState).around levels).closeGroup [] := by
      cases beside
      rfl
    rw [run_succ_of_cons left, closes]
    refine (Option.bind_congr fun next here => ?_).trans (Option.bind_fun_some _)
    exact run_of_rest_eq_nil (closeGroup_rest here) _

theorem run_meets {fuel : Nat} {final : PatternState} (closedBy : ClosedBy commented state closed)
    (alone : run properties fuel state = some final) : Meets properties commented fuel closed final := by
  have skipped := skipSpace_closes state.flags.verbose closedBy.rest
  induction fuel generalizing state closed with
  | zero =>
      rw [run] at alone
      split_ifs at alone with empty
      obtain rfl := Option.some.inj alone
      rw [List.isEmpty_iff] at empty
      rw [empty, skipSpace_nil] at skipped
      have ended := meets_of_ended properties closedBy.beside skipped 0
      rwa [← empty] at ended
  | succ fuel inductionHypothesis =>
      cases left : skipSpace state.flags.verbose state.rest with
      | nil =>
          rw [run_succ_of_nil left] at alone
          rw [left] at skipped
          obtain rfl := Option.some.inj alone
          exact meets_of_ended properties closedBy.beside skipped _
      | cons c rest =>
          rw [left] at skipped
          obtain ⟨rest', left', rests⟩ := skipped.exists_cons
          rw [← closedBy.beside.flags] at left'
          rw [run_succ_of_cons left, Option.bind_eq_some_iff] at alone
          obtain ⟨next, here, alone⟩ := alone
          have steps := step_closedBy properties closedBy.beside rests c
          rw [here] at steps
          obtain ⟨next', here', nexts⟩ := steps.exists_found
          -- The closed text goes on alike inside any levels, for a step that succeeds without them
          -- closes none of them.
          have further : ∀ levels more, run properties (fuel + 1 + more + 1) (closed.around levels) =
              run properties (fuel + more + 1) (next'.around levels) := by
            intro levels more
            have left'' : skipSpace (closed.around levels).flags.verbose (closed.around levels).rest =
                c :: rest' := left'
            have surrounds := step_surrounds closed levels rest' properties c
            rw [here'] at surrounds
            obtain ⟨_, here'', rfl⟩ := surrounds.exists_found
            rw [run_succ_of_cons left'', here'', Option.bind_some, Nat.add_right_comm]
          simp only [Meets, further]
          exact inductionHypothesis nexts alone (skipSpace_closes _ nexts.rest)

end PatternState

/-! ## Anchored patterns -/

/-- All of a pattern as one piece, however deep, if no group is left open. -/
def whole? (properties : PropertyTable) (text : List Char) : Option Piece := do
  let final ← PatternState.run properties (text.length + 1) ⟨text, {}, [], [], [], 0, []⟩
  if final.outer.isEmpty then some final.joined else none

section

variable {properties : PropertyTable}

theorem parse?_eq_some_iff {text : List Char} {regex : Regex} :
    parse? properties text = some regex ↔
      ∃ whole, whole? properties text = some whole ∧ whole.depth ≤ depthLimit ∧ whole.regex = regex := by
  simp only [parse?, whole?, Option.bind_eq_bind, Option.bind_eq_some_iff, Option.ite_none_right_eq_some,
    Option.some.injEq]
  constructor
  · rintro ⟨final, ran, ⟨ended, shallow⟩, same⟩
    exact ⟨final.joined, ⟨final, ran, ended, rfl⟩, shallow, same⟩
  · rintro ⟨_, ⟨final, ran, ended, rfl⟩, shallow, same⟩
    exact ⟨final, ran, ⟨ended, shallow⟩, same⟩

theorem whole?_of_run {text : List Char} {result : Option PatternState}
    (ran : PatternState.run properties (text.length + 1) ⟨text, {}, [], [], [], 0, []⟩ = result) :
    whole? properties text =
      result.bind fun final => if final.outer.isEmpty then some final.joined else none := by
  rw [← ran]
  rfl

/-- What is set aside while the group of an anchored pattern is read. -/
def anchorLevel : Level :=
  ⟨none, {}, [.leaf (.look .textStart)], []⟩

theorem run_anchored (source : List Char) :
    PatternState.run properties ((Pattern.anchored source).length + 1)
        ⟨Pattern.anchored source, {}, [], [], [], 0, []⟩ =
      PatternState.run properties (source.length + 1 + 2 + 1)
        ⟨source ++ [')'], {}, [], [], [anchorLevel], 0, []⟩ := by
  have length : (Pattern.anchored source).length + 1 = source.length + 4 + 2 := by
    simp [Pattern.anchored]
  rw [length]
  rfl

/-- A parenthesis behind a pattern belongs to the comment at its end, so that it closes nothing. -/
def HidesParenthesis (properties : PropertyTable) (text : List Char) : Prop :=
  (whole? properties (text ++ [')'])).isSome

instance (text : List Char) : Decidable (HidesParenthesis properties text) :=
  inferInstanceAs (Decidable (_ = true))

/-- The group around a pattern is closed and makes it two levels deeper, unless a comment of the pattern
hides the parenthesis. -/
theorem whole?_anchored {source : List Char} {whole : Piece}
    (complete : whole? properties source = some whole) :
    HidesParenthesis properties source ∧ '#' ∈ source ∧ whole? properties (Pattern.anchored source) = none ∨
      ¬HidesParenthesis properties source ∧ whole? properties (Pattern.anchored source) =
        some ⟨ofParts [.look .textStart, whole.regex], whole.depth + 2, true⟩ := by
  simp only [whole?, Option.bind_eq_bind, Option.bind_eq_some_iff, Option.ite_none_right_eq_some,
    List.isEmpty_iff, Option.some.injEq] at complete
  obtain ⟨final, alone, outer, rfl⟩ := complete
  have closedBy : PatternState.ClosedBy ('#' ∈ source) ⟨source, {}, [], [], [], 0, []⟩
      ⟨source ++ [')'], {}, [], [], [], 0, []⟩ := ⟨.mk, .closed source id⟩
  have length : (source ++ [')']).length + 1 = source.length + 1 + 0 + 1 := by simp
  rcases PatternState.run_meets closedBy alone with ⟨comment, hidden⟩ | seen
  · have closed := hidden [] 0
    have anchored := (run_anchored source).trans (hidden [anchorLevel] 2)
    rw [← length] at closed
    refine .inl ⟨?_, comment, ?_⟩
    · rw [HidesParenthesis, whole?_of_run closed, Option.bind_some, PatternState.around, outer]
      rfl
    · rw [whole?_of_run anchored, Option.bind_some, PatternState.around, outer]
      rfl
  · have closed := seen [] 0
    have anchored := (run_anchored source).trans (seen [anchorLevel] 2)
    rw [← length] at closed
    refine .inr ⟨?_, ?_⟩
    · rw [HidesParenthesis, whole?_of_run closed, PatternState.around, outer]
      exact Bool.false_ne_true
    · have deeper : 1 + max (max 0 (1 + final.joined.depth)) 0 = final.joined.depth + 2 := by omega
      rw [whole?_of_run anchored, PatternState.around, outer, ← deeper]
      rfl

theorem mem_of_hidesParenthesis {source : List Char} {whole : Piece}
    (complete : whole? properties source = some whole) (hides : HidesParenthesis properties source) :
    '#' ∈ source := by
  rcases whole?_anchored complete with ⟨_, comment, _⟩ | ⟨shows, _⟩
  · exact comment
  · exact absurd hides shows

/-- Where a text is a regular expression, the anchored text is one if its group is closed and not too deep:
the first behind a condition on the start of the text. -/
theorem parse?_anchored_iff {source : List Char} {whole : Piece}
    (complete : whole? properties source = some whole) {anchored : Regex} :
    parse? properties (Pattern.anchored source) = some anchored ↔
      ¬HidesParenthesis properties source ∧ whole.depth + 2 ≤ depthLimit ∧
        ofParts [.look .textStart, whole.regex] = anchored := by
  rw [parse?_eq_some_iff]
  rcases whole?_anchored complete with ⟨hides, _, nothing⟩ | ⟨shows, closed⟩
  · simp [hides, nothing]
  · simp [shows, closed]

end

end Regex

/-! ## Compiled patterns -/

namespace Pattern

variable {properties : Regex.PropertyTable} {source : String} {kind : ValueKind} {pattern : Pattern}

/-- What a text needs, besides being an expression, to stand in the group that ties it to the start. -/
structure Anchorable (properties : Regex.PropertyTable) (source : List Char) (alone : Regex) : Prop where
  seen : ¬Regex.HidesParenthesis properties source
  shallow : ∃ whole, Regex.whole? properties source = some whole ∧ whole.depth + 2 ≤ Regex.depthLimit
  fits : (Regex.ofParts [.look .textStart, alone]).fits = true

/-- Why an expression cannot stand in that group. -/
inductive Unanchorable (properties : Regex.PropertyTable) (source : List Char) (alone : Regex) : Prop where
  | hidden (comment : '#' ∈ source) (hides : Regex.HidesParenthesis properties source)
  | deep {whole : Regex.Piece} (complete : Regex.whole? properties source = some whole)
      (deeper : Regex.depthLimit < whole.depth + 2)
  | large (larger : (Regex.ofParts [.look .textStart, alone]).fits = false)

theorem unanchorable_iff {source : List Char} {alone : Regex}
    (accepted : expression? properties source = some alone) :
    Unanchorable properties source alone ↔ ¬Anchorable properties source alone := by
  obtain ⟨whole, complete, _, rfl⟩ :=
    Regex.parse?_eq_some_iff.mp (Option.filter_eq_some_iff.mp accepted).1
  constructor
  · rintro unanchorable ⟨seen, ⟨whole', complete', shallow⟩, fits⟩
    cases unanchorable with
    | hidden _ hides => exact seen hides
    | deep complete deeper =>
        obtain rfl := Option.some.inj (complete.symm.trans complete')
        exact absurd shallow (Nat.not_le_of_lt deeper)
    | large larger => cases larger.symm.trans fits
  · intro fails
    by_cases hides : Regex.HidesParenthesis properties source
    · exact .hidden (Regex.mem_of_hidesParenthesis complete hides) hides
    by_cases shallow : whole.depth + 2 ≤ Regex.depthLimit
    · exact .large (Bool.eq_false_iff.mpr fun fits => fails ⟨hides, ⟨whole, complete, shallow⟩, fits⟩)
    · exact .deep complete (Nat.lt_of_not_le shallow)

theorem expression?_anchored_iff {source : List Char} {alone anchored : Regex}
    (accepted : expression? properties source = some alone) :
    expression? properties (Pattern.anchored source) = some anchored ↔
      Anchorable properties source alone ∧ .ofParts [.look .textStart, alone] = anchored := by
  obtain ⟨whole, complete, _, rfl⟩ :=
    Regex.parse?_eq_some_iff.mp (Option.filter_eq_some_iff.mp accepted).1
  rw [expression?, Option.filter_eq_some_iff, Regex.parse?_anchored_iff complete]
  constructor
  · rintro ⟨⟨seen, shallow, rfl⟩, fits⟩
    exact ⟨⟨seen, ⟨whole, complete, shallow⟩, fits⟩, rfl⟩
  · rintro ⟨⟨seen, ⟨whole', complete', shallow⟩, fits⟩, rfl⟩
    obtain rfl := Option.some.inj (complete.symm.trans complete')
    exact ⟨⟨seen, shallow, rfl⟩, fits⟩

/-- The expression of a compiled pattern is that of its text behind a condition on the start. -/
theorem compile?_eq_some_iff :
    compile? properties source kind = some pattern ↔
      ∃ alone, expression? properties source.toList = some alone ∧ Anchorable properties source.toList alone ∧
        pattern = ⟨source, .ofParts [.look .textStart, alone], kind⟩ := by
  simp only [compile?, Option.bind_eq_bind, Option.bind_eq_some_iff, Option.some.injEq]
  constructor
  · rintro ⟨alone, accepted, anchored, accepted', rfl⟩
    obtain ⟨anchorable, rfl⟩ := (expression?_anchored_iff accepted).mp accepted'
    exact ⟨alone, accepted, anchorable, rfl⟩
  · rintro ⟨alone, accepted, anchorable, rfl⟩
    exact ⟨alone, accepted, _, (expression?_anchored_iff accepted).mpr ⟨anchorable, rfl⟩, rfl⟩

theorem eq_of_compile? (compiled : compile? properties source kind = some pattern) :
    ∃ alone, expression? properties source.toList = some alone ∧
      pattern = ⟨source, .ofParts [.look .textStart, alone], kind⟩ := by
  obtain ⟨alone, accepted, _, same⟩ := compile?_eq_some_iff.mp compiled
  exact ⟨alone, accepted, same⟩

/-- A compiled pattern reads what its text matches at the start, if that stands for a value. -/
theorem read?_eq_some_iff {alone : Regex} {text : List Char} {value : Value} {length : Nat} :
    read? ⟨source, .ofParts [.look .textStart, alone], kind⟩ text = some (value, length) ↔
      ∃ matched, alone.search text = some ⟨[], matched⟩ ∧ kind.convert matched = some value ∧
        length = Text.byteLength matched := by
  simp only [read?, Regex.search_ofParts_textStart, Option.bind_eq_bind, Option.bind_eq_some_iff,
    Option.filter_eq_some_iff, List.isEmpty_iff, Option.some.injEq, Prod.mk.injEq]
  constructor
  · rintro ⟨⟨_, matched⟩, ⟨searched, rfl⟩, _, converted, rfl, rfl⟩
    exact ⟨matched, searched, converted, Nat.zero_add _⟩
  · rintro ⟨matched, searched, converted, rfl⟩
    exact ⟨⟨[], matched⟩, ⟨searched, rfl⟩, value, converted, rfl, Nat.zero_add _⟩

/-- A compiled pattern matches a beginning of the text, and the value is that of this beginning. -/
theorem exists_append_of_read? (compiled : compile? properties source kind = some pattern) {text : List Char}
    {value : Value} {length : Nat} (found : pattern.read? text = some (value, length)) :
    ∃ matched rest, text = matched ++ rest ∧ pattern.regex.search text = some ⟨[], matched⟩ ∧
      kind.convert matched = some value ∧ length = Text.byteLength matched := by
  obtain ⟨alone, _, rfl⟩ := eq_of_compile? compiled
  obtain ⟨matched, searched, converted, rfl⟩ := read?_eq_some_iff.mp found
  obtain ⟨rest, rfl⟩ := Regex.eq_append_of_searchFrom searched
  refine ⟨matched, rest, rfl, ?_, converted, rfl⟩
  rw [Regex.search_ofParts_textStart, searched]
  rfl

end Pattern

end RuleGrammar
