import Mathlib.Data.List.Forall2
import RuleGrammar.Proofs.Regex.Exploration

/-!
Owns that it does not matter to what a part of an expression matches where in the expression it stands.

Contract: a place matters only to which choices have been made there. So at a place where none has been
made, an expression has the ends that it has by itself (`Regex.map_bare_endsAt`), concatenations may be
grouped in any way (`Regex.findsSame_stops_ofParts`), and a condition on the start of the text in front of
an expression leaves it the matches that begin there (`Regex.search_ofParts_textStart`).
-/

namespace RuleGrammar

/-! ## Cursors without their choices -/

namespace Cursor

/-- The cursor with no choices made. -/
def bare (cursor : Cursor) : Cursor :=
  { cursor with choices := [] }

/-- The second cursor is further on in the same text, or at the same place, with the right character
before it. -/
def Precedes (cursor stop : Cursor) : Prop :=
  ∃ read, cursor.rest = read ++ stop.rest ∧ stop.index = cursor.index + read.length ∧
    stop.before = read.getLast?.or cursor.before

variable {cursor middle stop other : Cursor}

theorem precedes_self (cursor : Cursor) : cursor.Precedes cursor :=
  ⟨[], rfl, rfl, rfl⟩

theorem Precedes.trans (first : cursor.Precedes middle) (second : middle.Precedes stop) :
    cursor.Precedes stop := by
  obtain ⟨read, text, index, before⟩ := first
  obtain ⟨more, text', index', before'⟩ := second
  refine ⟨read ++ more, by rw [text, text', List.append_assoc], ?_, ?_⟩
  · rw [index', index, List.length_append, Nat.add_assoc]
  · rw [before', before, List.getLast?_append, Option.or_assoc]

/-- In one text the index tells everything but the choices. -/
theorem Precedes.bare_eq (precedes : cursor.Precedes stop) (precedes' : cursor.Precedes other)
    (same : stop.index = other.index) : stop.bare = other.bare := by
  obtain ⟨read, text, index, before⟩ := precedes
  obtain ⟨read', text', index', before'⟩ := precedes'
  obtain ⟨rfl, rests⟩ := List.append_inj (text.symm.trans text') (by omega)
  rw [bare, bare, same, rests, before, before']

end Cursor

/-! ## The same at two places -/

/-- Places that stand beside each other, and cursors that a match cannot tell apart at them. -/
structure Correspondence (beside : Place → Place → Prop) (alike : Cursor → Cursor → Prop) : Prop where
  inner : ∀ {place place'}, beside place place' →
    ∀ step, beside (place.inner step) (place'.inner step)
  loop : ∀ {place place'}, beside place place' → beside place.loop place'.loop
  bare : ∀ {cursor cursor'}, alike cursor cursor' → cursor.bare = cursor'.bare
  step : ∀ {cursor cursor' c rest}, alike cursor cursor' → cursor.rest = c :: rest →
    alike ⟨cursor.index + 1, some c, rest, []⟩ ⟨cursor.index + 1, some c, rest, []⟩
  choose : ∀ {place place' cursor cursor'}, beside place place' → alike cursor cursor' →
    Option.Rel alike (cursor.choose? place) (cursor'.choose? place')

namespace Correspondence

variable {beside : Place → Place → Prop} {alike : Cursor → Cursor → Prop}
  {place place' : Place} {cursor cursor' : Cursor} {cursors cursors' : List Cursor}

section

variable (corresponds : Correspondence beside alike)

include corresponds

theorem index_eq (same : alike cursor cursor') : cursor.index = cursor'.index :=
  (Cursor.mk.inj (corresponds.bare same)).1

theorem before_eq (same : alike cursor cursor') : cursor.before = cursor'.before :=
  (Cursor.mk.inj (corresponds.bare same)).2.1

theorem rest_eq (same : alike cursor cursor') : cursor.rest = cursor'.rest :=
  (Cursor.mk.inj (corresponds.bare same)).2.2.1

theorem holds_eq (same : alike cursor cursor') (condition : Look) :
    cursor.holds condition = cursor'.holds condition := by
  cases condition <;>
    simp only [Cursor.holds, Cursor.beginsLine, Cursor.endsLine, corresponds.before_eq same,
      corresponds.rest_eq same]

theorem step? (same : alike cursor cursor') (test : Char → Bool) :
    Option.Rel alike (cursor.step? test) (cursor'.step? test) := by
  rw [Cursor.step?, Cursor.step?, ← corresponds.rest_eq same, ← corresponds.index_eq same]
  cases text : cursor.rest with
  | nil => exact .none
  | cons c rest =>
      simp only
      split_ifs
      · exact .some (corresponds.step same text)
      · exact .none

theorem stepText? (same : alike cursor cursor') (chars : List Char) :
    Option.Rel alike (cursor.stepText? chars) (cursor'.stepText? chars) := by
  induction chars generalizing cursor cursor' with
  | nil => exact .some same
  | cons c chars inductionHypothesis =>
      rw [Cursor.stepText?_cons, Cursor.stepText?_cons]
      have stepped := corresponds.step? same (· == c)
      generalize cursor.step? (· == c) = next at stepped ⊢
      generalize cursor'.step? (· == c) = next' at stepped ⊢
      cases stepped with
      | none => exact .none
      | some next => exact inductionHypothesis next

theorem occursIn_eq {kept kept' : List Cursor} (same : alike cursor cursor')
    (kepts : List.Forall₂ alike kept kept') : cursor.occursIn kept = cursor'.occursIn kept' := by
  rw [Cursor.occursIn, Cursor.occursIn]
  induction kepts with
  | nil => rfl
  | cons here _ inductionHypothesis =>
      rw [List.any_cons, List.any_cons, inductionHypothesis, corresponds.index_eq here,
        corresponds.index_eq same]

theorem keep {kept kept' : List Cursor} (same : alike cursor cursor')
    (kepts : List.Forall₂ alike kept kept') :
    List.Forall₂ alike (if cursor.occursIn kept then kept else cursor :: kept)
      (if cursor'.occursIn kept' then kept' else cursor' :: kept') := by
  rw [corresponds.occursIn_eq same kepts]
  split_ifs
  · exact kepts
  · exact .cons same kepts

theorem distinct (all : List.Forall₂ alike cursors cursors') :
    List.Forall₂ alike (Cursor.distinct cursors) (Cursor.distinct cursors') := by
  rw [Cursor.distinct, Cursor.distinct, List.forall₂_reverse_iff]
  exact List.rel_foldl (P := List.Forall₂ alike) (R := alike)
    (fun _ _ kepts _ _ same => corresponds.keep same kepts) .nil all

end

/-- From alike cursors, the ends are alike. -/
def Respects (alike : Cursor → Cursor → Prop) (ends ends' : Cursor → List Cursor) : Prop :=
  ∀ cursor cursor', alike cursor cursor' → List.Forall₂ alike (ends cursor) (ends' cursor')

theorem flatMap {ends ends' : Cursor → List Cursor} (all : List.Forall₂ alike cursors cursors')
    (respects : Respects alike ends ends') :
    List.Forall₂ alike (cursors.flatMap ends) (cursors'.flatMap ends') :=
  List.rel_flatMap all fun _ _ same => respects _ _ same

/-- Points between the same rounds, at alike cursors. -/
inductive Points (alike : Cursor → Cursor → Prop) : Regex.Between → Regex.Between → Prop where
  | mk {cursor cursor' : Cursor} (round : Nat) (allowed : Option Nat) :
      alike cursor cursor' → Points alike ⟨round, allowed, cursor⟩ ⟨round, allowed, cursor'⟩

theorem points_of_cursors (all : List.Forall₂ alike cursors cursors') (round : Nat)
    (allowed : Option Nat) :
    List.Forall₂ (Points alike) (cursors.map (⟨round, allowed, ·⟩))
      (cursors'.map (⟨round, allowed, ·⟩)) := by
  rw [List.forall₂_map_left_iff, List.forall₂_map_right_iff]
  exact all.imp fun _ _ same => .mk round allowed same

/-- The same points visited, and alike ends found. -/
structure Trails (alike : Cursor → Cursor → Prop) (trail trail' : Regex.Trail) : Prop where
  visited : trail.visited = trail'.visited
  found : List.Forall₂ alike trail.found trail'.found

section

variable {round round' : Nat → Cursor → List Cursor} {trail trail' : Regex.Trail}
  {point point' : Regex.Between}

theorem Points.next (respects : ∀ i, Respects alike (round i) (round' i))
    (points : Points alike point point') :
    List.Forall₂ (Points alike) (point.next round) (point'.next round') := by
  obtain ⟨i, allowed, same⟩ := points
  cases allowed with
  | none => exact points_of_cursors (respects i _ _ same) i none
  | some allowed => exact points_of_cursors (respects i _ _ same) (i + 1) (some (allowed - 1))

variable (corresponds : Correspondence beside alike)
  (respects : ∀ i, Respects alike (round i) (round' i))

include corresponds

theorem find (trails : Trails alike trail trail') (same : alike cursor cursor') :
    Trails alike (trail.find cursor) (trail'.find cursor') := by
  refine ⟨?_, ?_⟩
  · rw [Regex.visited_find, Regex.visited_find, trails.visited]
  · rw [Regex.found_find, Regex.found_find]
    exact corresponds.keep same trails.found

include respects

theorem rounds (all : List.Forall₂ alike cursors cursors') (count first : Nat) :
    List.Forall₂ alike (Regex.rounds round count first cursors)
      (Regex.rounds round' count first cursors') := by
  induction count generalizing first cursors cursors' with
  | zero => exact all
  | succ count inductionHypothesis =>
      rw [Regex.rounds_succ, Regex.rounds_succ]
      exact inductionHypothesis (corresponds.distinct (flatMap all (respects first))) _

theorem explore (places : beside place place') (greedy : Bool) (fuel : Nat)
    (trails : Trails alike trail trail') (points : Points alike point point') :
    Trails alike (Regex.explore round place greedy fuel trail point)
      (Regex.explore round' place' greedy fuel trail' point') := by
  induction fuel generalizing trail trail' point point' with
  | zero => exact trails
  | succ fuel inductionHypothesis =>
      have onward : ∀ {points points' : List Regex.Between} {trail trail' : Regex.Trail},
          List.Forall₂ (Points alike) points points' → Trails alike trail trail' →
          Trails alike (points.foldl (Regex.explore round place greedy fuel) trail)
            (points'.foldl (Regex.explore round' place' greedy fuel) trail') := by
        intro points points' trail trail' all trails
        exact List.rel_foldl (P := Trails alike) (R := Points alike)
          (fun _ _ trails _ _ here => inductionHypothesis trails here) trails all
      obtain ⟨i, allowed, same⟩ := points
      rw [Regex.explore, Regex.explore]
      by_cases ended : allowed = some 0
      · rw [if_pos ended, if_pos ended]
        exact corresponds.find trails same
      rw [if_neg ended, if_neg ended]
      -- Points are visited by index, so both explorations turn back at the same ones.
      simp only [← corresponds.index_eq same, ← trails.visited]
      have chosen := corresponds.choose (corresponds.inner places i) same
      generalize Cursor.choose? _ (place.inner i) = next at chosen ⊢
      generalize Cursor.choose? _ (place'.inner i) = next' at chosen ⊢
      cases chosen with
      | none => exact trails
      | some same =>
          have further := (Points.mk i allowed same).next respects
          simp only
          split_ifs
          · exact trails
          · exact corresponds.find (onward further ⟨rfl, trails.found⟩) same
          · exact onward further (corresponds.find ⟨rfl, trails.found⟩ same)

theorem exploreAll (places : beside place place') (greedy : Bool) (fuel : Nat)
    {points points' : List Regex.Between} (all : List.Forall₂ (Points alike) points points') :
    List.Forall₂ alike (Regex.exploreAll round place greedy fuel points)
      (Regex.exploreAll round' place' greedy fuel points') := by
  have begun : Trails alike ⟨{}, []⟩ ⟨{}, []⟩ := ⟨rfl, .nil⟩
  rw [Regex.exploreAll, Regex.exploreAll, List.forall₂_reverse_iff]
  have explored := List.rel_foldl (P := Trails alike) (R := Points alike)
    (fun _ _ trails _ _ here => corresponds.explore respects places greedy fuel trails here) begun all
  exact explored.found

theorem anyRounds (places : beside place place') (greedy : Bool) (fuel : Nat)
    (same : alike cursor cursor') :
    List.Forall₂ alike (Regex.anyRounds round place greedy fuel cursor)
      (Regex.anyRounds round' place' greedy fuel cursor') := by
  rw [Regex.anyRounds, Regex.anyRounds]
  have chosen := corresponds.choose (corresponds.inner places 1) same
  generalize cursor.choose? (place.inner 1) = next at chosen ⊢
  generalize cursor'.choose? (place'.inner 1) = next' at chosen ⊢
  cases chosen with
  | none => exact .nil
  | some same =>
      have begun := corresponds.exploreAll respects places greedy fuel
        (points_of_cursors (respects 0 _ _ same) 0 none)
      apply corresponds.distinct
      split_ifs
      · exact List.rel_append begun (.cons same .nil)
      · exact .cons same begun

theorem repeated (places : beside place place') (greedy consuming : Bool) (min : Nat) (max : Option Nat)
    (same : alike cursor cursor') :
    List.Forall₂ alike (Regex.repeated round place greedy consuming min max cursor)
      (Regex.repeated round' place' greedy consuming min max cursor') := by
  have required : ∀ count, List.Forall₂ alike (Regex.rounds round count 0 [cursor])
      (Regex.rounds round' count 0 [cursor']) := fun count =>
    corresponds.rounds respects (.cons same .nil) count 0
  cases max with
  | some max =>
      simp only [Regex.repeated, ← corresponds.rest_eq same]
      exact corresponds.exploreAll respects places greedy _ (points_of_cursors (required min) _ _)
  | none =>
      cases min with
      | zero =>
          simp only [Regex.repeated, ← corresponds.rest_eq same]
          split_ifs
          · exact corresponds.exploreAll respects places greedy _ (.cons (.mk 0 none same) .nil)
          · exact corresponds.anyRounds respects places greedy _ same
      | succ min =>
          simp only [Regex.repeated, ← corresponds.rest_eq same]
          exact corresponds.exploreAll respects places greedy _ (points_of_cursors (required _) _ _)

end

theorem forall₂_toList {stop stop' : Option Cursor} (stops : Option.Rel alike stop stop') :
    List.Forall₂ alike stop.toList stop'.toList := by
  cases stops with
  | none => exact .nil
  | some same => exact .cons same .nil

/-- At places beside each other, an expression has alike ends. -/
theorem endsAt (corresponds : Correspondence beside alike) (regex : Regex)
    (places : beside place place') :
    Respects alike (regex.endsAt place) (regex.endsAt place') := by
  induction regex generalizing place place' with
  | empty => exact fun _ _ same => .cons same .nil
  | literal chars =>
      intro cursor cursor' same
      exact forall₂_toList (corresponds.stepText? same chars)
  | oneOf set =>
      intro cursor cursor' same
      exact forall₂_toList (corresponds.step? same set.contains)
  | look condition =>
      intro cursor cursor' same
      rw [Regex.endsAt, Regex.endsAt, corresponds.holds_eq same]
      split_ifs
      · exact .cons same .nil
      · exact .nil
  | group _ body inductionHypothesis => exact inductionHypothesis places
  | cat first second inFirst inSecond =>
      intro cursor cursor' same
      rw [Regex.endsAt, Regex.endsAt]
      exact corresponds.distinct (flatMap (inFirst (corresponds.inner places 0) _ _ same)
        (inSecond (corresponds.inner places 1)))
  | alt preferred other inPreferred inOther =>
      intro cursor cursor' same
      have chosen := corresponds.choose places same
      rw [Regex.endsAt, Regex.endsAt]
      generalize cursor.choose? place = next at chosen ⊢
      generalize cursor'.choose? place' = next' at chosen ⊢
      cases chosen with
      | none => exact .nil
      | some same =>
          exact corresponds.distinct (List.rel_append
            (inPreferred (corresponds.inner places 0) _ _ same)
            (inOther (corresponds.inner places 1) _ _ same))
  | times body min max greedy inductionHypothesis =>
      intro cursor cursor' same
      have around : beside (Regex.roundsPlace place body max) (Regex.roundsPlace place' body max) := by
        rw [Regex.roundsPlace, Regex.roundsPlace]
        split_ifs
        · exact corresponds.loop places
        · exact places
      rw [Regex.endsAt, Regex.endsAt]
      exact corresponds.repeated
        (fun i => inductionHypothesis (corresponds.inner (corresponds.inner around 0) i))
        around greedy body.isConsuming min max same

end Correspondence

/-! ## A place where nothing has been chosen -/

/-- The places below two paths, the same way down from each. -/
inductive Place.Below (path path' : List Nat) : Place → Place → Prop where
  | mk (way : List Nat) (looped : Bool) : Below path path' ⟨way ++ path, looped⟩ ⟨way ++ path', looped⟩

/-- Cursors behind `origin` that differ in their choices at most: those that the first has made below
`path`, the second has made below `path'`, and the other choices of the first were made earlier. -/
structure Cursor.Alike (origin : Cursor) (path path' : List Nat) (cursor cursor' : Cursor) : Prop where
  bare : cursor.bare = cursor'.bare
  precedes : origin.Precedes cursor
  choices : ∀ way, way ++ path ∈ cursor.choices ↔ way ++ path' ∈ cursor'.choices
  earlier : ∀ choice ∈ cursor.choices, choice ∈ origin.choices ∨ path <:+ choice

theorem Cursor.Alike.step {origin cursor cursor' : Cursor} {path path' : List Nat} {c : Char}
    {rest : List Char} (alike : Alike origin path path' cursor cursor')
    (next : cursor.rest = c :: rest) :
    Alike origin path path' ⟨cursor.index + 1, some c, rest, []⟩
      ⟨cursor.index + 1, some c, rest, []⟩ :=
  ⟨rfl, alike.precedes.trans ⟨[c], next, rfl, rfl⟩, by simp, by simp⟩

theorem correspondence_below (origin : Cursor) (path path' : List Nat) :
    Correspondence (Place.Below path path') (Cursor.Alike origin path path') where
  inner := by
    rintro _ _ ⟨way, looped⟩ step
    exact .mk (step :: way) looped
  loop := by
    rintro _ _ ⟨way, _⟩
    exact .mk way true
  bare alike := alike.bare
  step := Cursor.Alike.step
  choose := by
    rintro _ _ cursor cursor' ⟨way, looped⟩ alike
    rw [Cursor.choose?, Cursor.choose?]
    simp only [List.contains_iff_mem, alike.choices way]
    split_ifs
    · exact .some alike
    · exact .none
    · refine .some ⟨alike.bare, alike.precedes, fun way' => ?_, fun choice member => ?_⟩
      · simp only [List.mem_cons, List.append_cancel_right_eq, alike.choices way']
      · rcases List.mem_cons.mp member with rfl | member
        · exact .inr (List.suffix_append way path)
        · exact alike.earlier choice member

namespace Regex

/-- The ends of an expression by itself, without the choices made on the way. -/
def stops (regex : Regex) (cursor : Cursor) : List Cursor :=
  (ends regex cursor.bare).map Cursor.bare

theorem forall₂_endsAt (regex : Regex) {place : Place} {cursor : Cursor} (single : place.looped = false)
    (fresh : ∀ choice ∈ cursor.choices, ¬place.path <:+ choice) :
    List.Forall₂ (Cursor.Alike cursor place.path []) (endsAt regex place cursor)
      (ends regex cursor.bare) := by
  obtain ⟨path, looped⟩ := place
  obtain rfl : looped = false := single
  refine (correspondence_below cursor path []).endsAt regex (.mk [] false) _ _ ?_
  refine ⟨rfl, Cursor.precedes_self cursor, fun way => ?_, fun choice member => .inl member⟩
  exact iff_of_false (fun member => fresh _ member (List.suffix_append way path)) (by simp [Cursor.bare])

/-- Where no choice has been made below a place, the ends there are those of the expression by itself. -/
theorem map_bare_endsAt (regex : Regex) {place : Place} {cursor : Cursor} (single : place.looped = false)
    (fresh : ∀ choice ∈ cursor.choices, ¬place.path <:+ choice) :
    (endsAt regex place cursor).map Cursor.bare = regex.stops cursor := by
  rw [stops, ← List.forall₂_eq_eq_eq, List.forall₂_map_left_iff, List.forall₂_map_right_iff]
  exact (forall₂_endsAt regex single fresh).imp fun _ _ alike => alike.bare

/-! ## Stops -/

section

variable {regex : Regex} {place : Place} {cursor stop : Cursor}

theorem unchosen_bare (cursor : Cursor) (path : List Nat) :
    ∀ choice ∈ cursor.bare.choices, ¬path <:+ choice :=
  nofun

/-- What is known of an end, at a place where no choice has been made. -/
theorem precedes_of_mem_endsAt (single : place.looped = false)
    (fresh : ∀ choice ∈ cursor.choices, ¬place.path <:+ choice)
    (member : stop ∈ endsAt regex place cursor) :
    cursor.Precedes stop ∧ ∀ choice ∈ stop.choices, choice ∈ cursor.choices ∨ place.path <:+ choice := by
  have alike := (forall₂_endsAt regex single fresh).imp fun _ _ alike =>
    And.intro (And.intro alike.precedes alike.earlier) alike
  exact ((List.forall₂_and_left _ _).mp alike).1 stop member

theorem bare_of_mem_stops (member : stop ∈ regex.stops cursor) : stop.bare = stop := by
  obtain ⟨_, _, rfl⟩ := List.mem_map.mp member
  rfl

theorem precedes_of_mem_stops (member : stop ∈ regex.stops cursor) : cursor.Precedes stop := by
  obtain ⟨here, found, rfl⟩ := List.mem_map.mp member
  exact (precedes_of_mem_endsAt rfl (unchosen_bare cursor _) found).1

theorem map_bare_distinct (cursors : List Cursor) :
    (Cursor.distinct cursors).map Cursor.bare = Cursor.distinct (cursors.map Cursor.bare) := by
  have occurs : ∀ (cursor : Cursor) (kept : List Cursor),
      cursor.bare.occursIn (kept.map Cursor.bare) = cursor.occursIn kept := by
    intro cursor kept
    rw [Cursor.occursIn, List.any_map]
    rfl
  rw [Cursor.distinct, Cursor.distinct, List.map_reverse, List.foldl_map]
  refine congrArg List.reverse (List.foldl_hom (List.map Cursor.bare) fun kept cursor => ?_).symm
  rw [occurs]
  split_ifs <;> rfl

/-- Nothing that is chosen on the way to a stop of the first part bears on the second. -/
theorem stops_cat (first second : Regex) (cursor : Cursor) :
    (cat first second).stops cursor =
      Cursor.distinct ((first.stops cursor).flatMap second.stops) := by
  have apart : ∀ stop ∈ endsAt first (Place.root.inner 0) cursor.bare,
      (endsAt second (Place.root.inner 1) stop).map Cursor.bare = second.stops stop.bare := by
    intro stop member
    refine map_bare_endsAt second rfl fun choice chosen below => ?_
    have made := (precedes_of_mem_endsAt rfl (unchosen_bare cursor _) member).2 choice chosen
    have firsts : [0] <:+ choice := made.resolve_left (by simp [Cursor.bare])
    obtain ⟨way, rfl⟩ := firsts
    obtain ⟨way', same⟩ := below
    exact absurd (List.append_inj' same rfl).2 (by decide)
  have here : (endsAt first (Place.root.inner 0) cursor.bare).map Cursor.bare = first.stops cursor :=
    map_bare_endsAt first rfl (unchosen_bare cursor _)
  rw [stops, ends, endsAt, map_bare_distinct, List.map_flatMap, List.flatMap_congr apart, ← here,
    List.flatMap_map]

theorem findsSame_distinct_stops (cursor : Cursor) {cursors : List Cursor}
    (stops : ∀ stop ∈ cursors, cursor.Precedes stop ∧ stop.bare = stop) :
    FindsSame (Cursor.distinct cursors) cursors := by
  intro β f
  refine Cursor.findSome?_distinct fun c here d there same => ?_
  have bares := (stops c here).1.bare_eq (stops d there).1 same
  rw [← (stops c here).2, bares, (stops d there).2]

/-- The parts of a concatenation stop one after the other. -/
theorem findsSame_stops_cat (first second : Regex) (cursor : Cursor) :
    FindsSame ((cat first second).stops cursor) ((first.stops cursor).flatMap second.stops) := by
  rw [stops_cat]
  refine findsSame_distinct_stops cursor fun stop member => ?_
  obtain ⟨middle, here, there⟩ := List.mem_flatMap.mp member
  exact ⟨(precedes_of_mem_stops here).trans (precedes_of_mem_stops there), bare_of_mem_stops there⟩

/-- Where expressions one after the other may stop. -/
def stopsOfParts : List Regex → Cursor → List Cursor
  | [], cursor => [cursor.bare]
  | part :: parts, cursor => (part.stops cursor).flatMap (stopsOfParts parts)

theorem stopsOfParts_bare (parts : List Regex) (cursor : Cursor) :
    stopsOfParts parts cursor.bare = stopsOfParts parts cursor := by
  cases parts <;> rfl

theorem flatMap_bare_stops (regex : Regex) (cursor : Cursor) :
    (regex.stops cursor).flatMap (fun stop => [stop.bare]) = regex.stops cursor := by
  rw [List.flatMap_congr fun stop member => congrArg (fun stop => [stop]) (bare_of_mem_stops member)]
  exact List.flatMap_singleton' _

theorem findsSame_stopsOfParts_partsBefore (regex : Regex) (later : List Regex) (cursor : Cursor) :
    FindsSame (stopsOfParts (regex.partsBefore later) cursor)
      ((regex.stops cursor).flatMap (stopsOfParts later)) := by
  induction regex generalizing later cursor with
  | cat first second inFirst _ =>
      have apart : (first.stops cursor).flatMap (stopsOfParts (second :: later)) =
          ((first.stops cursor).flatMap second.stops).flatMap (stopsOfParts later) :=
        List.flatMap_assoc.symm
      refine (inFirst (second :: later) cursor).trans ?_
      rw [apart]
      exact (findsSame_stops_cat first second cursor).symm.flatMap fun _ => findsSame_self _
  | empty | literal | oneOf | look | group | alt | times => exact findsSame_self _

theorem stopsOfParts_append (parts later : List Regex) (cursor : Cursor) :
    stopsOfParts (parts ++ later) cursor =
      (stopsOfParts parts cursor).flatMap (stopsOfParts later) := by
  induction parts generalizing cursor with
  | nil => exact ((List.flatMap_singleton _ _).trans (stopsOfParts_bare later cursor)).symm
  | cons part parts inductionHypothesis =>
      rw [List.cons_append, stopsOfParts, stopsOfParts, List.flatMap_assoc]
      exact List.flatMap_congr fun stop _ => inductionHypothesis stop

theorem stops_literal_append (chars more : List Char) (cursor : Cursor) :
    (literal (chars ++ more)).stops cursor =
      ((literal chars).stops cursor).flatMap (literal more).stops := by
  have steps : cursor.bare.stepText? (chars ++ more) =
      (cursor.bare.stepText? chars).bind (Cursor.stepText? · more) := List.foldlM_append
  simp only [stops, ends, endsAt, steps]
  cases cursor.bare.stepText? chars with
  | none => rfl
  | some middle =>
      rw [Option.bind_some, Option.toList_some, List.map_singleton, List.flatMap_singleton]
      cases more <;> rfl

/-- Texts that come together stop as one. -/
theorem stopsOfParts_joinPart (part : Regex) (parts : List Regex) (cursor : Cursor) :
    stopsOfParts (joinPart part parts) cursor = stopsOfParts (part :: parts) cursor := by
  unfold joinPart
  split
  · have self : stops .empty cursor = [cursor.bare] := rfl
    rw [stopsOfParts, self, List.flatMap_singleton, stopsOfParts_bare]
  · rw [stopsOfParts, stops_literal_append, List.flatMap_assoc]
    rfl
  · rfl

theorem stopsOfParts_foldr_joinPart (parts : List Regex) :
    stopsOfParts (parts.foldr joinPart []) = stopsOfParts parts := by
  induction parts with
  | nil => rfl
  | cons part parts inductionHypothesis =>
      funext cursor
      rw [List.foldr_cons, stopsOfParts_joinPart, stopsOfParts, inductionHypothesis, stopsOfParts]

theorem findsSame_stops_foldl_cat (first : Regex) (others : List Regex) (cursor : Cursor) :
    FindsSame ((others.foldl cat first).stops cursor) (stopsOfParts (first :: others) cursor) := by
  induction others generalizing first with
  | nil =>
      rw [stopsOfParts]
      exact (flatMap_bare_stops first cursor).symm ▸ findsSame_self _
  | cons other others inductionHypothesis =>
      have apart : stopsOfParts (first :: other :: others) cursor =
          ((first.stops cursor).flatMap other.stops).flatMap (stopsOfParts others) :=
        List.flatMap_assoc.symm
      refine (inductionHypothesis (cat first other)).trans ?_
      rw [apart]
      exact (findsSame_stops_cat first other cursor).flatMap fun _ => findsSame_self _

theorem findsSame_stopsOfParts_flatMap_parts (expressions : List Regex) (cursor : Cursor) :
    FindsSame (stopsOfParts (expressions.flatMap parts) cursor) (stopsOfParts expressions cursor) := by
  induction expressions generalizing cursor with
  | nil => exact findsSame_self _
  | cons regex others inductionHypothesis =>
      rw [List.flatMap_cons, stopsOfParts_append, stopsOfParts]
      have here := findsSame_stopsOfParts_partsBefore regex [] cursor
      rw [show stopsOfParts [] = fun stop => [stop.bare] from rfl, flatMap_bare_stops] at here
      exact here.flatMap inductionHypothesis

/-- Expressions put together one after the other stop one after the other. -/
theorem findsSame_stops_ofParts (expressions : List Regex) (cursor : Cursor) :
    FindsSame ((ofParts expressions).stops cursor) (stopsOfParts expressions cursor) := by
  refine FindsSame.trans ?_ (findsSame_stopsOfParts_flatMap_parts expressions cursor)
  rw [← stopsOfParts_foldr_joinPart, ofParts]
  cases (expressions.flatMap parts).foldr joinPart [] with
  | nil => exact findsSame_self _
  | cons first others => exact findsSame_stops_foldl_cat first others cursor

end

/-! ## Search from the start -/

section

variable (regex : Regex) (text : List Char)

theorem head?_ends_start (before : Option Char) :
    (ends regex (Cursor.start before text)).head?.map Cursor.index =
      (regex.stops (Cursor.start before text)).head?.map Cursor.index := by
  have bare : (Cursor.start before text).bare = Cursor.start before text := rfl
  rw [stops, bare, List.head?_map, Option.map_map]
  rfl

/-- Behind a condition on the start of the text, an expression stops where it does by itself if the text
starts here, and nowhere if it does not. -/
theorem index_head?_behind_start (before : Option Char) :
    (ends (ofParts [.look .textStart, regex]) (Cursor.start before text)).head?.map Cursor.index =
      if before.isNone then (ends regex (Cursor.start before text)).head?.map Cursor.index else none := by
  have parts : stopsOfParts [.look .textStart, regex] (Cursor.start before text) =
      if before.isNone then regex.stops (Cursor.start before text) else [] := by
    rw [stopsOfParts]
    have behind : stopsOfParts [regex] = regex.stops := funext fun cursor => flatMap_bare_stops regex cursor
    have here : (look .textStart).stops (Cursor.start before text) =
        if before.isNone then [Cursor.start before text] else [] := by
      cases before <;> rfl
    rw [behind, here]
    split_ifs
    · exact List.flatMap_singleton _ _
    · rfl
  rw [head?_ends_start, (findsSame_stops_ofParts _ _).head?_eq, parts]
  split_ifs
  · rw [head?_ends_start]
  · rfl

theorem ends_behind_start (c : Char) :
    ends (ofParts [.look .textStart, regex]) (Cursor.start (some c) text) = [] :=
  List.head?_eq_none_iff.mp
    (Option.map_eq_none_iff.mp (index_head?_behind_start regex text (some c)))

theorem searchFrom_behind_start (c : Char) :
    searchFrom (ofParts [.look .textStart, regex]) (some c) text = none := by
  induction text generalizing c with
  | nil => rw [searchFrom, ends_behind_start, List.head?_nil, Option.map_none]
  | cons d text inductionHypothesis =>
      rw [searchFrom, ends_behind_start, List.head?_nil]
      exact congrArg (Option.map _) (inductionHypothesis d)

/-- A match that begins at the start of the text is the preferred one there. -/
theorem filter_search :
    (search regex text).filter (·.skipped.isEmpty) =
      ((ends regex (Cursor.start none text)).head?.map Cursor.index).map
        fun index => ⟨[], text.take index⟩ := by
  cases text with
  | nil =>
      rw [search, searchFrom]
      cases (ends regex (Cursor.start none [])).head? <;> simp
  | cons c text =>
      rw [search, searchFrom]
      cases (ends regex (Cursor.start none (c :: text))).head? with
      | some stop => rfl
      | none =>
          simp only [Option.map_none, Option.filter_eq_none_iff, Option.map_eq_some_iff]
          rintro _ ⟨_, _, rfl⟩
          exact Bool.false_ne_true

/-- Behind a condition on the start of the text, a search tries the start alone. -/
theorem search_behind_start :
    search (ofParts [.look .textStart, regex]) text =
      ((ends regex (Cursor.start none text)).head?.map Cursor.index).map
        fun index => ⟨[], text.take index⟩ := by
  have first : (ends (ofParts [.look .textStart, regex]) (Cursor.start none text)).head?.map
      Cursor.index = (ends regex (Cursor.start none text)).head?.map Cursor.index :=
    index_head?_behind_start regex text none
  rw [← first]
  cases text with
  | nil =>
      rw [search, searchFrom]
      cases (ends _ (Cursor.start none [])).head? <;> simp
  | cons c text =>
      rw [search, searchFrom, searchFrom_behind_start]
      cases (ends _ (Cursor.start none (c :: text))).head? <;> rfl

/-- A condition on the start of the text in front leaves the matches that begin there, as they are. -/
theorem search_ofParts_textStart :
    search (ofParts [.look .textStart, regex]) text =
      (search regex text).filter (·.skipped.isEmpty) :=
  (search_behind_start regex text).trans (filter_search regex text).symm

end

end Regex

end RuleGrammar
