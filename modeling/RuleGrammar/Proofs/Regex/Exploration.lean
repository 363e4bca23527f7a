import RuleGrammar.Proofs.Regex.Backtracking
import RuleGrammar.Regex.Search

/-!
Owns the agreement of searching with backtracking.

Contract: for expressions without conditions on positions whose repetitions read something in every
round, the ends that a search lists are those that backtracking comes to, each position once
(`Regex.endsAt_follows`). A search visits no point twice. That loses nothing: what has failed once behind a
position fails there again.
-/

namespace RuleGrammar

/-! ## Lists that show the same -/

section

variable {α γ : Type}

/-- Whatever is looked for, both lists have the same to show first. -/
def FindsSame (xs ys : List α) : Prop :=
  ∀ (β : Type) (f : α → Option β), xs.findSome? f = ys.findSome? f

theorem findsSame_self (xs : List α) : FindsSame xs xs :=
  fun _ _ => rfl

theorem FindsSame.symm {xs ys : List α} (same : FindsSame xs ys) : FindsSame ys xs :=
  fun β f => (same β f).symm

theorem FindsSame.trans {xs ys zs : List α} (same : FindsSame xs ys) (same' : FindsSame ys zs) :
    FindsSame xs zs :=
  fun β f => (same β f).trans (same' β f)

theorem FindsSame.head?_eq {xs ys : List α} (same : FindsSame xs ys) : xs.head? = ys.head? := by
  rw [← findSome?_some, ← findSome?_some, same]

theorem FindsSame.flatMap {xs ys : List α} {g h : α → List γ} (same : FindsSame xs ys)
    (sames : ∀ x, FindsSame (g x) (h x)) : FindsSame (xs.flatMap g) (ys.flatMap h) := by
  intro β f
  rw [findSome?_flatMap, findSome?_flatMap, same]
  exact findSome?_congr fun x _ => sames x β f

/-- Lists that show the same have the same elements. -/
theorem FindsSame.mem_iff {xs ys : List α} (same : FindsSame xs ys) (x : α) : x ∈ xs ↔ x ∈ ys := by
  classical
  have shown : ∀ zs : List α, x ∈ zs ↔ (zs.findSome? fun z => if z = x then some () else none) ≠ none := by
    intro zs
    simp [List.findSome?_eq_none_iff]
  rw [shown xs, shown ys, same]

end

/-! ## Cursors in one text -/

namespace Cursor

/-- The second cursor is further on in the same text, or at the same place. -/
def Reaches (cursor stop : Cursor) : Prop :=
  ∃ read, cursor.rest = read ++ stop.rest ∧ stop.index = cursor.index + read.length

variable {cursor middle stop other : Cursor}

theorem reaches_self (cursor : Cursor) : cursor.Reaches cursor :=
  ⟨[], rfl, rfl⟩

theorem Reaches.trans (first : cursor.Reaches middle) (second : middle.Reaches stop) :
    cursor.Reaches stop := by
  obtain ⟨read, text, index⟩ := first
  obtain ⟨more, text', index'⟩ := second
  exact ⟨read ++ more, by rw [text, text', List.append_assoc], by rw [index', index,
    List.length_append, Nat.add_assoc]⟩

/-- The index tells how much is left. -/
theorem Reaches.index_add_length (reaches : cursor.Reaches stop) :
    stop.index + stop.rest.length = cursor.index + cursor.rest.length := by
  obtain ⟨read, text, index⟩ := reaches
  rw [text, index, List.length_append]
  omega

/-- In one text the index tells the position. -/
theorem Reaches.rest_eq (reaches : cursor.Reaches stop) (reaches' : cursor.Reaches other)
    (same : stop.index = other.index) : stop.rest = other.rest := by
  obtain ⟨read, text, index⟩ := reaches
  obtain ⟨read', text', index'⟩ := reaches'
  exact (List.append_inj (text.symm.trans text') (by omega)).2

theorem step?_eq_some {test : Char → Bool} (stepped : cursor.step? test = some stop) :
    ∃ c, cursor.rest = c :: stop.rest ∧ test c = true ∧ stop.index = cursor.index + 1 := by
  unfold step? at stepped
  split at stepped
  next => cases stepped
  next c rest text =>
    split_ifs at stepped with passes
    cases stepped
    exact ⟨c, text, passes, rfl⟩

theorem reaches_of_step? {test : Char → Bool} (stepped : cursor.step? test = some stop) :
    cursor.Reaches stop := by
  obtain ⟨c, text, _, index⟩ := step?_eq_some stepped
  exact ⟨[c], text, index⟩

theorem stepText?_cons (cursor : Cursor) (c : Char) (chars : List Char) :
    cursor.stepText? (c :: chars) = (cursor.step? (· == c)).bind (stepText? · chars) := rfl

theorem stepText?_spec (chars : List Char) (cursor : Cursor) :
    (cursor.stepText? chars).map Cursor.rest = Text.dropPrefix? chars cursor.rest ∧
      ∀ stop ∈ cursor.stepText? chars, cursor.Reaches stop := by
  induction chars generalizing cursor with
  | nil =>
      refine ⟨by rw [Text.dropPrefix?]; rfl, ?_⟩
      rintro _ ⟨rfl⟩
      exact reaches_self cursor
  | cons c chars inductionHypothesis =>
      rw [stepText?_cons]
      cases stepped : cursor.step? (· == c) with
      | none =>
          refine ⟨?_, by simp⟩
          unfold step? at stepped
          cases text : cursor.rest with
          | nil => rfl
          | cons d rest =>
              rw [text] at stepped
              have different : ¬ c = d := by
                rintro rfl
                simp at stepped
              rw [Text.dropPrefix?, if_neg different]
              rfl
      | some next =>
          obtain ⟨d, text, same, _⟩ := step?_eq_some stepped
          obtain rfl := eq_of_beq same
          obtain ⟨left, reaches⟩ := inductionHypothesis next
          rw [text, Text.dropPrefix?, if_pos rfl, ← left]
          exact ⟨rfl, fun stop member => (reaches_of_step? stepped).trans (reaches stop member)⟩

/-! ## The first cursor at each position -/

/-- What is found first by looking behind the cursors of a list, the latest of which comes first. -/
def firstBehind {β : Type} (f : List Char → Option β) (found : List Cursor) : Option β :=
  found.reverse.findSome? fun cursor => f cursor.rest

/-- Another cursor at a position that is held already changes nothing. -/
theorem findSome?_keep {β : Type} {f : Cursor → Option β} {found : List Cursor}
    (alike : ∀ kept ∈ found, kept.index = stop.index → f kept = f stop) :
    (if stop.occursIn found then found else stop :: found).reverse.findSome? f =
      (found.reverse.findSome? f).or (f stop) := by
  split_ifs with occurs
  · obtain ⟨kept, member, same⟩ := List.any_eq_true.mp occurs
    cases first : found.reverse.findSome? f with
    | some => rfl
    | none =>
        have missed := List.findSome?_eq_none_iff.mp first kept (List.mem_reverse.mpr member)
        rw [Option.none_or, ← alike kept member (eq_of_beq same), missed]
  · rw [List.reverse_cons, List.findSome?_append]
    congr 1
    simp [findSome?_cons_or]

theorem firstBehind_keep {β : Type} {f : List Char → Option β} {found : List Cursor}
    (inText : ∀ kept ∈ found, cursor.Reaches kept) (here : cursor.Reaches stop) :
    firstBehind f (if stop.occursIn found then found else stop :: found) =
      (firstBehind f found).or (f stop.rest) :=
  findSome?_keep fun kept member same => congrArg f ((inText kept member).rest_eq here same)

theorem mem_of_mem_keep {found : List Cursor}
    (member : cursor ∈ if stop.occursIn found then found else stop :: found) :
    cursor = stop ∨ cursor ∈ found := by
  split_ifs at member
  · exact .inr member
  · exact List.mem_cons.mp member

theorem mem_of_mem_distinct {cursors : List Cursor} (member : cursor ∈ distinct cursors) :
    cursor ∈ cursors := by
  suffices kept : ∀ found : List Cursor, cursor ∈ cursors.foldl
      (fun kept c => if c.occursIn kept then kept else c :: kept) found →
        cursor ∈ found ∨ cursor ∈ cursors by
    simpa using kept [] (List.mem_reverse.mp member)
  clear member
  induction cursors with
  | nil => exact fun found member => .inl member
  | cons c cursors inductionHypothesis =>
      intro found member
      rcases inductionHypothesis _ member with kept | later
      · rcases mem_of_mem_keep kept with rfl | kept
        · exact .inr List.mem_cons_self
        · exact .inl kept
      · exact .inr (List.mem_cons_of_mem _ later)

/-- What cursors at one position agree on is found behind the first of them. -/
theorem findSome?_distinct {β : Type} {f : Cursor → Option β} {cursors : List Cursor}
    (alike : ∀ c ∈ cursors, ∀ d ∈ cursors, c.index = d.index → f c = f d) :
    (distinct cursors).findSome? f = cursors.findSome? f := by
  suffices first : ∀ found : List Cursor, (∀ kept ∈ found, ∀ c ∈ cursors, kept.index = c.index →
      f kept = f c) →
      (cursors.foldl (fun kept c => if c.occursIn kept then kept else c :: kept) found).reverse.findSome?
        f = (found.reverse.findSome? f).or (cursors.findSome? f) by
    exact (first [] (by simp)).trans rfl
  induction cursors with
  | nil => simp
  | cons c cursors inductionHypothesis =>
      intro found kept
      simp only [List.forall_mem_cons] at alike kept
      rw [List.foldl_cons, inductionHypothesis (fun d member => (alike.2 d member).2),
        findSome?_keep fun d member => (kept d member).1, findSome?_cons_or, Option.or_assoc]
      intro d member
      rcases mem_of_mem_keep member with rfl | member
      · exact alike.1.2
      · exact (kept d member).2

theorem findsSame_distinct {cursors : List Cursor} (inText : ∀ stop ∈ cursors, cursor.Reaches stop) :
    FindsSame ((distinct cursors).map Cursor.rest) (cursors.map Cursor.rest) := by
  intro β f
  rw [List.findSome?_map, List.findSome?_map]
  exact findSome?_distinct fun c here d there same =>
    congrArg f ((inText c here).rest_eq (inText d there) same)

end Cursor

namespace Regex

/-! ## Following backtracking -/

/-- The stops are further on in the text than the cursor, and what they leave shows the same as
backtracking. -/
structure Leaves (cursor : Cursor) (stops : List Cursor) (left : List (List Char)) : Prop where
  reaches : ∀ stop ∈ stops, cursor.Reaches stop
  same : FindsSame (stops.map Cursor.rest) left

/-- From every cursor the ends leave what backtracking leaves of the text there. -/
def Follows (ends : Cursor → List Cursor) (once : List Char → List (List Char)) : Prop :=
  ∀ cursor, Leaves cursor (ends cursor) (once cursor.rest)

section

variable {cursor stop : Cursor} {stops stops' : List Cursor} {left left' : List (List Char)}
  {ends : Cursor → List Cursor} {once : List Char → List (List Char)}

/-- A function of what is left finds the same behind the stops as in backtracking. -/
theorem Leaves.findSome?_eq (leaves : Leaves cursor stops left) {β : Type}
    (f : List Char → Option β) : (stops.findSome? fun stop => f stop.rest) = left.findSome? f := by
  rw [← leaves.same β f, List.findSome?_map]
  rfl

theorem leaves_self (cursor : Cursor) : Leaves cursor [cursor] [cursor.rest] :=
  ⟨by simpa using Cursor.reaches_self cursor, fun _ _ => rfl⟩

/-- Stops of which only the first at each position are kept. -/
theorem Leaves.distinct (leaves : Leaves cursor stops left) :
    Leaves cursor (Cursor.distinct stops) left where
  reaches stop member := leaves.reaches stop (Cursor.mem_of_mem_distinct member)
  same β f := by rw [Cursor.findsSame_distinct leaves.reaches β f, leaves.same β f]

theorem Leaves.append (leaves : Leaves cursor stops left) (leaves' : Leaves cursor stops' left') :
    Leaves cursor (stops ++ stops') (left ++ left') where
  reaches stop member := (List.mem_append.mp member).elim (leaves.reaches stop) (leaves'.reaches stop)
  same β f := by
    rw [List.map_append, List.findSome?_append, List.findSome?_append, leaves.same β f,
      leaves'.same β f]

theorem Leaves.flatMap (leaves : Leaves cursor stops left) (follows : Follows ends once) :
    Leaves cursor (stops.flatMap ends) (left.flatMap once) where
  reaches stop member := by
    obtain ⟨middle, here, there⟩ := List.mem_flatMap.mp member
    exact (leaves.reaches middle here).trans ((follows middle).reaches stop there)
  same β f := by
    rw [List.findSome?_map, findSome?_flatMap, findSome?_flatMap, ← leaves.findSome?_eq]
    exact findSome?_congr fun middle _ => (follows middle).findSome?_eq f

theorem Leaves.length_lt (leaves : Leaves cursor stops (once cursor.rest))
    (shorter : ∀ {text rest : List Char}, rest ∈ once text → rest.length < text.length)
    (member : stop ∈ stops) :
    stop.rest.length < cursor.rest.length ∧ cursor.index < stop.index := by
  have kept : stop.rest ∈ stops.map Cursor.rest := List.mem_map_of_mem member
  have less := shorter ((leaves.same.mem_iff _).mp kept)
  have total := (leaves.reaches stop member).index_add_length
  omega

end

/-! ## Exploring -/

/-- A point that an exploration can come to from a position, `limit` telling how many rounds are
allowed before each. -/
structure Between.Reached (origin : Cursor) (limit : Nat → Option Nat) (point : Between) : Prop where
  reaches : origin.Reaches point.cursor
  allowed : point.allowed = limit point.round

/-- What backtracking can leave behind a point. -/
def Between.remainders (once : List Char → List (List Char)) (greedy : Bool) (point : Between) :
    List (List Char) :=
  furtherRounds once greedy (point.allowed.getD point.cursor.rest.length) point.cursor.rest

section

variable {round : Nat → Cursor → List Cursor} {once : List Char → List (List Char)} {place : Place}
  {greedy : Bool} {origin cursor : Cursor} {limit : Nat → Option Nat} {point : Between}
  {trail : Trail} {base fuel : Nat} {β : Type} {f : List Char → Option β}

theorem findSome?_remainders_of_ended (ended : point.allowed = some 0) :
    (point.remainders once greedy).findSome? f = f point.cursor.rest := by
  rw [Between.remainders, ended, Option.getD_some, furtherRounds, findSome?_cons_or]
  exact Option.or_none

/-- What is found behind a point is found behind those that follow, or at the point itself. -/
theorem findSome?_remainders (follows : ∀ i, Follows (round i) once)
    (shorter : ∀ {text rest : List Char}, rest ∈ once text → rest.length < text.length)
    (more : point.allowed ≠ some 0) :
    (point.remainders once greedy).findSome? f =
      let further := (point.next round).findSome? fun next => (next.remainders once greedy).findSome? f
      if greedy then further.or (f point.cursor.rest) else (f point.cursor.rest).or further := by
  cases allowed : point.allowed with
  | none =>
      have rounds : point.remainders once greedy =
          furtherRounds once greedy (point.cursor.rest.length + 1) point.cursor.rest := by
        rw [Between.remainders, allowed]
        exact furtherRounds_eq shorter (Nat.le_refl _) (Nat.le_succ _)
      have further : (once point.cursor.rest).findSome? (fun rest =>
            (furtherRounds once greedy point.cursor.rest.length rest).findSome? f) =
          (point.next round).findSome? fun next => (next.remainders once greedy).findSome? f := by
        rw [Between.next, allowed, List.findSome?_map]
        have enough : ∀ rest ∈ once point.cursor.rest,
            (furtherRounds once greedy point.cursor.rest.length rest).findSome? f =
              (furtherRounds once greedy rest.length rest).findSome? f := by
          intro rest member
          rw [furtherRounds_eq shorter (Nat.le_of_lt (shorter member)) (Nat.le_refl _)]
        rw [findSome?_congr enough, ← (follows point.round point.cursor).findSome?_eq]
        rfl
      rw [rounds, findSome?_furtherRounds_succ, further]
  | some allowed' =>
      obtain ⟨count, rfl⟩ := Nat.exists_eq_succ_of_ne_zero (fun none => more (none ▸ allowed))
      have further : (once point.cursor.rest).findSome? (fun rest =>
            (furtherRounds once greedy count rest).findSome? f) =
          (point.next round).findSome? fun next => (next.remainders once greedy).findSome? f := by
        rw [Between.next, allowed, List.findSome?_map, ← (follows point.round point.cursor).findSome?_eq]
        rfl
      rw [Between.remainders, allowed, Option.getD_some, findSome?_furtherRounds_succ, further]

/-- Every point after one more round is further on, and reached too. -/
theorem Between.Reached.next (reached : point.Reached origin limit)
    (follows : ∀ i, Follows (round i) once)
    (shorter : ∀ {text rest : List Char}, rest ∈ once text → rest.length < text.length)
    (counts : ∀ i allowed, limit i = some allowed → limit (i + 1) = some (allowed - 1))
    {next : Between} (member : next ∈ point.next round) :
    next.Reached origin limit ∧ next.cursor.rest.length < point.cursor.rest.length ∧
      point.cursor.index < next.cursor.index := by
  cases allowed : point.allowed with
  | none =>
      rw [Between.next, allowed] at member
      obtain ⟨stop, here, rfl⟩ := List.mem_map.mp member
      refine ⟨⟨reached.reaches.trans ((follows _ _).reaches stop here), ?_⟩,
        (follows _ _).length_lt shorter here⟩
      exact allowed.symm.trans reached.allowed
  | some count =>
      rw [Between.next, allowed] at member
      obtain ⟨stop, here, rfl⟩ := List.mem_map.mp member
      refine ⟨⟨reached.reaches.trans ((follows _ _).reaches stop here), ?_⟩,
        (follows _ _).length_lt shorter here⟩
      exact (counts _ _ (reached.allowed.symm.trans allowed)).symm

/-! ### What a trail knows -/

/-- Ends found are in the text. As long as none of them will do, backtracking finds nothing behind the
points from `base` on that have been visited. -/
structure Trail.Knows (once : List Char → List (List Char)) (greedy : Bool) (origin : Cursor)
    (limit : Nat → Option Nat) (f : List Char → Option β) (base : Nat) (trail : Trail) : Prop where
  found : ∀ stop ∈ trail.found, origin.Reaches stop
  failed : Cursor.firstBehind f trail.found = none → ∀ point : Between,
    point.Reached origin limit → base ≤ point.cursor.index →
    trail.visited.contains (point.round, point.cursor.index) = true →
    (point.remainders once greedy).findSome? f = none

theorem Trail.Knows.mono {base' : Nat} (knows : trail.Knows once greedy origin limit f base)
    (less : base ≤ base') : trail.Knows once greedy origin limit f base' :=
  ⟨knows.found, fun none point reached later => knows.failed none point reached (Nat.le_trans less later)⟩

theorem visited_find (trail : Trail) (cursor : Cursor) :
    (trail.find cursor).visited = trail.visited := by
  unfold Trail.find
  split_ifs <;> rfl

theorem found_find (trail : Trail) (cursor : Cursor) :
    (trail.find cursor).found =
      if cursor.occursIn trail.found then trail.found else cursor :: trail.found := by
  unfold Trail.find
  split_ifs <;> rfl

theorem contains_insert_iff (visited : Visited) (key key' : Nat × Nat) :
    (visited.insert key).contains key' = true ↔ key = key' ∨ visited.contains key' = true := by
  have equal : compareLex (compareOn Prod.fst) (compareOn Prod.snd) key key' = .eq ↔ key = key' := by
    simp [compareLex, compareOn, Ordering.then_eq_eq, Prod.ext_iff]
  rw [Std.TreeSet.contains_insert, Bool.or_eq_true, beq_iff_eq, equal]

/-- What a step of an exploration makes of a trail, where `outcome` is what is found behind the points
explored. -/
structure Explores (once : List Char → List (List Char)) (greedy : Bool) (origin : Cursor)
    (limit : Nat → Option Nat) (f : List Char → Option β) (base : Nat) (trail after : Trail)
    (outcome : Option β) : Prop where
  knows : after.Knows once greedy origin limit f base
  first : Cursor.firstBehind f after.found = (Cursor.firstBehind f trail.found).or outcome
  visited : ∀ key, after.visited.contains key = true →
    trail.visited.contains key = true ∨ base ≤ key.2

theorem Trail.Knows.find (knows : trail.Knows once greedy origin limit f base)
    (reaches : origin.Reaches cursor) :
    Explores once greedy origin limit f base trail (trail.find cursor) (f cursor.rest) := by
  have first : Cursor.firstBehind f (trail.find cursor).found =
      (Cursor.firstBehind f trail.found).or (f cursor.rest) := by
    rw [found_find, Cursor.firstBehind_keep knows.found reaches]
  refine ⟨⟨?_, ?_⟩, first, fun key held => .inl (visited_find trail cursor ▸ held)⟩
  · intro stop member
    rw [found_find] at member
    rcases Cursor.mem_of_mem_keep member with rfl | member
    · exact reaches
    · exact knows.found stop member
  · intro none point reached later held
    rw [first, Option.or_eq_none_iff] at none
    exact knows.failed none.1 point reached later (visited_find trail cursor ▸ held)

theorem Explores.trans {middle after : Trail} {outcome outcome' : Option β}
    (before : Explores once greedy origin limit f base trail middle outcome)
    (behind : Explores once greedy origin limit f base middle after outcome') :
    Explores once greedy origin limit f base trail after (outcome.or outcome') where
  knows := behind.knows
  first := by rw [behind.first, before.first, Option.or_assoc]
  visited key held := (behind.visited key held).elim (before.visited key) .inr

/-- A point that has just been visited says nothing about the points behind it. -/
theorem Trail.Knows.insert (knows : trail.Knows once greedy origin limit f base)
    (later : base ≤ point.cursor.index) :
    Trail.Knows once greedy origin limit f (point.cursor.index + 1)
      { trail with visited := trail.visited.insert (point.round, point.cursor.index) } := by
  refine ⟨knows.found, fun none other reached' later' held => ?_⟩
  rcases (contains_insert_iff _ _ _).mp held with same | held
  · have index := (Prod.mk.inj same).2
    omega
  · exact knows.failed none other reached' (by omega) held

theorem Trail.Knows.foldl {visit : Trail → Between → Trail} {outcome : Between → Option β}
    {points : List Between} (knows : trail.Knows once greedy origin limit f base)
    (visits : ∀ point ∈ points, ∀ trail : Trail, trail.Knows once greedy origin limit f base →
      Explores once greedy origin limit f base trail (visit trail point) (outcome point)) :
    Explores once greedy origin limit f base trail (points.foldl visit trail)
      (points.findSome? outcome) := by
  induction points generalizing trail with
  | nil => exact ⟨knows, by simp, fun _ held => .inl held⟩
  | cons point points inductionHypothesis =>
      rw [List.forall_mem_cons] at visits
      have here := visits.1 trail knows
      rw [List.foldl_cons, findSome?_cons_or]
      exact here.trans (inductionHypothesis here.knows visits.2)

/-- A point with all that lies beyond it is done with: if nothing has been found, there is nothing. -/
theorem Explores.close {after : Trail} (reached : point.Reached origin limit)
    (knows : trail.Knows once greedy origin limit f base) (later : base ≤ point.cursor.index)
    (beyond : Explores once greedy origin limit f (point.cursor.index + 1)
      { trail with visited := trail.visited.insert (point.round, point.cursor.index) } after
      ((point.remainders once greedy).findSome? f)) :
    Explores once greedy origin limit f base trail after
      ((point.remainders once greedy).findSome? f) := by
  have split : ∀ key, after.visited.contains key = true → point.cursor.index + 1 ≤ key.2 ∨
      (point.round, point.cursor.index) = key ∨ trail.visited.contains key = true := by
    intro key held
    rcases beyond.visited key held with held | further
    · exact .inr ((contains_insert_iff _ _ _).mp held)
    · exact .inl further
  refine ⟨⟨beyond.knows.found, ?_⟩, beyond.first, ?_⟩
  · intro none other reached' later' held
    rcases split _ held with further | same | held
    · exact beyond.knows.failed none other reached' further held
    · -- The same round at the same index is the same point, as far as the text goes.
      obtain ⟨round, index⟩ := Prod.mk.inj same
      have rest := reached.reaches.rest_eq reached'.reaches index
      have allowed : point.allowed = other.allowed := by
        rw [reached.allowed, reached'.allowed, round]
      rw [beyond.first, Option.or_eq_none_iff] at none
      rw [Between.remainders, ← allowed, ← rest]
      exact none.2
    · rw [beyond.first, Option.or_eq_none_iff] at none
      exact knows.failed none.1 other reached' later' held
  · intro key held
    rcases split key held with further | rfl | held
    · exact .inr (by omega)
    · exact .inr later
    · exact .inl held

/-- Exploring a point finds what backtracking finds behind it. -/
theorem explore_explores (follows : ∀ i, Follows (round i) once)
    (shorter : ∀ {text rest : List Char}, rest ∈ once text → rest.length < text.length)
    (counts : ∀ i allowed, limit i = some allowed → limit (i + 1) = some (allowed - 1))
    (single : place.looped = false) (reached : point.Reached origin limit)
    (enough : point.cursor.rest.length < fuel) (later : base ≤ point.cursor.index)
    (knows : trail.Knows once greedy origin limit f base) :
    Explores once greedy origin limit f base trail (explore round place greedy fuel trail point)
      ((point.remainders once greedy).findSome? f) := by
  induction fuel generalizing point trail base with
  | zero => omega
  | succ fuel inductionHypothesis =>
      rw [explore]
      by_cases ended : point.allowed = some 0
      · rw [if_pos ended, findSome?_remainders_of_ended ended]
        exact knows.find reached.reaches
      rw [if_neg ended]
      have chosen : point.cursor.choose? (place.inner point.round) = some point.cursor := by
        simp [Cursor.choose?, Place.inner, single]
      rw [chosen]
      simp only
      have inserted := knows.insert later
      have onward : ∀ next ∈ point.next round, ∀ trail : Trail,
          trail.Knows once greedy origin limit f (point.cursor.index + 1) →
          Explores once greedy origin limit f (point.cursor.index + 1) trail
            (explore round place greedy fuel trail next)
            ((next.remainders once greedy).findSome? f) := by
        intro next member trail knows
        obtain ⟨reached', less, beyond⟩ := reached.next follows shorter counts member
        exact inductionHypothesis reached' (by omega) (by omega) knows
      have unrolled : (point.remainders once greedy).findSome? f = _ :=
        findSome?_remainders follows shorter ended
      by_cases held : trail.visited.contains (point.round, point.cursor.index) = true
      · -- It has been visited before, so what could be found there would have been found.
        rw [if_pos held]
        refine ⟨knows, ?_, fun _ held => .inl held⟩
        cases first : Cursor.firstBehind f trail.found with
        | some => rfl
        | none => rw [knows.failed first point reached later held]; rfl
      · rw [if_neg held]
        refine Explores.close reached knows later ?_
        rw [unrolled]
        cases greedy with
        | true =>
            have further := inserted.foldl onward
            exact further.trans (further.knows.find reached.reaches)
        | false =>
            have here := inserted.find reached.reaches
            exact here.trans (here.knows.foldl onward)

/-- Further rounds behind any stops, at most so many as are allowed. -/
theorem Leaves.exploreAll {stops : List Cursor} {left : List (List Char)}
    (before : Leaves cursor stops left) (follows : ∀ i, Follows (round i) once)
    (shorter : ∀ {text rest : List Char}, rest ∈ once text → rest.length < text.length)
    (single : place.looped = false) (greedy : Bool) (first : Nat) (allowed : Option Nat) :
    Leaves cursor
      (exploreAll round place greedy (cursor.rest.length + 2) (stops.map (Between.mk first allowed)))
      (left.flatMap fun rest => furtherRounds once greedy (allowed.getD rest.length) rest) := by
  have explores : ∀ (β : Type) (f : List Char → Option β),
      Explores once greedy cursor (fun i => allowed.map (· + first - i)) f 0 ⟨{}, []⟩
        ((stops.map (Between.mk first allowed)).foldl
          (explore round place greedy (cursor.rest.length + 2)) ⟨{}, []⟩)
        ((stops.map (Between.mk first allowed)).findSome? fun point =>
          (point.remainders once greedy).findSome? f) := by
    intro β f
    refine Trail.Knows.foldl ⟨by simp, fun _ _ _ _ held => by simp at held⟩ ?_
    intro point member trail knows
    obtain ⟨stop, here, rfl⟩ := List.mem_map.mp member
    have reaches := before.reaches stop here
    refine explore_explores follows shorter ?_ single ⟨reaches, ?_⟩ ?_ (Nat.zero_le _) knows
    · intro i count limit
      obtain ⟨count', same, rfl⟩ := Option.map_eq_some_iff.mp limit
      rw [same, Option.map_some, Nat.sub_sub]
    · simp
    · have total := reaches.index_add_length
      obtain ⟨read, _, index⟩ := reaches
      show stop.rest.length < cursor.rest.length + 2
      omega
  constructor
  · intro stop member
    exact (explores Unit fun _ => none).knows.found stop (List.mem_reverse.mp member)
  · intro β f
    rw [List.findSome?_map, findSome?_flatMap, ← before.findSome?_eq]
    refine (explores β f).first.trans ?_
    rw [List.findSome?_map]
    rfl

theorem rounds_nil (count first : Nat) : rounds round count first [] = [] := by
  cases count <;> rfl

theorem rounds_succ (count first : Nat) (cursors : List Cursor) :
    rounds round (count + 1) first cursors =
      rounds round count (first + 1) (Cursor.distinct (cursors.flatMap (round first))) := by
  cases cursors with
  | nil => exact (rounds_nil count (first + 1)).symm
  | cons _ _ => rfl

/-- Required rounds behind any stops. -/
theorem Leaves.rounds {stops : List Cursor} {left : List (List Char)}
    (before : Leaves cursor stops left) (follows : ∀ i, Follows (round i) once) (count first : Nat) :
    Leaves cursor (rounds round count first stops) (left.flatMap (requiredRounds once count)) := by
  induction count generalizing stops left first with
  | zero => simpa [Regex.rounds, requiredRounds] using before
  | succ count inductionHypothesis =>
      have here := (before.flatMap (follows first)).distinct
      simpa only [rounds_succ, requiredRounds, List.flatMap_assoc] using
        inductionHypothesis here (first + 1)

/-- A repetition whose rounds read something. -/
theorem follows_repeated (follows : ∀ i, Follows (round i) once)
    (shorter : ∀ {text rest : List Char}, rest ∈ once text → rest.length < text.length)
    (single : place.looped = false) (min : Nat) (max : Option Nat) :
    Follows (repeated round place greedy true min max)
      (fun text => (requiredRounds once min text).flatMap fun rest =>
        furtherRounds once greedy ((max.map (· - min)).getD rest.length) rest) := by
  intro cursor
  have required : ∀ count, Leaves cursor (rounds round count 0 [cursor])
      (requiredRounds once count cursor.rest) := fun count => by
    simpa using (leaves_self cursor).rounds follows count 0
  cases max with
  | some max =>
      have cut := (required min).exploreAll follows shorter single greedy min
        (some (Nat.min (max - min) (cursor.rest.length + 1)))
      have enough : ∀ rest ∈ requiredRounds once min cursor.rest,
          furtherRounds once greedy (Nat.min (max - min) (cursor.rest.length + 1)) rest =
            furtherRounds once greedy (max - min) rest := by
        intro rest member
        have less : rest.length + min * 0 ≤ cursor.rest.length :=
          length_of_mem_requiredRounds (fun member => Nat.le_of_lt (shorter member)) member
        by_cases few : max - min ≤ cursor.rest.length + 1
        · rw [show Nat.min (max - min) (cursor.rest.length + 1) = max - min from Nat.min_eq_left few]
        · refine furtherRounds_eq shorter ?_ (by omega)
          rw [show Nat.min (max - min) (cursor.rest.length + 1) = cursor.rest.length + 1 from
            Nat.min_eq_right (by omega)]
          omega
      refine ⟨cut.reaches, fun β f => (cut.same β f).trans ?_⟩
      exact congrArg (List.findSome? f) (List.flatMap_congr enough)
  | none =>
      cases min with
      | zero =>
          have further := (leaves_self cursor).exploreAll follows shorter single greedy 0 none
          exact further
      | succ min =>
          exact (required (min + 1)).exploreAll follows shorter single greedy min none

end

/-- The ends of an expression are what backtracking comes to, each position once, if it sets no
conditions on positions and its repetitions read something in every round. -/
theorem endsAt_follows {regex : Regex} (plain : regex.isPlain = true) {place : Place}
    (single : place.looped = false) : Follows (endsAt regex place) regex.remainders := by
  have inside : ∀ {place : Place} (i : Nat), place.looped = false → (place.inner i).looped = false :=
    fun _ single => single
  induction regex generalizing place with
  | empty => exact leaves_self
  | literal chars =>
      intro cursor
      obtain ⟨left, reaches⟩ := Cursor.stepText?_spec chars cursor
      refine ⟨fun stop member => reaches stop (Option.mem_toList.mp member), fun β f => ?_⟩
      rw [remainders, ← left, endsAt]
      cases cursor.stepText? chars <;> rfl
  | oneOf set =>
      intro cursor
      refine ⟨fun stop member => Cursor.reaches_of_step? (Option.mem_toList.mp member), fun β f => ?_⟩
      rw [endsAt, Cursor.step?]
      cases cursor.rest with
      | nil => rfl
      | cons c rest =>
          simp only [remainders]
          split_ifs <;> rfl
  | look => cases plain
  | group _ body inductionHypothesis => exact inductionHypothesis plain single
  | cat first second firstFollows secondFollows =>
      obtain ⟨plainFirst, plainSecond⟩ := Bool.and_eq_true_iff.mp plain
      intro cursor
      have here := firstFollows plainFirst (inside 0 single) cursor
      exact (here.flatMap (secondFollows plainSecond (inside 1 single))).distinct
  | alt preferred other preferredFollows otherFollows =>
      obtain ⟨plainPreferred, plainOther⟩ := Bool.and_eq_true_iff.mp plain
      intro cursor
      have here := preferredFollows plainPreferred (inside 0 single) cursor
      have there := otherFollows plainOther (inside 1 single) cursor
      have chosen : cursor.choose? place = some cursor := by simp [Cursor.choose?, single]
      rw [endsAt, chosen]
      exact (here.append there).distinct
  | times body min max greedy inductionHypothesis =>
      obtain ⟨consuming, plainBody⟩ := Bool.and_eq_true_iff.mp plain
      intro cursor
      have alone : roundsPlace place body max = place := by simp [roundsPlace, consuming]
      rw [endsAt, alone, consuming]
      exact follows_repeated
        (fun i => inductionHypothesis plainBody (inside i (inside 0 single)))
        (length_lt_of_isConsuming consuming) single min max cursor

end Regex

end RuleGrammar
