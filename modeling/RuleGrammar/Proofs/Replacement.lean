import RuleGrammar.Proofs.Reading.Depth
import RuleGrammar.Proofs.Registration

/-!
Owns the replacement of rules by others that read the same.

Contract: two kinds of rules read alike if they make the same match of whatever their parts read
(`RuleKind.ReadsAs`). A grammar in which rules are replaced by such that read alike still links, and
every rule reads as before, with the same ids (`Registry.exists_ofRules_of_replaceable`). The case of a
repetition of a fixed number of elements and a sequence of as many copies is settled here.
-/

namespace RuleGrammar

/-! ## Rules that read alike -/

/-- Whatever the parts read, the two kinds of rules make the same match of it. -/
def RuleKind.ReadsAs (kind other : RuleKind RuleId) : Prop :=
  ∀ (read : Read) (text : List Char) (id : RuleId) (start : Nat),
    read.Bounded (Text.byteLength text) →
      readKind read text id start kind = readKind read text id start other

/-- The same rule but for how it is made of its parts. -/
structure Rule.ReadsAs (rule other : LinkedRule) : Prop where
  name : other.name = rule.name
  appliesSkip : other.appliesSkip = rule.appliesSkip
  kind : rule.kind.ReadsAs other.kind

/-- Where the one definition links, the other does under its name, to a rule that reads alike. -/
structure RuleDef.ReplaceableBy (rule other : RuleDef) : Prop where
  name : other.name = rule.name
  links : ∀ find linked, rule.link find = .ok linked →
    ∃ linked', RuleDef.link find other = .ok linked' ∧ linked.ReadsAs linked'

theorem Rule.readsAs_self (rule : LinkedRule) : rule.ReadsAs rule :=
  ⟨rfl, rfl, fun _ _ _ _ _ => rfl⟩

theorem RuleDef.replaceableBy_self (rule : RuleDef) : rule.ReplaceableBy rule :=
  ⟨rfl, fun _ linked links => ⟨linked, links, linked.readsAs_self⟩⟩

/-- Rules are replaced one for one and linked one for one. -/
theorem exists_links_of_replaceable {find : String → Option RuleId} {rules rules' : List RuleDef}
    {linked : List LinkedRule}
    (links : List.Forall₂ (fun rule form => rule.link find = .ok form) rules linked)
    (replaceable : List.Forall₂ RuleDef.ReplaceableBy rules rules') :
    ∃ linked', List.Forall₂ (fun rule form => RuleDef.link find rule = .ok form) rules' linked' ∧
      List.Forall₂ Rule.ReadsAs linked linked' := by
  induction replaceable generalizing linked with
  | nil =>
      cases links
      exact ⟨[], .nil, .nil⟩
  | cons here _ inductionHypothesis =>
      cases links with
      | cons link links =>
          obtain ⟨form, link', alike⟩ := here.links find _ link
          obtain ⟨forms, links', others⟩ := inductionHypothesis links
          exact ⟨form :: forms, .cons link' links', .cons alike others⟩

namespace Registry

/-! ## Registries that read alike -/

/-- Another registry with a rule that reads alike in the place of every rule. -/
structure ReadsAs (registry other : Registry) : Prop where
  rules : List.Forall₂ Rule.ReadsAs registry.rules other.rules
  skip : other.skip = registry.skip
  entry : other.entry = registry.entry

namespace ReadsAs

variable {registry other : Registry}

theorem rule? (alike : registry.ReadsAs other) (id : RuleId) :
    Option.Rel Rule.ReadsAs (registry.rule? id) (other.rule? id) := by
  have here := alike.rules
  unfold Registry.rule?
  generalize registry.rules = rules at here ⊢
  generalize other.rules = rules' at here ⊢
  generalize id.index = index
  induction here generalizing index with
  | nil => exact .none
  | cons first _ inductionHypothesis =>
      cases index with
      | zero => exact .some first
      | succ index => exact inductionHypothesis index

theorem names (alike : registry.ReadsAs other) : other.names = registry.names := by
  have here := alike.rules
  unfold Registry.names
  generalize registry.rules = rules at here ⊢
  generalize other.rules = rules' at here ⊢
  induction here with
  | nil => rfl
  | cons first _ inductionHypothesis =>
      rw [List.map_cons, List.map_cons, first.name, inductionHypothesis]

theorem readWithin (alike : registry.ReadsAs other) (text : List Char) (depth : Nat) :
    other.readWithin text depth = registry.readWithin text depth := by
  induction depth with
  | zero => rfl
  | succ depth inductionHypothesis =>
      funext id start
      unfold Registry.readWithin
      rw [inductionHypothesis]
      have same := alike.rule? id
      generalize registry.rule? id = found at same ⊢
      generalize other.rule? id = found' at same ⊢
      cases same with
      | none => rfl
      | some alike' =>
          simp only [startOf, alike'.appliesSkip, alike.skip]
          split
          next => rfl
          next position _ =>
            exact (alike'.kind _ text id position (registry.readWithin_bounded depth)).symm

/-- Replacing rules by rules that read alike leaves every match as it is. -/
theorem readRule (alike : registry.ReadsAs other) (input : String) (start : Nat) (id : RuleId) :
    other.readRule input start id = registry.readRule input start id := by
  have size : other.depthBound input.toList = registry.depthBound input.toList := by
    rw [depthBound, depthBound, alike.rules.length_eq]
  rw [Registry.readRule, Registry.readRule, size, alike.readWithin]

end ReadsAs

/-! ## Grammars with rules replaced -/

variable {rules rules' : List RuleDef} {registry : Registry}

theorem map_name_of_replaceable (replaceable : List.Forall₂ RuleDef.ReplaceableBy rules rules') :
    rules'.map Rule.name = rules.map Rule.name := by
  induction replaceable with
  | nil => rfl
  | cons here _ inductionHypothesis =>
      rw [List.map_cons, List.map_cons, here.name, inductionHypothesis]

/-- Whether names fit is a matter of the names only. -/
theorem NamesFit.congr {taken : List String} (fit : NamesFit taken rules)
    (names : rules'.map Rule.name = rules.map Rule.name) : NamesFit taken rules' := by
  have found : ∀ rule ∈ rules', ∃ other ∈ rules, other.name = rule.name := by
    intro rule member
    rw [← List.mem_map, ← names]
    exact List.mem_map_of_mem member
  refine ⟨?_, ?_, names ▸ fit.distinct⟩
  · intro rule member
    obtain ⟨other, here, same⟩ := found rule member
    exact same ▸ fit.unreserved other here
  · intro rule member
    obtain ⟨other, here, same⟩ := found rule member
    exact same ▸ fit.fresh other here

/-- A grammar links with rules replaced by such as read alike, and all its rules read as before. -/
theorem exists_ofRules_of_replaceable (built : ofRules rules = .ok registry)
    (replaceable : List.Forall₂ RuleDef.ReplaceableBy rules rules') :
    ∃ other, ofRules rules' = .ok other ∧ registry.ReadsAs other := by
  obtain ⟨all, comprises⟩ := exists_comprises rules
  obtain ⟨all', comprises'⟩ := exists_comprises rules'
  obtain ⟨fit, nonempty, linked⟩ := (ofRules_eq_ok_iff comprises).mp built
  have names := map_name_of_replaceable replaceable
  have each : List.Forall₂ RuleDef.ReplaceableBy all all' :=
    comprises.rel comprises' RuleDef.replaceableBy_self names replaceable
  have same := map_name_of_replaceable each
  obtain ⟨forms, links', alike⟩ := exists_links_of_replaceable linked.links each
  refine ⟨⟨forms, registry.index, registry.skip, registry.entry⟩, ?_, ⟨alike, rfl, rfl⟩⟩
  refine (ofRules_eq_ok_iff comprises').mpr ⟨fit.congr names, ?_, ?_⟩
  · rintro rfl
    exact nonempty (List.map_eq_nil_iff.mp names.symm)
  · have index : registry.index = (registered all').index :=
      linked.index.trans (Registration.index_foldl_enter_congr rfl rfl same.symm)
    have distinct : (forms.map Rule.name).Nodup := by
      rw [map_name_of_links links', same, ← linked.names]
      exact linked.distinct
    exact ⟨links', index, distinct, linked.skip, linked.entry⟩

end Registry

/-! ## Repetitions of a fixed number of elements -/

section

variable {read : Read} {id element : RuleId} {limit start position : Nat} {m : Match RuleId}

/-- Where an element succeeds without moving, it can be read any number of times. -/
theorem readItems_replicate_stalled (here : read element position = some m)
    (success : m.success = true) (stalls : m.stop = position) (count : Nat) :
    readItems read (List.replicate count element) position =
      some (some (List.replicate count m, position)) := by
  induction count with
  | zero => rfl
  | succ count inductionHypothesis =>
      simp only [List.replicate_succ, readItems, here, if_pos success, stalls, inductionHypothesis]

/-- The steps of a repetition that allows a fixed number are the items of that many copies of its
element, unless they are too few. -/
theorem readItems_replicate {repetition : Repetition RuleId} (bounded : read.Bounded limit)
    (alone : repetition.separator = none) (id : RuleId) (count : Nat) {fuel remaining : Nat}
    (enough : limit - position < fuel) :
    readItems read (List.replicate remaining repetition.element) position =
      (readSteps (readStep read repetition id) (count + remaining) (some (count + remaining)) fuel
        position count).map fun found => if found.1.length < remaining then none else some found := by
  induction remaining generalizing fuel position count with
  | zero =>
      cases fuel with
      | zero => omega
      | succ fuel => simp [readItems, readSteps]
  | succ remaining inductionHypothesis =>
      cases fuel with
      | zero => omega
      | succ fuel =>
          have more : (some (count + (remaining + 1))).all (count < ·) = true := by simp
          rw [readSteps, if_pos more]
          simp only [readStep, alone, readElement, List.replicate_succ, readItems]
          cases here : read repetition.element position with
          | none => rfl
          | some m =>
              have bounds := bounded here
              by_cases success : m.success = true
              · simp only [if_pos success, Option.map_some]
                by_cases advances : position < m.stop
                · have rest := inductionHypothesis (count + 1)
                    (show limit - m.stop < fuel by omega)
                  rw [if_pos advances, rest, Nat.add_right_comm count 1 remaining, ← Nat.add_assoc]
                  rcases readSteps _ (count + remaining + 1) _ fuel m.stop (count + 1) with _ | found
                  · rfl
                  · by_cases few : found.1.length < remaining
                    · simp [few]
                    · simp [few]
                · -- The rest of the copies stand still as well.
                  have stalls : m.stop = position := by omega
                  rw [if_neg advances, stalls,
                    readItems_replicate_stalled here success stalls remaining]
                  simp [List.replicate_succ]
              · simp [success]

theorem readRepetition_eq_readSequence {repetition : Repetition RuleId} {fuel count : Nat}
    (bounded : read.Bounded limit) (alone : repetition.separator = none)
    (whole : repetition.collapseSingle = false) (positive : 1 ≤ count)
    (least : repetition.min = count) (most : repetition.max = some count) (enough : limit < fuel) :
    readRepetition read fuel id repetition start =
      readSequence read id (List.replicate count repetition.element) .all start := by
  obtain ⟨others, rfl⟩ : ∃ others, count = 1 + others := ⟨count - 1, by omega⟩
  have allowed : repetition.max ≠ some 0 := by
    rw [most]
    simp
  have steps : ∀ position, readItems read (List.replicate others repetition.element) position = _ :=
    fun position => readItems_replicate bounded alone id 1
      (show limit - position < fuel by omega)
  unfold readRepetition readSequence
  rw [if_neg allowed, Nat.add_comm 1 others, List.replicate_succ, readItems]
  cases here : read repetition.element start with
  | none => rfl
  | some first =>
      simp only [least, most, whole, Bool.false_and, Bool.false_eq_true, if_false, steps]
      by_cases success : first.success = true
      · rw [if_neg (by simp [success]), if_pos success]
        rcases readSteps _ (1 + others) _ fuel first.stop 1 with _ | ⟨items, stop⟩
        · rfl
        · by_cases few : items.length < others
          · have short : items.length + 1 < 1 + others := by omega
            simp [few, short]
          · have full : ¬ items.length + 1 < 1 + others := by omega
            simp [few, full, Shape.build]
      · rw [if_pos (by simp [success]), if_neg success, if_neg (by omega)]

end

/-- A repetition of a fixed number of elements, without separators. -/
def Repetition.exactly {R : Type} (count : Nat) (element : R) (retains : Bool) : Repetition R :=
  { element := element, min := count, max := some count, retainSeparators := retains }

/-- Linking copies of a name gives copies of the id. -/
theorem mapM_replicate_eq_ok {α β ε : Type} {step : α → Except ε β} {input : α} {output : β}
    (here : step input = .ok output) (count : Nat) :
    (List.replicate count input).mapM step = .ok (List.replicate count output) := by
  refine mapM_eq_ok_iff.mpr ?_
  induction count with
  | zero => exact .nil
  | succ count inductionHypothesis => exact .cons here inductionHypothesis

theorem RuleDef.exactly_replaceableBy {name part : String} {appliesSkip retains : Bool} {count : Nat}
    (positive : 1 ≤ count) :
    RuleDef.ReplaceableBy ⟨name, appliesSkip, .repetition (.exactly count part retains)⟩
      ⟨name, appliesSkip, .sequence (List.replicate count part) .all⟩ where
  name := rfl
  links find linked link := by
    obtain ⟨_, linkedName, linkedSkip, relates⟩ := RuleDef.link_eq_ok link
    obtain ⟨id, found, kind⟩ : ∃ id, find part = some id ∧
        linked.kind = .repetition (.exactly count id retains) := by
      generalize linked.kind = kind at relates
      cases relates with
      | @repetition _ id separator element between =>
          cases between
          exact ⟨id, element, rfl⟩
    refine ⟨⟨name, appliesSkip, .sequence (List.replicate count id) .all⟩, ?_,
      linkedName.symm, linkedSkip.symm, ?_⟩
    · simp only [RuleDef.link, RuleDef.fault?, Shape.indices, List.find?_nil, Option.map_none,
        RuleKind.resolve]
      rw [mapM_replicate_eq_ok (show _ = Except.ok id by simp only [found])]
      rfl
    · intro read text id start bounded
      rw [kind]
      exact readRepetition_eq_readSequence bounded rfl rfl positive rfl rfl (Nat.lt_succ_self _)

/-- A repetition of a fixed number of elements reads what the sequence of as many copies of its element
reads: with the one in the place of the other a grammar still links, under the same names and ids, and
every rule gives the same match wherever it gives one, and none where it gives none. -/
theorem Registry.readRule_exactly_eq {before after : List RuleDef} {name part : String}
    {appliesSkip retains : Bool} {count : Nat} {registry : Registry} (positive : 1 ≤ count)
    (built : ofRules (before ++ ⟨name, appliesSkip, .repetition (.exactly count part retains)⟩ :: after)
      = .ok registry) :
    ∃ unrolled, ofRules (before ++
        ⟨name, appliesSkip, .sequence (List.replicate count part) .all⟩ :: after) = .ok unrolled ∧
      unrolled.names = registry.names ∧ unrolled.skip = registry.skip ∧
      unrolled.entry = registry.entry ∧
      ∀ input start id, unrolled.readRule input start id = registry.readRule input start id := by
  have self : ∀ rules : List RuleDef, List.Forall₂ RuleDef.ReplaceableBy rules rules :=
    fun rules => List.forall₂_same.mpr fun rule _ => rule.replaceableBy_self
  obtain ⟨unrolled, built', alike⟩ := exists_ofRules_of_replaceable built
    (List.rel_append (self before)
      (.cons (RuleDef.exactly_replaceableBy positive) (self after)))
  exact ⟨unrolled, built', alike.names, alike.skip, alike.entry, alike.readRule⟩

/-- Two words and a missing one, as a repetition and as a sequence. -/
theorem Registry.readRule_exactly_eq_optionalWords :
    ∃ registry unrolled m,
      ofRules (⟨"main", false, .repetition (.exactly 3 "maybe" true)⟩ :: optionalWords) =
        .ok registry ∧
      ofRules (⟨"main", false, .sequence ["maybe", "maybe", "maybe"] .all⟩ :: optionalWords) =
        .ok unrolled ∧
      registry.readRule "é é!" 0 ⟨8⟩ = some m ∧ unrolled.readRule "é é!" 0 ⟨8⟩ = some m ∧
      m.stop = 5 ∧ m.items?.map List.length = some 3 := by
  obtain ⟨registry, built, read⟩ : ∃ registry,
      ofRules (⟨"main", false, .repetition (.exactly 3 "maybe" true)⟩ :: optionalWords) =
        .ok registry ∧
      (registry.readRule "é é!" 0 ⟨8⟩).map (fun m => (m.stop, m.items?.map List.length)) =
        some (5, some 3) :=
    exists_ok_of_any (by decide +kernel)
  obtain ⟨m, found, shown⟩ := Option.map_eq_some_iff.mp read
  rw [Prod.mk.injEq] at shown
  obtain ⟨unrolled, built', _, _, _, same⟩ :=
    @readRule_exactly_eq [] _ _ _ _ _ _ _ (show 1 ≤ 3 by decide) built
  exact ⟨registry, unrolled, m, built, built', found, (same _ _ _).trans found, shown.1, shown.2⟩

end RuleGrammar
