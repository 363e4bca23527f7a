import RuleGrammar.Proofs.Presentation

/-!
Owns the independence of recognition from skippable text in front of a rule.

Rules made of rules do not skip anything themselves, so that two reads of one rule from two offsets in
the same skippable text are not equal. They run abreast: each cursor of the one is where that of the
other is, or neither has left its own start. Leaves bring the cursors together, since both begin
behind the skippable text; and a repetition may make one more step in the run that starts earlier,
which changes neither whether there are enough of them nor where they end.
-/

namespace RuleGrammar

/-! ## Cursors of two runs -/

/-- Of two runs, both are at the same offset or each is still where it began. -/
def Abreast (start start' : Nat) (position position' : Nat) : Prop :=
  position = position' ∨ (position = start ∧ position' = start')

/-- Matches of the same rule from two starts: both succeed or both fail, and they end abreast. -/
def Match.Alike (start start' : Nat) (m m' : Match RuleId) : Prop :=
  m.success = m'.success ∧ Abreast start start' m.stop m'.stop

/-- Every rule reads alike from two starts, where it gives a match from both. -/
def Read.AlikeFrom (start start' : Nat) (read : Read) : Prop :=
  ∀ ⦃id m m'⦄, read id start = some m → read id start' = some m' → m.Alike start start' m'

/-- Every other rule than that for skippable text reads text only behind skippable text. -/
def Registry.SkipsBeforeLeaves (registry : Registry) : Prop :=
  ∀ id rule, registry.rule? id = some rule → rule.kind.isLeaf = true → id ≠ registry.skip →
    rule.appliesSkip = true

section

variable {read : Read} {id : RuleId} {start start' position position' limit : Nat}
  {m m' : Match RuleId}

theorem Match.alike_own (success : m.success = m'.success) (stop : m.stop = start)
    (stop' : m'.stop = start') : m.Alike start start' m' :=
  ⟨success, .inr ⟨stop, stop'⟩⟩

theorem Match.alike_self (m : Match RuleId) : m.Alike start start' m :=
  ⟨rfl, .inl rfl⟩

/-- From cursors abreast, every rule reads alike. -/
theorem Read.AlikeFrom.abreast (alike : read.AlikeFrom start start')
    (cursors : Abreast start start' position position') (here : read id position = some m)
    (there : read id position' = some m') : m.Alike start start' m' := by
  rcases cursors with rfl | ⟨rfl, rfl⟩
  · rw [here, Option.some.injEq] at there
    subst there
    exact m.alike_self
  · exact alike here there

/-! ## Sequences, choices and options -/

/-- The items of a sequence are all read from both starts, or from neither. -/
theorem readItems_abreast {items : List RuleId}
    {found found' : Option (List (Match RuleId) × Nat)} (alike : read.AlikeFrom start start')
    (cursors : Abreast start start' position position')
    (here : readItems read items position = some found)
    (there : readItems read items position' = some found') :
    Option.Rel (fun found found' => Abreast start start' found.2 found'.2) found found' := by
  induction items generalizing position position' found found' with
  | nil =>
      cases here
      cases there
      exact .some cursors
  | cons item items inductionHypothesis =>
      rw [readItems_cons_eq, Option.bind_eq_some_iff] at here there
      obtain ⟨m, first, here⟩ := here
      obtain ⟨m', first', there⟩ := there
      obtain ⟨success, ends⟩ := alike.abreast cursors first first'
      rw [← success] at there
      by_cases succeeds : m.success = true
      · rw [if_pos succeeds, Option.map_eq_some_iff] at here there
        obtain ⟨rest, further, rfl⟩ := here
        obtain ⟨rest', further', rfl⟩ := there
        cases inductionHypothesis ends further further' with
        | none => exact .none
        | some stops => exact .some stops
      · rw [if_neg succeeds] at here there
        cases here
        cases there
        exact .none

theorem readSequence_alike {items : List RuleId} {shape : Shape}
    (alike : read.AlikeFrom start start')
    (addressed : ∀ index ∈ shape.indices, index < items.length)
    (here : readSequence read id items shape start = some m)
    (there : readSequence read id items shape start' = some m') : m.Alike start start' m' := by
  have built : ∀ {start} {children : List (Match RuleId)} {stop : Nat},
      readItems read items start = some (some (children, stop)) →
      (shape.build id ⟨start, stop⟩ children).success = true ∧
        (shape.build id ⟨start, stop⟩ children).stop = stop := by
    intro start children stop found
    refine Prod.mk.inj (Shape.build_outcome ?_)
    rw [(readItems_itemsRead found).length_eq]
    exact addressed
  rw [readSequence_eq, Option.map_eq_some_iff] at here there
  obtain ⟨found, read, rfl⟩ := here
  obtain ⟨found', read', rfl⟩ := there
  cases readItems_abreast alike (.inr ⟨rfl, rfl⟩) read read' with
  | none => exact Match.alike_own rfl rfl rfl
  | @some found found' stops =>
      obtain ⟨success, stop⟩ := built read
      obtain ⟨success', stop'⟩ := built read'
      refine ⟨success.trans success'.symm, ?_⟩
      rw [Option.elim_some, Option.elim_some, stop, stop']
      exact stops

theorem readChoice_alike {options : List RuleId} (alike : read.AlikeFrom start start')
    (here : readChoice read id options start = some m)
    (there : readChoice read id options start' = some m') : m.Alike start start' m' := by
  induction options with
  | nil =>
      cases here
      cases there
      exact Match.alike_own rfl rfl rfl
  | cons option options inductionHypothesis =>
      rw [readChoice_cons_eq, Option.bind_eq_some_iff] at here there
      obtain ⟨n, first, here⟩ := here
      obtain ⟨n', first', there⟩ := there
      have both := alike first first'
      rw [← both.1] at there
      by_cases succeeds : n.success = true
      · rw [if_pos succeeds] at here there
        cases here
        cases there
        exact both
      · rw [if_neg succeeds] at here there
        exact inductionHypothesis here there

theorem readOptional_alike {inner : RuleId} (alike : read.AlikeFrom start start')
    (here : readOptional read id inner start = some m)
    (there : readOptional read id inner start' = some m') : m.Alike start start' m' := by
  obtain ⟨n, first, rfl⟩ := Option.map_eq_some_iff.mp here
  obtain ⟨n', first', rfl⟩ := Option.map_eq_some_iff.mp there
  have both := alike first first'
  rw [← both.1]
  by_cases succeeds : n.success = true
  · rw [if_pos succeeds, if_pos succeeds]
    exact both
  · rw [if_neg succeeds, if_neg succeeds]
    exact Match.alike_own rfl rfl rfl

/-! ## Repetitions -/

theorem readElement_abreast {element : RuleId} {found found' : Option (Match RuleId)}
    (alike : read.AlikeFrom start start') (cursors : Abreast start start' position position')
    (here : readElement read element position = some found)
    (there : readElement read element position' = some found') :
    Option.Rel (fun m m' => Abreast start start' m.stop m'.stop) found found' := by
  obtain ⟨m, first, rfl⟩ := Option.map_eq_some_iff.mp here
  obtain ⟨m', first', rfl⟩ := Option.map_eq_some_iff.mp there
  obtain ⟨success, ends⟩ := alike.abreast cursors first first'
  rw [← success]
  by_cases succeeds : m.success = true
  · rw [if_pos succeeds, if_pos succeeds]
    exact .some ends
  · rw [if_neg succeeds, if_neg succeeds]
    exact .none

theorem readStep_abreast {repetition : Repetition RuleId} {found found' : Option (Match RuleId)}
    (alike : read.AlikeFrom start start')
    (here : readStep read repetition id start = some found)
    (there : readStep read repetition id start' = some found') :
    Option.Rel (fun m m' => Abreast start start' m.stop m'.stop) found found' := by
  cases between : repetition.separator with
  | none =>
      unfold readStep at here there
      simp only [between] at here there
      exact readElement_abreast alike (.inr ⟨rfl, rfl⟩) here there
  | some separator =>
      rw [readStep_separated_eq between, Option.bind_eq_some_iff] at here there
      obtain ⟨outcome, first, here⟩ := here
      obtain ⟨outcome', first', there⟩ := there
      cases readElement_abreast alike (.inr ⟨rfl, rfl⟩) first first' with
      | none =>
          cases here
          cases there
          exact .none
      | some cursors =>
          obtain ⟨element, second, rfl⟩ := Option.map_eq_some_iff.mp here
          obtain ⟨element', second', rfl⟩ := Option.map_eq_some_iff.mp there
          cases readElement_abreast alike cursors second second' with
          | none => exact .none
          | some ends =>
              refine .some ?_
              rw [Repetition.item_stop, Repetition.item_stop]
              exact ends

/-- A step that stands still is counted as often as the bounds ask for, wherever counting is. -/
theorem readSteps_of_stalled {step : Nat → Option (Option (Match RuleId))} {least fuel count : Nat}
    {most : Option Nat} {stop : Nat} {ms : List (Match RuleId)}
    (room : most.all (count ≤ ·) = true) (here : step position = some (some m))
    (stalls : ¬ position < m.stop)
    (found : readSteps step least most fuel position count = some (ms, stop)) :
    stop = position ∧ ms.length = most.getD least - count := by
  cases fuel with
  | zero => cases found
  | succ fuel =>
      rw [readSteps, here] at found
      split at found
      next =>
        simp only [if_neg stalls, Option.some.injEq, Prod.mk.injEq] at found
        obtain ⟨rfl, rfl⟩ := found
        exact ⟨rfl, List.length_replicate⟩
      next full =>
        cases found
        cases most with
        | none => exact absurd rfl full
        | some most =>
            simp only [Option.all_some, decide_eq_true_eq] at room full
            exact ⟨rfl, by simp only [List.length_nil, Option.getD_some]; omega⟩

/-- The run that starts earlier may make one step more, up to the start of the other; but then the step
stands still in both, and is counted up to the same number. -/
theorem readSteps_abreast {repetition : Repetition RuleId} {least fuel count stop stop' : Nat}
    {most : Option Nat} {ms ms' : List (Match RuleId)} (bounded : read.Bounded limit)
    (alike : read.AlikeFrom start start') (ordered : start ≤ start')
    (cursors : Abreast start start' position position')
    (here : readSteps (readStep read repetition id) least most fuel position count =
      some (ms, stop))
    (there : readSteps (readStep read repetition id) least most fuel position' count =
      some (ms', stop')) :
    Abreast start start' stop stop' ∧
      (ms.length + count < least ↔ ms'.length + count < least) := by
  by_cases together : position = position'
  · rw [together, there, Option.some.injEq, Prod.mk.injEq] at here
    obtain ⟨rfl, rfl⟩ := here
    exact ⟨.inl rfl, Iff.rfl⟩
  have own := cursors.resolve_left together
  rw [own.1] at here
  rw [own.2] at there
  cases fuel with
  | zero => cases here
  | succ fuel =>
      rw [readSteps_succ_eq] at here there
      by_cases more : most.all (count < ·) = true
      · rw [if_pos more, Option.bind_eq_some_iff] at here there
        obtain ⟨outcome, first, here⟩ := here
        obtain ⟨outcome', first', there⟩ := there
        cases readStep_abreast alike first first' with
        | none =>
            cases here
            cases there
            exact ⟨.inr ⟨rfl, rfl⟩, Iff.rfl⟩
        | @some next next' ends =>
            have bounds := (readStep_stepReads first').bounds bounded
            rw [Option.elim_some] at here there
            rcases ends with same | ⟨still, still'⟩
            · rw [if_pos (by omega), same, Option.map_eq_some_iff] at here
              obtain ⟨⟨later, last⟩, rest, reached⟩ := here
              cases reached
              by_cases advances : start' < next'.stop
              · -- Both runs go on from one offset.
                rw [if_pos advances, rest, Option.map_some] at there
                cases there
                exact ⟨.inl rfl, Iff.rfl⟩
              · -- The earlier run catches up, the later one stands still.
                rw [if_neg advances] at there
                cases there
                have reached : next'.stop = start' := by omega
                obtain ⟨halted, counted⟩ := readSteps_of_stalled (show _ = true from more)
                  first' advances (reached ▸ rest)
                refine ⟨.inl halted, ?_⟩
                rw [List.length_cons, counted, List.length_replicate]
                cases most with
                | none =>
                    rw [Option.getD_none]
                    omega
                | some most =>
                    simp only [Option.all_some, decide_eq_true_eq] at more
                    rw [Option.getD_some]
                    omega
            · rw [if_neg (by omega)] at here there
              cases here
              cases there
              rw [List.length_replicate, List.length_replicate]
              exact ⟨.inr ⟨rfl, rfl⟩, Iff.rfl⟩
      · rw [if_neg more] at here there
        cases here
        cases there
        exact ⟨.inr ⟨rfl, rfl⟩, Iff.rfl⟩

theorem readRepetition_alike {repetition : Repetition RuleId} {fuel : Nat}
    (bounded : read.Bounded limit) (alike : read.AlikeFrom start start')
    (ordered : start ≤ start')
    (here : readRepetition read fuel id repetition start = some m)
    (there : readRepetition read fuel id repetition start' = some m') :
    m.Alike start start' m' := by
  by_cases closed : repetition.max = some 0
  · rw [readRepetition, if_pos closed] at here there
    cases here
    cases there
    exact Match.alike_own rfl rfl rfl
  rw [readRepetition_eq closed, Option.bind_eq_some_iff] at here there
  obtain ⟨n, first, here⟩ := here
  obtain ⟨n', first', there⟩ := there
  have both := alike first first'
  rw [← both.1] at there
  by_cases succeeds : n.success = true
  · rw [if_pos succeeds] at here there
    by_cases single : (repetition.collapseSingle && repetition.max == some 1) = true
    · rw [if_pos single] at here there
      cases here
      cases there
      exact both
    · rw [if_neg single, Option.map_eq_some_iff] at here there
      obtain ⟨found, steps, rfl⟩ := here
      obtain ⟨found', steps', rfl⟩ := there
      obtain ⟨stops, enough⟩ := readSteps_abreast bounded alike ordered both.2 steps steps'
      simp only [← enough]
      by_cases few : found.1.length + 1 < repetition.min
      · rw [if_pos few, if_pos few]
        exact Match.alike_own rfl rfl rfl
      · rw [if_neg few, if_neg few]
        exact ⟨rfl, stops⟩
  · rw [if_neg succeeds] at here there
    cases here
    cases there
    by_cases least : repetition.min = 0
    · rw [if_pos least, if_pos least]
      exact Match.alike_own rfl rfl rfl
    · rw [if_neg least, if_neg least]
      exact Match.alike_own rfl rfl rfl

/-- What a rule made of rules reads behind skippable text, or without any. -/
theorem readKind_alike {text : List Char} {size : Nat} {rule : LinkedRule}
    (fits : rule.Fits size) (bounded : read.Bounded limit) (alike : read.AlikeFrom start start')
    (ordered : start ≤ start') (composite : rule.kind.isLeaf = false)
    (here : readKind read text id start rule.kind = some m)
    (there : readKind read text id start' rule.kind = some m') : m.Alike start start' m' := by
  cases same : rule.kind with
  | literal literal => rw [same] at composite; cases composite
  | pattern pattern => rw [same] at composite; cases composite
  | sequence items shape =>
      rw [same] at here there
      exact readSequence_alike alike (fits.indices items shape same) here there
  | choice options =>
      rw [same] at here there
      exact readChoice_alike alike here there
  | optional inner =>
      rw [same] at here there
      exact readOptional_alike alike here there
  | repetition repetition =>
      rw [same] at here there
      exact readRepetition_alike bounded alike ordered here there

end

/-! ## Whole reads -/

namespace Registry

variable {registry : Registry} {input : String} {start start' : Nat}
  {blank blank' : Match RuleId}

/-- By induction on the depth: a rule that skips begins at one offset in both reads, and any other is
the rule for skippable text or made of rules. -/
theorem readWithin_alike (wellFormed : registry.WellFormed) (skips : registry.SkipsBeforeLeaves)
    (ordered : start ≤ start') (skipped : registry.readRule input start registry.skip = some blank)
    (skipped' : registry.readRule input start' registry.skip = some blank')
    (alike : blank.Alike start start' blank') (together : blank.stop = blank'.stop) (depth : Nat) :
    (registry.readWithin input.toList depth).AlikeFrom start start' := by
  have determined : ∀ {depth start m n}, registry.readRule input start registry.skip = some m →
      registry.readWithin input.toList depth registry.skip start = some n → n = m := by
    intro depth start m n found found'
    exact Option.some.inj ((readWithin_depthBound found').symm.trans found)
  induction depth with
  | zero => intro id m m' here; cases here
  | succ depth inductionHypothesis =>
      intro id m m' here there
      by_cases itself : id = registry.skip
      · subst itself
        rw [determined skipped here, determined skipped' there]
        exact alike
      obtain ⟨rule, position, known, begins, body⟩ := readWithin_succ.mp here
      obtain ⟨rule', position', known', begins', body'⟩ := readWithin_succ.mp there
      rw [known, Option.some.injEq] at known'
      subst known'
      rw [startOf_eq_some_iff] at begins begins'
      by_cases applies : rule.appliesSkip = true
      · rw [if_pos ⟨applies, itself⟩] at begins begins'
        obtain ⟨before, read, rfl⟩ := begins
        obtain ⟨before', read', rfl⟩ := begins'
        rw [determined skipped read, together] at body
        rw [determined skipped' read'] at body'
        rw [body, Option.some.injEq] at body'
        subst body'
        exact m.alike_self
      · rw [if_neg fun both => applies both.1] at begins begins'
        subst begins begins'
        have composite : rule.kind.isLeaf = false := by
          rw [Bool.eq_false_iff]
          intro leaf
          exact applies (skips id rule known leaf itself)
        exact readKind_alike (wellFormed.fits known) (readWithin_bounded depth) inductionHypothesis
          ordered composite body body'

/-- From two offsets with skippable text up to the same place, a rule succeeds from both or fails from
both; and it ends at the same place, or where it began each time. -/
theorem readRule_alike {rules : List RuleDef} {id : RuleId} {m m' : Match RuleId}
    (built : ofRules rules = .ok registry) (skips : registry.SkipsBeforeLeaves)
    (ordered : start ≤ start') (skipped : registry.readRule input start registry.skip = some blank)
    (skipped' : registry.readRule input start' registry.skip = some blank')
    (success : blank.success = true) (success' : blank'.success = true)
    (together : blank.stop = blank'.stop) (here : registry.readRule input start id = some m)
    (there : registry.readRule input start' id = some m') :
    m.success = m'.success ∧ (m.stop = m'.stop ∨ (m.stop = start ∧ m'.stop = start')) :=
  readWithin_alike (wellFormed_of_ofRules built) skips ordered skipped skipped'
    ⟨success.trans success'.symm, .inl together⟩ together _ here there

/-- Words that may be missing, with nothing but skippable text between them. -/
def spacedWords : List RuleDef :=
  [RuleDef.ofKind "main" (.repetition { element := "maybe", separator := some "gap", min := 3 }),
    RuleDef.ofKind "maybe" (.optional "word"),
    RuleDef.ofKind "word" (.literal "é"),
    RuleDef.ofKind "gap" (.literal "")]

/-- The gap advances from the start of the text, and stands still behind the blanks. -/
theorem readRule_alike_spacedWords :
    ∃ registry m m', ofRules spacedWords = .ok registry ∧ registry.SkipsBeforeLeaves ∧
      registry.readRule "  !" 0 ⟨8⟩ = some m ∧ registry.readRule "  !" 2 ⟨8⟩ = some m' ∧
      m.success = true ∧ m.success = m'.success ∧
      (m.stop = m'.stop ∨ (m.stop = 0 ∧ m'.stop = 2)) := by
  obtain ⟨registry, built, leaves, read, skipped, skipped'⟩ : ∃ registry,
      ofRules spacedWords = .ok registry ∧
      (registry.rules.zipIdx.all fun entry =>
        !entry.1.kind.isLeaf || ⟨entry.2⟩ == registry.skip || entry.1.appliesSkip) = true ∧
      ((registry.readRule "  !" 0 ⟨8⟩).map Match.success = some true ∧
        (registry.readRule "  !" 2 ⟨8⟩).isSome) ∧
      (registry.readRule "  !" 0 registry.skip).map (fun m => (m.success, m.stop)) =
        some (true, 2) ∧
      (registry.readRule "  !" 2 registry.skip).map (fun m => (m.success, m.stop)) =
        some (true, 2) :=
    exists_ok_of_any (by decide +kernel)
  have skips : registry.SkipsBeforeLeaves := by
    intro id rule known leaf other
    have checked := List.all_eq_true.mp leaves (rule, id.index)
      (List.mem_zipIdx_iff_getElem?.mpr known)
    simpa [leaf, other] using checked
  obtain ⟨m, found, success⟩ := Option.map_eq_some_iff.mp read.1
  obtain ⟨m', found'⟩ := Option.isSome_iff_exists.mp read.2
  obtain ⟨blank, before, shown⟩ := Option.map_eq_some_iff.mp skipped
  obtain ⟨blank', before', shown'⟩ := Option.map_eq_some_iff.mp skipped'
  rw [Prod.mk.injEq] at shown shown'
  exact ⟨registry, m, m', built, skips, found, found', success,
    readRule_alike built skips (by decide) before before' shown.1 shown'.1
      (shown.2.trans shown'.2.symm) found found'⟩

end Registry

end RuleGrammar
