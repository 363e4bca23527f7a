import RuleGrammar.Proofs.Acceptance
import RuleGrammar.Proofs.Replacement

/-!
Owns rules that come down to reading one other rule.

Contract: a rule may leave out its part or require it, and for both there are several ways to write it
(`RuleKind.LeavesOut`, `RuleKind.Requires`). All ways of one kind read the same: the match of the part as
it is, and where the part fails, an empty success or a failure of the rule's own. In a grammar one may
stand for the other, wherever the separators that this brings in are rules of the grammar.
-/

namespace RuleGrammar

/-- At most one element, which stands for itself. The separator is never read. -/
def Repetition.single {R : Type} (least : Nat) (part : R) (separator : Option R) (retains : Bool) :
    Repetition R :=
  { element := part, separator := separator, min := least, max := some 1, collapseSingle := true,
    retainSeparators := retains }

namespace RuleKind

variable {R : Type}

/-- The ways to write a rule that reads a part or leaves it out. -/
inductive LeavesOut (part : R) : RuleKind R → Prop where
  | optional : LeavesOut part (.optional part)
  | repetition (separator : Option R) (retains : Bool) :
      LeavesOut part (.repetition (.single 0 part separator retains))

/-- The ways to write a rule that reads a part and nothing besides. -/
inductive Requires (part : R) : RuleKind R → Prop where
  | choice : Requires part (.choice [part])
  | sequence : Requires part (.sequence [part] (.one 0))
  | repetition (separator : Option R) (retains : Bool) :
      Requires part (.repetition (.single 1 part separator retains))

/-- The same kind of rule, or another way to write it. -/
inductive Interchangeable : RuleKind R → RuleKind R → Prop where
  | same {kind : RuleKind R} : Interchangeable kind kind
  | leavesOut {part : R} {kind other : RuleKind R} :
      kind.LeavesOut part → other.LeavesOut part → Interchangeable kind other
  | requires {part : R} {kind other : RuleKind R} :
      kind.Requires part → other.Requires part → Interchangeable kind other

/-- The name of the rule that separates the elements of a repetition. -/
def separator? : RuleKind R → Option R
  | .repetition rep => rep.separator
  | _ => none

end RuleKind

/-- The same rule, but that it may be written in another way. -/
structure RuleDef.Interchangeable (rule other : RuleDef) : Prop where
  name : other.name = rule.name
  appliesSkip : other.appliesSkip = rule.appliesSkip
  kind : rule.kind.Interchangeable other.kind

/-! ## Reading one part -/

section

variable {read : Read} {text : List Char} {id part : RuleId} {start : Nat}
  {kind : RuleKind RuleId}

/-- A single element is given as it is; where it fails, the lower bound decides. -/
theorem readRepetition_single (fuel least : Nat) (separator : Option RuleId) (retains : Bool) :
    readRepetition read fuel id (.single least part separator retains) start =
      (read part start).map fun m =>
        if m.success then m else if least = 0 then .emptyAt id start else .fail id start := by
  have allowed : (Repetition.single least part separator retains).max ≠ some 0 := by
    simp [Repetition.single]
  have collapses : (Repetition.single least part separator retains).collapseSingle = true ∧
      (Repetition.single least part separator retains).max = some 1 := ⟨rfl, rfl⟩
  rw [readRepetition_eq allowed]
  show (read part start).bind _ = _
  cases read part start with
  | none => rfl
  | some m =>
      by_cases success : m.success = true
      · simp [success, collapses]
      · rw [Option.bind_some, if_neg success, Option.map_some, if_neg success]
        rfl

/-- However it is written, a rule that leaves out its part reads as an option does. -/
theorem RuleKind.LeavesOut.readKind_eq (leavesOut : kind.LeavesOut part) :
    readKind read text id start kind = readOptional read id part start := by
  cases leavesOut with
  | optional => rfl
  | repetition separator retains => exact readRepetition_single (Text.byteLength text + 1) 0 separator retains

/-- However it is written, a rule that requires its part reads as a choice of nothing else does. -/
theorem RuleKind.Requires.readKind_eq (requires : kind.Requires part) :
    readKind read text id start kind = readChoice read id [part] start := by
  have single : readChoice read id [part] start =
      (read part start).map fun m => if m.success then m else .fail id start := by
    rw [readChoice_cons_eq, Option.map_eq_bind]
    apply congrArg (Option.bind _)
    funext m
    show _ = some (if m.success then m else .fail id start)
    rw [apply_ite some]
    rfl
  cases requires with
  | choice => rfl
  | sequence =>
      rw [single]
      show readSequence read id [part] (.one 0) start = _
      rw [readSequence_eq, readItems_cons_eq]
      cases read part start with
      | none => rfl
      | some m =>
          -- The one item ends where the sequence ends, so that it is not stretched.
          by_cases success : m.success = true
          · obtain ⟨_, ⟨_, _⟩, _, _⟩ := m
            obtain rfl : _ = true := success
            rfl
          · simp [success]
  | repetition separator retains =>
      rw [single]
      exact readRepetition_single (Text.byteLength text + 1) 1 separator retains

theorem RuleKind.Interchangeable.readsAs {other : RuleKind RuleId}
    (interchangeable : kind.Interchangeable other) : kind.ReadsAs other := by
  intro read text id start _
  cases interchangeable with
  | same => rfl
  | leavesOut here there => rw [here.readKind_eq, there.readKind_eq]
  | requires here there => rw [here.readKind_eq, there.readKind_eq]

end

/-! ## Linked forms -/

namespace RuleKind

variable {R S : Type} {related : R → S → Prop} {kind : RuleKind R} {form : RuleKind S} {part : R}

/-- The linked form of a rule that leaves out its part leaves out what the part is linked to. -/
theorem LeavesOut.linked (leavesOut : kind.LeavesOut part) (relates : kind.Relates related form) :
    ∃ reference, related part reference ∧ form.LeavesOut reference := by
  cases leavesOut with
  | optional =>
      cases relates with
      | optional inner => exact ⟨_, inner, .optional⟩
  | repetition _ retains =>
      cases relates with
      | @repetition _ reference separator element _ =>
          exact ⟨reference, element, .repetition separator retains⟩

theorem Requires.linked (requires : kind.Requires part) (relates : kind.Relates related form) :
    ∃ reference, related part reference ∧ form.Requires reference := by
  cases requires with
  | choice =>
      cases relates with
      | choice options =>
          cases options with
          | cons first others =>
              cases others
              exact ⟨_, first, .choice⟩
  | sequence =>
      cases relates with
      | sequence items =>
          cases items with
          | cons first others =>
              cases others
              exact ⟨_, first, .sequence⟩
  | repetition _ retains =>
      cases relates with
      | @repetition _ reference separator element _ =>
          exact ⟨reference, element, .repetition separator retains⟩

end RuleKind

/-- Rules of the same kind that may stand for each other are one and the same. -/
theorem RuleDef.Interchangeable.eq_of_kind {rule other : RuleDef}
    (interchangeable : rule.Interchangeable other) (same : other.kind = rule.kind) : other = rule := by
  obtain ⟨_, _, _⟩ := rule
  obtain ⟨_, _, _⟩ := other
  obtain rfl := interchangeable.name
  obtain rfl := interchangeable.appliesSkip
  exact congrArg _ same

/-- Linked against the same names, rules that may stand for each other read alike. -/
theorem RuleDef.Interchangeable.readsAs {find : String → Option RuleId} {rule other : RuleDef}
    {form form' : LinkedRule} (interchangeable : rule.Interchangeable other)
    (link : rule.link find = .ok form) (link' : RuleDef.link find other = .ok form') :
    form.ReadsAs form' := by
  obtain ⟨_, name, appliesSkip, relates⟩ := RuleDef.link_eq_ok link
  obtain ⟨_, name', appliesSkip', relates'⟩ := RuleDef.link_eq_ok link'
  have only : ∀ {name left right}, find name = some left → find name = some right → left = right :=
    fun here there => Option.some.inj (here.symm.trans there)
  have alike : form.kind.ReadsAs form'.kind := by
    have kinds := interchangeable.kind
    generalize same : rule.kind = kind at kinds relates
    generalize same' : other.kind = kind' at kinds relates'
    cases kinds with
    | same =>
        rw [← interchangeable.eq_of_kind (same'.trans same.symm), link', Except.ok.injEq] at link
        rw [link]
        exact fun _ _ _ _ _ => rfl
    | leavesOut here there =>
        obtain ⟨reference, found, written⟩ := here.linked relates
        obtain ⟨reference', found', written'⟩ := there.linked relates'
        obtain rfl := only found found'
        exact RuleKind.Interchangeable.readsAs (.leavesOut written written')
    | requires here there =>
        obtain ⟨reference, found, written⟩ := here.linked relates
        obtain ⟨reference', found', written'⟩ := there.linked relates'
        obtain rfl := only found found'
        exact RuleKind.Interchangeable.readsAs (.requires written written')
  exact ⟨by rw [name, name', interchangeable.name],
    by rw [appliesSkip, appliesSkip', interchangeable.appliesSkip], alike⟩

/-! ## Grammars that link -/

namespace RuleKind

variable {R : Type} {part reference : R} {kind : RuleKind R}

theorem LeavesOut.mem_dependencies_iff (leavesOut : kind.LeavesOut part) :
    reference ∈ kind.dependencies ↔ reference = part ∨ kind.separator? = some reference := by
  cases leavesOut with
  | optional => simp [dependencies, separator?]
  | repetition separator => simp [dependencies, separator?, Repetition.single]

theorem Requires.mem_dependencies_iff (requires : kind.Requires part) :
    reference ∈ kind.dependencies ↔ reference = part ∨ kind.separator? = some reference := by
  cases requires with
  | choice => simp [dependencies, separator?]
  | sequence => simp [dependencies, separator?]
  | repetition separator => simp [dependencies, separator?, Repetition.single]

end RuleKind

namespace RuleDef

variable {known : String → Prop} {rule other : RuleDef} {part : String}

theorem fault?_eq_none_of_leavesOut (leavesOut : rule.kind.LeavesOut part) : rule.fault? = none := by
  unfold fault?
  generalize rule.kind = kind at leavesOut ⊢
  cases leavesOut <;> rfl

theorem fault?_eq_none_of_requires (requires : rule.kind.Requires part) : rule.fault? = none := by
  unfold fault?
  generalize rule.kind = kind at requires ⊢
  cases requires <;> rfl

/-- A rule is sound that refers to a part and perhaps to a separator, both being rules. -/
theorem sound_of_part (settings : rule.fault? = none)
    (references : ∀ name, name ∈ rule.kind.dependencies ↔
      name = part ∨ rule.kind.separator? = some name)
    (here : known part) (separators : ∀ name, rule.kind.separator? = some name → known name) :
    rule.Sound known := by
  obtain ⟨bounds, indices⟩ := fault?_eq_none_iff.mp settings
  refine ⟨bounds, indices, fun name refers => ?_⟩
  rcases (references name).mp refers with rfl | separates
  · exact here
  · exact separators name separates

/-- In the place of a sound rule, another way to write it is sound if its separator is a rule. -/
theorem Interchangeable.sound_iff (interchangeable : rule.Interchangeable other)
    (sound : rule.Sound known) :
    other.Sound known ↔ ∀ name, other.kind.separator? = some name → known name := by
  constructor
  · intro sound' name separates
    apply sound'.references
    unfold RuleKind.separator? at separates
    split at separates
    next rep repeats =>
      rw [repeats]
      exact List.mem_cons_of_mem _ (Option.mem_toList.mpr separates)
    next => cases separates
  · intro separators
    have kinds := interchangeable.kind
    generalize same : rule.kind = kind at kinds
    generalize same' : other.kind = kind' at kinds
    cases kinds with
    | same => exact interchangeable.eq_of_kind (same'.trans same.symm) ▸ sound
    | leavesOut here there =>
        have refers := here.mem_dependencies_iff.mpr (.inl rfl)
        have there' := same'.symm ▸ there
        exact sound_of_part (fault?_eq_none_of_leavesOut there')
          (fun _ => there'.mem_dependencies_iff) (sound.references _ (same ▸ refers)) separators
    | requires here there =>
        have refers := here.mem_dependencies_iff.mpr (.inl rfl)
        have there' := same'.symm ▸ there
        exact sound_of_part (fault?_eq_none_of_requires there')
          (fun _ => there'.mem_dependencies_iff) (sound.references _ (same ▸ refers)) separators

/-- Rules that may stand for each other are linked to rules that read alike, one for one. -/
theorem readsAs_of_links {find : String → Option RuleId} {rules rules' : List RuleDef}
    {forms forms' : List LinkedRule}
    (written : List.Forall₂ RuleDef.Interchangeable rules rules')
    (links : List.Forall₂ (fun rule form => rule.link find = .ok form) rules forms)
    (links' : List.Forall₂ (fun rule form => RuleDef.link find rule = .ok form) rules' forms') :
    List.Forall₂ Rule.ReadsAs forms forms' := by
  induction written generalizing forms forms' with
  | nil =>
      cases links
      cases links'
      exact .nil
  | cons here _ inductionHypothesis =>
      cases links with
      | cons link links =>
          cases links' with
          | cons link' links' =>
              exact .cons (here.readsAs link link') (inductionHypothesis links links')

end RuleDef

namespace Registry

variable {rules rules' : List RuleDef} {registry other : Registry}

theorem map_name_of_interchangeable
    (written : List.Forall₂ RuleDef.Interchangeable rules rules') :
    rules'.map Rule.name = rules.map Rule.name := by
  induction written with
  | nil => rfl
  | cons here _ inductionHypothesis =>
      rw [List.map_cons, List.map_cons, here.name, inductionHypothesis]

/-- A grammar still links if its rules are written in another way, as far as separators are rules. -/
theorem exists_ofRules_iff_of_interchangeable (built : ofRules rules = .ok registry)
    (written : List.Forall₂ RuleDef.Interchangeable rules rules') :
    (∃ other, ofRules rules' = .ok other) ↔
      ∀ rule ∈ rules', ∀ separator, rule.kind.separator? = some separator →
        Known rules separator := by
  have acceptable := acceptable_of_ofRules built
  have names := map_name_of_interchangeable written
  have known : Known rules' = Known rules := by
    funext name
    rw [Known, Known, names]
  have sound : ∀ rule ∈ rules', rule.Sound (Known rules') ↔
      ∀ separator, rule.kind.separator? = some separator → Known rules separator := by
    intro rule member
    obtain ⟨before, member', interchangeable⟩ := exists_related_of_mem written member
    rw [known]
    exact interchangeable.sound_iff (acceptable.sound before member')
  rw [exists_ofRules_iff]
  constructor
  · intro acceptable' rule member
    exact (sound rule member).mp (acceptable'.sound rule member)
  · intro separators
    refine ⟨?_, ?_, names ▸ acceptable.distinct, ?_⟩
    · rintro rfl
      exact acceptable.nonempty (List.map_eq_nil_iff.mp names.symm)
    · intro rule member
      obtain ⟨before, member', interchangeable⟩ := exists_related_of_mem written member
      exact interchangeable.name ▸ acceptable.unreserved before member'
    · exact fun rule member => (sound rule member).mpr (separators rule member)

/-- Registries read alike if they are built of rules that may stand for each other. -/
theorem readsAs_of_interchangeable (built : ofRules rules = .ok registry)
    (built' : ofRules rules' = .ok other)
    (written : List.Forall₂ RuleDef.Interchangeable rules rules') : registry.ReadsAs other := by
  obtain ⟨all, comprises⟩ := exists_comprises rules
  obtain ⟨all', comprises'⟩ := exists_comprises rules'
  have linked := linkedFrom_of_ofRules built comprises
  have linked' := linkedFrom_of_ofRules built' comprises'
  have agree : List.Forall₂ RuleDef.Interchangeable all all' :=
    comprises.rel comprises' (fun _ => ⟨rfl, rfl, .same⟩) (map_name_of_interchangeable written) written
  obtain ⟨index, skip, entry⟩ := linked.congr linked' (map_name_of_interchangeable agree)
  have find : other.find? = registry.find? := by
    funext name
    rw [find?, find?, index]
  have links' := linked'.links
  rw [find] at links'
  exact ⟨RuleDef.readsAs_of_links agree linked.links links', skip, entry⟩

/-- Rules may be written in another way: a part that is left out where it fails as an option or as a
repetition of at most one, and a part that is required as a choice, a sequence reduced to its item or a
repetition of exactly one. A grammar still links if the separators named are rules of it, and then every
rule, under the same id, gives the same match as before, or none where it gave none. -/
theorem readRule_interchangeable_eq (built : ofRules rules = .ok registry)
    (written : List.Forall₂ RuleDef.Interchangeable rules rules') :
    ((∃ other, ofRules rules' = .ok other) ↔
      ∀ rule ∈ rules', ∀ separator, rule.kind.separator? = some separator →
        Known rules separator) ∧
    ∀ other, ofRules rules' = .ok other →
      other.names = registry.names ∧ other.skip = registry.skip ∧ other.entry = registry.entry ∧
        ∀ input start id, other.readRule input start id = registry.readRule input start id := by
  refine ⟨exists_ofRules_iff_of_interchangeable built written, fun other built' => ?_⟩
  have alike := readsAs_of_interchangeable built built' written
  exact ⟨alike.names, alike.skip, alike.entry, alike.readRule⟩

/-- A word that may be missing and one that is required, each in a way of its own. -/
def partedWords (maybe required : RuleKind String) : List RuleDef :=
  [RuleDef.ofKind "main" (.sequence ["maybe", "required"] .all),
    RuleDef.ofKind "maybe" maybe,
    RuleDef.ofKind "required" required,
    RuleDef.ofKind "word" (.literal "é"),
    RuleDef.ofKind "skip" (.literal " ") (some false)]

/-- Two words, and one: the rule that may leave out its word takes it from the one that requires it. -/
theorem readRule_interchangeable_eq_partedWords :
    ∃ registry other m missed,
      ofRules (partedWords (.optional "word") (.choice ["word"])) = .ok registry ∧
      ofRules (partedWords (.repetition (.single 0 "word" (some "main") true))
        (.sequence ["word"] (.one 0))) = .ok other ∧
      registry.readRule "é é" 0 ⟨8⟩ = some m ∧ other.readRule "é é" 0 ⟨8⟩ = some m ∧
      m.success = true ∧ m.stop = 5 ∧
      registry.readRule "é" 0 ⟨8⟩ = some missed ∧ other.readRule "é" 0 ⟨8⟩ = some missed ∧
      missed.success = false := by
  obtain ⟨registry, built, read, failed⟩ : ∃ registry,
      ofRules (partedWords (.optional "word") (.choice ["word"])) = .ok registry ∧
      (registry.readRule "é é" 0 ⟨8⟩).map (fun m => (m.success, m.stop)) = some (true, 5) ∧
      (registry.readRule "é" 0 ⟨8⟩).map Match.success = some false :=
    exists_ok_of_any (by decide +kernel)
  have written : List.Forall₂ RuleDef.Interchangeable
      (partedWords (.optional "word") (.choice ["word"]))
      (partedWords (.repetition (.single 0 "word" (some "main") true))
        (.sequence ["word"] (.one 0))) := by
    have self : ∀ rule : RuleDef, rule.Interchangeable rule := fun _ => ⟨rfl, rfl, .same⟩
    exact .cons (self _) (.cons ⟨rfl, rfl, .leavesOut .optional (.repetition _ _)⟩
      (.cons ⟨rfl, rfl, .requires .choice .sequence⟩ (.cons (self _) (.cons (self _) .nil))))
  obtain ⟨links, same⟩ := readRule_interchangeable_eq built written
  obtain ⟨other, built'⟩ := links.mpr (by
    intro rule member separator separates
    obtain rfl : separator = "main" := by
      simp only [partedWords, List.mem_cons, List.not_mem_nil, or_false] at member
      rcases member with rfl | rfl | rfl | rfl | rfl <;>
        simp_all [RuleDef.ofKind, RuleKind.separator?, Repetition.single]
    exact .inl (by decide))
  obtain ⟨m, found, shown⟩ := Option.map_eq_some_iff.mp read
  obtain ⟨missed, found', failure⟩ := Option.map_eq_some_iff.mp failed
  rw [Prod.mk.injEq] at shown
  have reads := (same other built').2.2.2
  exact ⟨registry, other, m, missed, built, built', found, (reads _ _ _).trans found, shown.1,
    shown.2, found', (reads _ _ _).trans found', failure⟩

end Registry

end RuleGrammar
