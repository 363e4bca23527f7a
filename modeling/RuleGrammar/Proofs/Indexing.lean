import Mathlib.Data.List.Nodup
import RuleGrammar.Registry.Basic
import Std.Data.TreeMap.Lemmas

/-!
Owns the index of names while rules are entered one after the other.

Contract: `Registration.Indexed` says that the index and the rules entered so far are inverse to each other.
A rule under a new name keeps it so (`Indexed.enter`), and names that fit are entered without a fault
(`Indexed.declareAll_eq_ok_iff`); so it holds of all rules that a registry is made of.
-/

namespace RuleGrammar

namespace Registry

/-! ## Distinct names -/

/-- No rule has the name of a base type, a name that is taken, or that of another rule. -/
structure NamesFit (taken : List String) (rules : List RuleDef) : Prop where
  unreserved : ∀ rule ∈ rules, BaseType.isReserved rule.name = false
  fresh : ∀ rule ∈ rules, rule.name ∉ taken
  distinct : (rules.map Rule.name).Nodup

theorem namesFit_nil (taken : List String) : NamesFit taken [] :=
  ⟨by simp, by simp, List.nodup_nil⟩

theorem namesFit_cons {taken : List String} {rule : RuleDef} {rules : List RuleDef} :
    NamesFit taken (rule :: rules) ↔
      BaseType.isReserved rule.name = false ∧ rule.name ∉ taken ∧
        NamesFit (taken ++ [rule.name]) rules := by
  constructor
  · rintro ⟨unreserved, fresh, distinct⟩
    rw [List.map_cons, List.nodup_cons] at distinct
    refine ⟨unreserved rule List.mem_cons_self, fresh rule List.mem_cons_self, ?_, ?_, distinct.2⟩
    · exact fun other member => unreserved other (List.mem_cons_of_mem _ member)
    · intro other member
      have different : other.name ≠ rule.name := fun same =>
        distinct.1 (same ▸ List.mem_map_of_mem member)
      simp [different, fresh other (List.mem_cons_of_mem _ member)]
  · rintro ⟨unreserved, fresh, others⟩
    refine ⟨?_, ?_, ?_⟩
    · intro other member
      rcases List.mem_cons.mp member with rfl | later
      · exact unreserved
      · exact others.unreserved other later
    · intro other member
      rcases List.mem_cons.mp member with rfl | later
      · exact fresh
      · exact fun taken => others.fresh other later (List.mem_append_left _ taken)
    · rw [List.map_cons, List.nodup_cons]
      refine ⟨fun repeated => ?_, others.distinct⟩
      obtain ⟨other, member, same⟩ := List.mem_map.mp repeated
      exact others.fresh other member (same ▸ List.mem_append_right _ List.mem_cons_self)

/-- The names of base types are taken, but no rule with a fitting name has one of them anyway. -/
theorem namesFit_names_iff {rules : List RuleDef} :
    NamesFit BaseType.names rules ↔ NamesFit [] rules := by
  constructor
  · exact fun fit => ⟨fit.unreserved, fun _ _ => List.not_mem_nil, fit.distinct⟩
  · intro fit
    refine ⟨fit.unreserved, fun rule member taken => ?_, fit.distinct⟩
    have unreserved := fit.unreserved rule member
    rw [BaseType.isReserved, List.contains_iff_mem.mpr taken] at unreserved
    cases unreserved

end Registry

namespace Registration

variable {registration complete : Registration} {rules : List RuleDef} {rule : RuleDef}

def names (registration : Registration) : List String :=
  registration.pending.map Rule.name

theorem names_enter (registration : Registration) (rule : RuleDef) :
    (registration.enter rule).names = registration.names ++ [rule.name] := by
  rw [names, enter, List.map_append, List.map_singleton, names]

theorem pending_foldl_enter (registration : Registration) (rules : List RuleDef) :
    (rules.foldl enter registration).pending = registration.pending ++ rules := by
  induction rules generalizing registration with
  | nil => exact (List.append_nil _).symm
  | cons rule rules inductionHypothesis =>
      rw [List.foldl_cons, inductionHypothesis, enter, List.append_assoc, List.singleton_append]

/-- The index depends on the names of the rules only. -/
theorem index_foldl_enter_congr {other : Registration} {rules' : List RuleDef}
    (index : registration.index = other.index)
    (size : registration.pending.length = other.pending.length)
    (same : rules.map Rule.name = rules'.map Rule.name) :
    (rules.foldl enter registration).index = (rules'.foldl enter other).index := by
  induction rules generalizing registration other rules' with
  | nil =>
      rw [List.map_nil, eq_comm, List.map_eq_nil_iff] at same
      rw [same]
      exact index
  | cons rule rules inductionHypothesis =>
      cases rules' with
      | nil => cases same
      | cons rule' rules' =>
          rw [List.map_cons, List.map_cons, List.cons.injEq] at same
          apply inductionHypothesis _ _ same.2
          · rw [enter, enter, index, size, same.1]
          · simp [enter, size]

/-! ## One rule more -/

/-- The index leads a name to the place of the rule that has it, and leads nowhere from other names. -/
def Indexed (registration : Registration) : Prop :=
  ∀ (name : String) (id : RuleId),
    registration.index[name]? = some id ↔ registration.names[id.index]? = some name

theorem indexed_empty : empty.Indexed := by
  intro name id
  rw [show empty.index[name]? = none from Std.TreeMap.getElem?_emptyc]
  simp [names, empty]

namespace Indexed

theorem exists_iff (indexed : registration.Indexed) {name : String} :
    (∃ id, registration.index[name]? = some id) ↔ name ∈ registration.names := by
  rw [List.mem_iff_getElem?]
  constructor
  · rintro ⟨id, found⟩
    exact ⟨id.index, (indexed name id).mp found⟩
  · rintro ⟨index, here⟩
    exact ⟨⟨index⟩, (indexed name ⟨index⟩).mpr here⟩

theorem contains_iff (indexed : registration.Indexed) {name : String} :
    registration.index.contains name = true ↔ name ∈ registration.names := by
  rw [Std.TreeMap.contains_eq_isSome_getElem?, Option.isSome_iff_exists, indexed.exists_iff]

/-- A name that two rules had would lead to both of their places. -/
theorem distinct (indexed : registration.Indexed) : registration.names.Nodup := by
  rw [List.nodup_iff_injective_get]
  intro first second same
  have lead : ∀ place : Fin registration.names.length,
      registration.index[registration.names.get place]? = some ⟨place⟩ := fun place =>
    (indexed _ _).mpr (List.getElem?_eq_getElem place.isLt)
  have together := lead second
  rw [← same, lead first] at together
  exact Fin.ext (RuleId.mk.inj (Option.some.inj together))

theorem enter (indexed : registration.Indexed) (fresh : rule.name ∉ registration.names) :
    (registration.enter rule).Indexed := by
  intro name id
  have size : registration.pending.length = registration.names.length :=
    (List.length_map _).symm
  rw [names_enter, Registration.enter, Std.TreeMap.getElem?_insert, size]
  by_cases same : rule.name = name
  · subst same
    rw [if_pos Std.ReflCmp.compare_self]
    constructor
    · intro here
      cases here
      exact List.getElem?_concat_length
    · intro here
      rcases Nat.lt_trichotomy id.index registration.names.length with before | here' | behind
      · rw [List.getElem?_append_left before] at here
        exact absurd (List.mem_of_getElem? here) fresh
      · rw [← here']
      · have outside : (registration.names ++ [rule.name]).length ≤ id.index := by
          rw [List.length_append]
          exact behind
        rw [List.getElem?_eq_none outside] at here
        cases here
  · rw [if_neg (mt Std.LawfulEqCmp.eq_of_compare same), indexed name id]
    by_cases before : id.index < registration.names.length
    · rw [List.getElem?_append_left before]
    · rw [List.getElem?_append_right (Nat.le_of_not_lt before),
        List.getElem?_eq_none (Nat.le_of_not_lt before)]
      refine iff_of_false (by simp) fun here => ?_
      exact same (List.mem_singleton.mp (List.mem_of_getElem? here)).symm

/-- Rules under new names keep the index in step. -/
theorem foldl_enter (indexed : registration.Indexed)
    (distinct : (registration.names ++ rules.map Rule.name).Nodup) :
    (rules.foldl Registration.enter registration).Indexed := by
  induction rules generalizing registration with
  | nil => exact indexed
  | cons rule rules inductionHypothesis =>
      rw [List.map_cons, List.append_cons] at distinct
      have fresh : rule.name ∉ registration.names := fun taken =>
        (List.nodup_append.mp (List.nodup_append.mp distinct).1).2.2 _ taken _
          List.mem_cons_self rfl
      rw [List.foldl_cons]
      apply inductionHypothesis (indexed.enter fresh)
      rw [names_enter]
      exact distinct

/-! ## Declared rules -/

theorem declare_eq_ok_iff (indexed : registration.Indexed) :
    registration.declare rule = .ok complete ↔
      BaseType.isReserved rule.name = false ∧ rule.name ∉ registration.names ∧
        registration.enter rule = complete := by
  rw [declare]
  by_cases reserved : BaseType.isReserved rule.name = true
  · simp [reserved]
  · by_cases taken : rule.name ∈ registration.names
    · simp [reserved, taken, indexed.contains_iff.mpr taken]
    · have absent := mt indexed.contains_iff.mp taken
      simp [reserved, taken, absent]

/-- Rules are declared one after the other, and entered as they are, when their names fit. -/
theorem declareAll_eq_ok_iff (indexed : registration.Indexed) :
    registration.declareAll rules = .ok complete ↔
      Registry.NamesFit registration.names rules ∧
        rules.foldl Registration.enter registration = complete := by
  induction rules generalizing registration with
  | nil => simp [declareAll, Registry.namesFit_nil]
  | cons rule rules inductionHypothesis =>
      rw [Registry.namesFit_cons, declareAll, List.foldl_cons, ← names_enter]
      cases attempt : registration.declare rule with
      | error fault =>
          refine iff_of_false (by simp) fun accepted => ?_
          have made := indexed.declare_eq_ok_iff.mpr ⟨accepted.1.1, accepted.1.2.1, rfl⟩
          cases attempt.symm.trans made
      | ok next =>
          obtain ⟨unreserved, fresh, rfl⟩ := indexed.declare_eq_ok_iff.mp attempt
          simp [unreserved, fresh, inductionHypothesis (indexed.enter fresh)]

end Indexed

end Registration

end RuleGrammar
