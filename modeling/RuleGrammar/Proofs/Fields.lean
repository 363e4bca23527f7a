import Mathlib.Data.List.Induction
import Mathlib.Data.List.Nodup
import Mathlib.Data.String.Basic
import RuleGrammar.Fields

/-!
Owns what fields hold once names have been bound, one after the other.

Contract: fields are in the order of their names (`Fields.ascending_ofBindings`), the names held are the
names bound, and each name holds what it was bound to last. So the order of bindings matters between
bindings of one name only (`Fields.ofBindings_perm`).
-/

namespace RuleGrammar.Fields

variable {α : Type} {name : String} {value : α} {fields : List (String × α)}

/-! ## Names and values -/

theorem mem_of_mem_insert {entry : String × α} {fields : List (String × α)}
    (member : entry ∈ insert name value fields) : entry = (name, value) ∨ entry ∈ fields := by
  fun_induction insert name value fields with
  | case1 => simpa using member
  | case2 held rest =>
      rcases List.mem_cons.mp member with new | later
      · exact .inl new
      · exact .inr (List.mem_cons_of_mem _ later)
  | case3 other held rest different before => simpa using member
  | case4 other held rest different behind inductionHypothesis =>
      rcases List.mem_cons.mp member with rfl | later
      · exact .inr (by simp)
      · exact (inductionHypothesis later).imp_right (List.mem_cons_of_mem _)

theorem mem_names_insert {other : String} {fields : List (String × α)} :
    other ∈ (insert name value fields).map Prod.fst ↔
      other = name ∨ other ∈ fields.map Prod.fst := by
  fun_induction insert name value fields with
  | case1 => simp
  | case2 held rest => simp
  | case3 present held rest different before => simp
  | case4 present held rest different behind inductionHypothesis =>
      simp only [List.map_cons, List.mem_cons, inductionHypothesis]
      exact or_left_comm

theorem ofBindings_concat (bindings : List (String × α)) (binding : String × α) :
    ofBindings (bindings ++ [binding]) = insert binding.1 binding.2 (ofBindings bindings) := by
  simp [ofBindings]

/-- Nothing is held that was not bound. -/
theorem mem_of_mem_ofBindings {entry : String × α} {bindings : List (String × α)}
    (member : entry ∈ ofBindings bindings) : entry ∈ bindings := by
  induction bindings using List.reverseRecOn with
  | nil => cases member
  | append_singleton bindings binding inductionHypothesis =>
      rw [ofBindings_concat] at member
      rcases mem_of_mem_insert member with rfl | before
      · simp
      · exact List.mem_append_left _ (inductionHypothesis before)

/-- The names held are the names bound. -/
theorem mem_names_ofBindings {bindings : List (String × α)} :
    name ∈ (ofBindings bindings).map Prod.fst ↔ name ∈ bindings.map Prod.fst := by
  induction bindings using List.reverseRecOn with
  | nil => rfl
  | append_singleton bindings binding inductionHypothesis =>
      rw [ofBindings_concat, mem_names_insert, inductionHypothesis, List.map_append,
        List.mem_append, or_comm]
      simp

/-- A name holds what it was bound to last. -/
theorem lookup_ofBindings_last {before after : List (String × α)}
    (last : name ∉ after.map Prod.fst) :
    (ofBindings (before ++ (name, value) :: after)).lookup name = some value := by
  induction after using List.reverseRecOn with
  | nil => rw [ofBindings_concat, lookup_insert, if_pos rfl]
  | append_singleton after binding inductionHypothesis =>
      rw [List.map_append, List.mem_append, not_or] at last
      have other : name ≠ binding.1 := by simpa using last.2
      rw [← List.cons_append, ← List.append_assoc, ofBindings_concat, lookup_insert, if_neg other]
      exact inductionHypothesis last.1

/-- A name that is bound once is bound to that. -/
theorem lookup_ofBindings {bindings : List (String × α)} (distinct : (bindings.map Prod.fst).Nodup)
    {name : String} {value : α} :
    (ofBindings bindings).lookup name = some value ↔ (name, value) ∈ bindings := by
  induction bindings using List.reverseRecOn with
  | nil => simp [ofBindings]
  | append_singleton bindings binding inductionHypothesis =>
      rw [List.map_append, List.nodup_append] at distinct
      obtain ⟨earlier, _, apart⟩ := distinct
      rw [ofBindings_concat, lookup_insert, List.mem_append, List.mem_singleton]
      by_cases same : name = binding.1
      · rw [if_pos same]
        have absent : (name, value) ∉ bindings := fun member =>
          apart _ (List.mem_map_of_mem member) binding.1 (by simp) same
        constructor
        · intro bound
          rw [Option.some.injEq] at bound
          exact .inr (Prod.ext same bound.symm)
        · rintro (member | whole)
          · exact absurd member absent
          · rw [← whole]
      · rw [if_neg same, inductionHypothesis earlier]
        constructor
        · exact .inl
        · rintro (member | whole)
          · exact member
          · exact absurd (congrArg Prod.fst whole) same

/-- Where each name is bound once, it does not matter to looking a name up that the fields are in order. -/
theorem lookup_ofBindings_eq {bindings : List (String × α)} (distinct : (bindings.map Prod.fst).Nodup)
    (name : String) : (ofBindings bindings).lookup name = bindings.lookup name := by
  induction bindings using List.reverseRecOn with
  | nil => rfl
  | append_singleton bindings binding inductionHypothesis =>
      rw [List.map_append, List.nodup_append] at distinct
      obtain ⟨earlier, _, apart⟩ := distinct
      rw [ofBindings_concat, lookup_insert, List.lookup_append, inductionHypothesis earlier]
      by_cases same : name = binding.1
      · subst same
        have absent : bindings.lookup binding.1 = none := by
          refine List.lookup_eq_none_iff.mpr fun other member => bne_iff_ne.mpr (Ne.symm ?_)
          exact apart other.1 (List.mem_map_of_mem member) binding.1 (by simp)
        rw [if_pos rfl, absent, Option.none_or]
        exact List.lookup_cons_self.symm
      · have other : [binding].lookup name = none := by simpa [List.lookup_eq_none_iff] using same
        rw [if_neg same, other, Option.or_none]

/-! ## Order -/

/-- In the order of their names, each name once. -/
def Ascending (fields : List (String × α)) : Prop :=
  (fields.map Prod.fst).Pairwise (· < ·)

theorem insert_last (behind : ∀ other ∈ fields.map Prod.fst, other < name) :
    insert name value fields = fields ++ [(name, value)] := by
  induction fields with
  | nil => rfl
  | cons field fields inductionHypothesis =>
      obtain ⟨other, held⟩ := field
      obtain ⟨later, behind⟩ := List.forall_mem_cons.mp behind
      rw [insert, if_neg later.ne', if_neg (lt_asymm later), inductionHypothesis behind,
        List.cons_append]

/-- Fields that are in order stay as they are when they are bound one after the other. -/
theorem Ascending.ofBindings_eq (ascending : Ascending fields) : ofBindings fields = fields := by
  induction fields using List.reverseRecOn with
  | nil => rfl
  | append_singleton fields field inductionHypothesis =>
      rw [Ascending, List.map_append, List.pairwise_append] at ascending
      obtain ⟨before, _, behind⟩ := ascending
      rw [ofBindings_concat, inductionHypothesis before]
      exact insert_last fun other member => behind other member field.1 (by simp)

theorem Ascending.insert (ascending : Ascending fields) : Ascending (insert name value fields) := by
  fun_induction Fields.insert name value fields with
  | case1 => exact List.pairwise_singleton _ _
  | case2 held rest => exact ascending
  | case3 other held rest different before =>
      refine List.pairwise_cons.mpr ⟨?_, ascending⟩
      refine List.forall_mem_cons.mpr ⟨before, fun later member => ?_⟩
      exact before.trans ((List.pairwise_cons.mp ascending).1 later member)
  | case4 other held rest different notBefore inductionHypothesis =>
      obtain ⟨behind, ascending⟩ := List.pairwise_cons.mp ascending
      refine List.pairwise_cons.mpr ⟨fun later member => ?_, inductionHypothesis ascending⟩
      rcases mem_names_insert.mp member with rfl | member
      · exact lt_of_le_of_ne (not_lt.mp notBefore) (Ne.symm different)
      · exact behind later member

theorem ascending_ofBindings (bindings : List (String × α)) : Ascending (ofBindings bindings) := by
  induction bindings using List.reverseRecOn with
  | nil => exact List.Pairwise.nil
  | append_singleton bindings binding inductionHypothesis =>
      rw [ofBindings_concat]
      exact inductionHypothesis.insert

/-- Two names may be bound in either order. -/
theorem insert_insert {name' : String} {value' : α} (different : name ≠ name')
    (fields : List (String × α)) :
    insert name value (insert name' value' fields) =
      insert name' value' (insert name value fields) := by
  induction fields with
  | nil => grind [insert]
  | cons field fields inductionHypothesis => grind [insert]

/-- The order in which names are bound does not matter where each is bound once. -/
theorem ofBindings_perm {bindings bindings' : List (String × α)} (perm : bindings.Perm bindings')
    (distinct : (bindings.map Prod.fst).Nodup) : ofBindings bindings = ofBindings bindings' := by
  apply perm.foldl_eq'
  intro binding member binding' member' fields
  by_cases same : binding.1 = binding'.1
  · rw [List.inj_on_of_nodup_map distinct member member' same]
  · exact insert_insert (Ne.symm same) fields

end RuleGrammar.Fields
