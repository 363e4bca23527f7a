import Mathlib.Tactic.SplitIfs
import RuleGrammar.Regex.CharSet

/-!
Owns the members of sets of characters: one character, a range, a table, a union and a complement. The laws
of combinations ask for bounds in ascending order, which is decided for the sets of a given pattern.
-/

namespace RuleGrammar.CharSet

theorem contains_single (c d : Char) : (single c).contains d = true ↔ d = c := by
  have same : d.toNat = c.toNat ↔ d = c := ⟨fun same => Char.ext (UInt32.toNat_inj.mp same), congrArg _⟩
  rw [← same]
  simp only [contains, single, memberFrom]
  split_ifs <;> simp <;> omega

/-- A set given by its ranges has the members of the ranges. -/
theorem contains_ofCodePoints {ranges : Text.CodePoints} (c : Char)
    (ordered : ∀ range ∈ ranges, range.1 ≤ range.2) :
    (ofCodePoints ranges).contains c = ranges.contains c := by
  simp only [contains, ofCodePoints]
  induction ranges with
  | nil => rfl
  | cons range ranges inductionHypothesis =>
      rw [List.forall_mem_cons] at ordered
      have first := ordered.1
      rw [List.flatMap_cons, Text.CodePoints.contains, ← inductionHypothesis ordered.2]
      simp only [List.cons_append, List.nil_append, memberFrom, Bool.not_false, Bool.not_true]
      by_cases before : c.toNat < range.1
      · rw [if_pos before, if_pos (by omega), decide_eq_false (by omega)]
      · rw [if_neg before, decide_eq_true (Nat.le_of_not_lt before)]
        simp only [Nat.lt_succ_iff]

variable {a b : CharSet}

theorem contains_union (c : Char) (ascending : a.bounds.Pairwise (· < ·))
    (ascending' : b.bounds.Pairwise (· < ·)) :
    (a.union b).contains c = (a.contains c || b.contains c) :=
  memberFrom_combine (· || ·) c.toNat false a.bounds false b.bounds ascending ascending'

theorem contains_all (c : Char) : all.contains c = true := by
  have valid := c.valid
  simp only [UInt32.isValidChar, Nat.isValidChar] at valid
  simp only [contains, all, memberFrom, Char.toNat, Bool.not_false, Bool.not_true]
  grind

theorem contains_compl (c : Char) (ascending : a.bounds.Pairwise (· < ·)) :
    a.compl.contains c = !a.contains c := by
  have whole := contains_all c
  have combined := memberFrom_combine (fun inA inB => inA && !inB) c.toNat false all.bounds false
    a.bounds (by decide) ascending
  rw [contains] at whole
  rw [whole] at combined
  exact combined

theorem contains_range {first last : Char} (c : Char) (ordered : first.toNat ≤ last.toNat) :
    (range first last).contains c = true ↔ first.toNat ≤ c.toNat ∧ c.toNat ≤ last.toNat := by
  have whole := contains_all c
  have combined := memberFrom_combine (· && ·) c.toNat false all.bounds false
    [first.toNat, last.toNat + 1] (by decide) (by simp; omega)
  rw [contains] at whole
  rw [whole] at combined
  show memberFrom (false && false) _ _ = true ↔ _
  rw [range, inter, combined]
  simp only [memberFrom]
  split_ifs <;> simp <;> omega

end RuleGrammar.CharSet
