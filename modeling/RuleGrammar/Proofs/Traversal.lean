import Mathlib.Data.List.Forall2

/-!
Owns traversals: lists whose elements are changed one after the other by steps that may fail.

Contract: a traversal gives the results of its steps if all succeed (`mapM_eq_ok_iff`, `mapM_eq_some_iff`),
and the error of the first that fails otherwise (`mapM_eq_error_iff`).
-/

namespace RuleGrammar

/-! ## Attempts -/

theorem map_eq_ok_iff {α β ε : Type} {change : α → β} {attempt : Except ε α} {result : β} :
    attempt.map change = .ok result ↔ ∃ found, attempt = .ok found ∧ change found = result := by
  cases attempt <;> simp [Except.map]

/-- What evaluation shows of an attempt holds of its result. -/
theorem exists_ok_of_any {α ε : Type} {attempt : Except ε α} {holds : α → Prop}
    [DecidablePred holds] (evaluated : attempt.toOption.any (holds ·) = true) :
    ∃ found, attempt = .ok found ∧ holds found := by
  cases attempt with
  | error fault => cases evaluated
  | ok found => exact ⟨found, rfl, of_decide_eq_true evaluated⟩

/-! ## Steps with errors -/

theorem exists_related_of_mem {α β : Type} {related : α → β → Prop} {inputs : List α}
    {outputs : List β} (relates : List.Forall₂ related inputs outputs) {output : β}
    (member : output ∈ outputs) : ∃ input ∈ inputs, related input output := by
  induction relates with
  | nil => cases member
  | cons here _ inductionHypothesis =>
      rcases List.mem_cons.mp member with rfl | later
      · exact ⟨_, List.mem_cons_self, here⟩
      · obtain ⟨input, earlier, relates⟩ := inductionHypothesis later
        exact ⟨input, List.mem_cons_of_mem _ earlier, relates⟩

/-- A traversal succeeds with the results of its steps, if all of them succeed. -/
theorem mapM_eq_ok_iff {α β ε : Type} {step : α → Except ε β} {inputs : List α}
    {outputs : List β} :
    inputs.mapM step = .ok outputs ↔
      List.Forall₂ (fun input output => step input = .ok output) inputs outputs := by
  induction inputs generalizing outputs with
  | nil => cases outputs <;> simp [pure, Except.pure]
  | cons input inputs inductionHypothesis =>
      rw [List.mapM_cons]
      cases here : step input with
      | error fault => cases outputs <;> simp [bind, Except.bind, here]
      | ok output =>
          cases later : inputs.mapM step with
          | error fault =>
              cases outputs <;> simp [bind, Except.bind, ← inductionHypothesis, later]
          | ok rest =>
              cases outputs <;>
                simp [bind, Except.bind, pure, Except.pure, ← inductionHypothesis, here, later]

/-- A traversal fails with the error of the first step that fails. -/
theorem mapM_eq_error_iff {α β ε : Type} {step : α → Except ε β} {inputs : List α} {fault : ε} :
    inputs.mapM step = .error fault ↔
      ∃ before input after, inputs = before ++ input :: after ∧
        (∀ earlier ∈ before, ∃ output, step earlier = .ok output) ∧ step input = .error fault := by
  induction inputs with
  | nil => simp [pure, Except.pure]
  | cons first inputs inductionHypothesis =>
      simp only [List.cons_eq_append_iff]
      rw [List.mapM_cons]
      cases here : step first with
      | error found =>
          simp only [bind, Except.bind, Except.error.injEq]
          constructor
          · rintro rfl
            exact ⟨[], first, inputs, .inl ⟨rfl, rfl⟩, by simp, here⟩
          · rintro ⟨before, input, after, ⟨rfl, same⟩ | ⟨others, rfl, _⟩, succeed, fails⟩
            · obtain ⟨rfl, rfl⟩ := List.cons.inj same
              exact Except.error.inj (here.symm.trans fails)
            · obtain ⟨output, found⟩ := succeed first List.mem_cons_self
              rw [here] at found
              cases found
      | ok output =>
          have later : (do let rest ← inputs.mapM step; pure (output :: rest)) = .error fault ↔
              inputs.mapM step = .error fault := by
            cases inputs.mapM step <;> simp [bind, Except.bind, pure, Except.pure]
          simp only [bind, Except.bind] at later ⊢
          rw [later, inductionHypothesis]
          constructor
          · rintro ⟨before, input, after, rfl, succeed, fails⟩
            refine ⟨first :: before, input, after, .inr ⟨before, rfl, rfl⟩, ?_, fails⟩
            intro earlier member
            rcases List.mem_cons.mp member with rfl | member
            · exact ⟨output, here⟩
            · exact succeed earlier member
          · rintro ⟨before, input, after, ⟨rfl, same⟩ | ⟨others, rfl, rfl⟩, succeed, fails⟩
            · obtain ⟨rfl, rfl⟩ := List.cons.inj same
              rw [here] at fails
              cases fails
            · exact ⟨others, input, after, rfl,
                fun earlier member => succeed earlier (List.mem_cons_of_mem _ member), fails⟩

/-- A traversal succeeds when every step does. -/
theorem exists_mapM_iff {α β ε : Type} {step : α → Except ε β} {inputs : List α} :
    (∃ outputs, inputs.mapM step = .ok outputs) ↔
      ∀ input ∈ inputs, ∃ output, step input = .ok output := by
  constructor
  · rintro ⟨outputs, steps⟩ input member
    obtain ⟨output, _, here⟩ := exists_related_of_mem (mapM_eq_ok_iff.mp steps).flip member
    exact ⟨output, here⟩
  · intro succeed
    cases attempt : inputs.mapM step with
    | ok outputs => exact ⟨outputs, rfl⟩
    | error fault =>
        obtain ⟨earlier, input, later, rfl, _, fails⟩ := mapM_eq_error_iff.mp attempt
        obtain ⟨output, here⟩ := succeed input (by simp)
        rw [here] at fails
        cases fails

/-- Inputs whose steps succeed, at either end, do not decide where a traversal fails. -/
theorem mapM_append_eq_error_iff {α β ε : Type} {step : α → Except ε β} {before inputs after : List α}
    {found : ε} (first : ∀ input ∈ before, ∃ output, step input = .ok output)
    (last : ∀ input ∈ after, ∃ output, step input = .ok output) :
    (before ++ inputs ++ after).mapM step = .error found ↔ inputs.mapM step = .error found := by
  obtain ⟨firsts, firstSteps⟩ := exists_mapM_iff.mpr first
  obtain ⟨lasts, lastSteps⟩ := exists_mapM_iff.mpr last
  rw [List.mapM_append, List.mapM_append, firstSteps]
  cases inputs.mapM step with
  | error fault => simp [bind, Except.bind]
  | ok outputs => simp [bind, Except.bind, pure, Except.pure, lastSteps]

/-- A change takes one list to another if it takes what one traversal gives to what the other does. -/
theorem map_eq_of_forall₂ {α β γ : Type} {related : α → β → Prop} {related' : α → γ → Prop}
    {change : β → γ}
    (agree : ∀ input left right, related input left → related' input right → change left = right)
    {inputs : List α} {lefts : List β} {rights : List γ}
    (left : List.Forall₂ related inputs lefts) (right : List.Forall₂ related' inputs rights) :
    lefts.map change = rights := by
  induction left generalizing rights with
  | nil =>
      cases right
      rfl
  | cons here _ inductionHypothesis =>
      cases right with
      | cons here' later' =>
          rw [List.map_cons, agree _ _ _ here here', inductionHypothesis later']

/-! ## Steps without errors -/

section

variable {α β : Type} {step : α → Option β} {inputs : List α} {outputs : List β}

theorem mapM_eq_some_iff : inputs.mapM step = some outputs ↔ inputs.map step = outputs.map some := by
  induction inputs generalizing outputs with
  | nil => cases outputs <;> simp
  | cons input inputs inductionHypothesis =>
      cases outputs with
      | nil => simp [Option.bind_eq_some_iff]
      | cons output outputs =>
          rw [List.map_cons, List.map_cons, List.cons.injEq, ← inductionHypothesis]
          simp [Option.bind_eq_some_iff]

theorem exists_of_mem_mapM (traversed : inputs.mapM step = some outputs) {output : β}
    (member : output ∈ outputs) : ∃ input ∈ inputs, step input = some output := by
  have result : some output ∈ inputs.map step := by
    rw [mapM_eq_some_iff.mp traversed]
    exact List.mem_map_of_mem member
  exact List.mem_map.mp result

end

end RuleGrammar
