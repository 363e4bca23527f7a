import RuleGrammar.Proofs.Json.Finite
import RuleGrammar.Proofs.Json.Writing

/-!
Owns what can be read from a JSON text: values whose integers fit 64 bits, whose floats are finite, and
that are nested no deeper than a text may be. Members of the outermost object that nobody asks for are
exempt, since they are not read for their values.
-/

namespace RuleGrammar.Json

/-- A float that stands for a number. -/
def Finite (x : Float) : Prop :=
  x.isFinite = true

section

variable {fuel depth : Nat} {text rest : List Char} {value : Json}

/-! ## Numbers -/

theorem NumberText.fits_of_value? {number : NumberText} (valued : number.value? = some value) :
    value.Fits Finite depth := by
  have limit : significandLimit = UInt64.size := rfl
  have float : number.toFloat?.map Json.float = some value → value.Fits Finite depth := by
    intro result
    obtain ⟨x, converted, rfl⟩ := Option.map_eq_some_iff.mp result
    exact .float (NumberText.isFinite_of_toFloat? converted)
  unfold NumberText.value? at valued
  split at valued
  next =>
    simp only at valued
    split at valued
    next small =>
      split at valued
      next =>
        cases valued
        exact .int (by omega) (by omega)
      next =>
        split at valued
        next =>
          cases valued
          exact .float (Binary64.isFinite_neg (Binary64.isFinite_ofNat small))
        next large =>
          cases valued
          exact .int (by omega) (by omega)
    next => exact float valued
  next => exact float valued

theorem fits_of_readNumber (read : readNumber .full text = some (value, rest)) :
    value.Fits Finite depth := by
  obtain ⟨⟨number, left⟩, _, valued⟩ := Option.bind_eq_some_iff.mp read
  obtain ⟨value, known, same⟩ := Option.map_eq_some_iff.mp valued
  cases same
  exact NumberText.fits_of_value? known

/-! ## Values -/

/-- What reading with some fuel yields fits: values, items and the members that are read in full. -/
structure ReadsFitting (fuel : Nat) : Prop where
  value : ∀ depth text value rest, readValue .full fuel depth text = some (value, rest) →
    value.Fits Finite depth
  items : ∀ depth text items rest, readItems .full fuel depth text = some (items, rest) →
    ∀ item ∈ items, item.Fits Finite depth
  members : ∀ careOf depth text members rest,
    readMembers .full careOf fuel depth text = some (members, rest) →
    ∀ member ∈ members, careOf member.1 = .full → member.2.Fits Finite depth

theorem ReadsFitting.fits_of_readValue (fitting : ReadsFitting fuel)
    (read : readValue .full (fuel + 1) depth text = some (value, rest)) :
    value.Fits Finite depth := by
  unfold readValue at read
  split at read
  next => cases read; exact .null
  next => cases read; exact .bool
  next => cases read; exact .bool
  next =>
    obtain ⟨_, _, same⟩ := Option.map_eq_some_iff.mp read
    cases same
    exact .string
  next =>
    rw [Option.ite_none_left_eq_some] at read
    obtain ⟨room, read⟩ := read
    obtain ⟨depth, rfl⟩ := Nat.exists_eq_succ_of_ne_zero fun zero => room ⟨rfl, zero⟩
    split at read
    next =>
      cases read
      exact .array (by simp)
    next =>
      obtain ⟨⟨items, left⟩, listed, same⟩ := Option.map_eq_some_iff.mp read
      cases same
      exact .array (fitting.items _ _ _ _ listed)
  next =>
    rw [Option.ite_none_left_eq_some] at read
    obtain ⟨room, read⟩ := read
    obtain ⟨depth, rfl⟩ := Nat.exists_eq_succ_of_ne_zero fun zero => room ⟨rfl, zero⟩
    split at read
    next =>
      cases read
      exact .object (by simp)
    next =>
      obtain ⟨⟨members, left⟩, listed, same⟩ := Option.map_eq_some_iff.mp read
      cases same
      exact .object fun member held => fitting.members _ _ _ _ _ listed member held rfl
  next => exact fits_of_readNumber read

theorem ReadsFitting.fits_of_readItems (fitting : ReadsFitting fuel) {items : List Json}
    (read : readItems .full (fuel + 1) depth text = some (items, rest)) :
    ∀ item ∈ items, item.Fits Finite depth := by
  unfold readItems at read
  split at read
  next => cases read
  next item behind first =>
    have here := fitting.value _ _ _ _ first
    split at read
    next =>
      obtain ⟨⟨others, left⟩, further, same⟩ := Option.map_eq_some_iff.mp read
      cases same
      exact List.forall_mem_cons.mpr ⟨here, fitting.items _ _ _ _ further⟩
    next =>
      cases read
      exact List.forall_mem_singleton.mpr here
    next => cases read

theorem ReadsFitting.fits_of_readMembers (fitting : ReadsFitting fuel) {careOf : String → Care}
    {members : List (String × Json)}
    (read : readMembers .full careOf (fuel + 1) depth text = some (members, rest)) :
    ∀ member ∈ members, careOf member.1 = .full → member.2.Fits Finite depth := by
  unfold readMembers at read
  split at read
  next =>
    split at read
    next => cases read
    next key behind named =>
      split at read
      next =>
        split at read
        next => cases read
        next value after first =>
          have here : careOf key = .full → value.Fits Finite depth := by
            intro full
            rw [full] at first
            exact fitting.value _ _ _ _ first
          split at read
          next =>
            obtain ⟨⟨others, left⟩, further, same⟩ := Option.map_eq_some_iff.mp read
            cases same
            exact List.forall_mem_cons.mpr ⟨here, fitting.members _ _ _ _ _ further⟩
          next =>
            cases read
            exact List.forall_mem_singleton.mpr here
          next => cases read
      next => cases read
  next => cases read

theorem readsFitting (fuel : Nat) : ReadsFitting fuel := by
  induction fuel with
  | zero =>
      refine ⟨?_, ?_, ?_⟩
      · intro depth text value rest read
        cases read
      · intro depth text items rest read
        cases read
      · intro careOf depth text members rest read
        cases read
  | succ fuel fitting =>
      exact ⟨fun _ _ _ _ => fitting.fits_of_readValue, fun _ _ _ _ => fitting.fits_of_readItems,
        fun _ _ _ _ _ => fitting.fits_of_readMembers⟩

/-! ## Texts -/

/-- The value of a text fits the limit on nesting; of an object, the members that are asked for fit
what the object leaves of it. -/
theorem fits_of_parse? {heeded : String → Bool} {text : String}
    (parsed : parse? heeded text = some value) :
    value.Fits Finite nestingLimit ∨
      ∃ members, value = .object members ∧
        ∀ member ∈ members, heeded member.1 = true → member.2.Fits Finite (nestingLimit - 1) := by
  unfold parse? at parsed
  split at parsed
  next outermost rest read =>
    rw [Option.ite_none_right_eq_some, Option.some.injEq] at parsed
    obtain ⟨_, rfl⟩ := parsed
    unfold readOutermost at read
    split at read
    next =>
      split at read
      next =>
        cases read
        exact .inr ⟨[], rfl, by simp⟩
      next =>
        obtain ⟨⟨members, left⟩, listed, same⟩ := Option.map_eq_some_iff.mp read
        cases same
        refine .inr ⟨members, rfl, fun member held asked => ?_⟩
        exact (readsFitting _).members _ _ _ _ _ listed member held (if_pos asked)
    next => exact .inl ((readsFitting _).value _ _ _ _ read)
  next => cases parsed

end

end RuleGrammar.Json
