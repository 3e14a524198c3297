import BroadcastGraphics.Proofs.JsonText
import BroadcastGraphics.Validation.Checked

/-!
# What is read from JSON text

Whatever text a value is read from, a text can carry the value: no integer in it has more digits than
are read, and no object has two members of one name, because a member is written over the one of its
name that came before.
-/

namespace BroadcastGraphics
namespace Json

mutual

/-- What meets a standard is well formed. -/
theorem Meets.wellFormed {standard : Standard} :
    ∀ {value : Json}, value.Meets standard -> value.WellFormed
  | .null, _ => trivial
  | .bool _, _ => trivial
  | .int _, _ => trivial
  | .float _, _ => trivial
  | .str _, _ => trivial
  | .arr items, meets => MeetsItems.wellFormed ((meets_arr items).1 meets)
  | .obj _, meets => ⟨meets.distinct, MeetsMembers.wellFormed meets.members⟩

theorem MeetsItems.wellFormed {standard : Standard} :
    ∀ {items : List Json}, MeetsItems standard items -> WellFormedItems items
  | [], _ => trivial
  | _ :: _, meets => ⟨Meets.wellFormed meets.1, MeetsItems.wellFormed meets.2⟩

theorem MeetsMembers.wellFormed {standard : Standard} :
    ∀ {members : List (String × Json)}, MeetsMembers standard members -> WellFormedMembers members
  | [], _ => trivial
  | (_, _) :: _, meets => ⟨Meets.wellFormed meets.2.1, MeetsMembers.wellFormed meets.2.2⟩

end

namespace Reader

variable {limits : Limits} {input rest : List Char}

/-! ## Scalars -/

theorem digit_of_isDigit
    {digit : Char}
    (isDigit : Reader.isDigit digit = true) :
    '0' ≤ digit ∧ digit ≤ '9' := by
  unfold Reader.isDigit at isDigit
  simpa using isDigit

/-- The digits of a whole part are among those at the start of the input. -/
theorem wholeDigits?_spec
    {whole after : List Char}
    (found : wholeDigits? input = some (whole, after)) :
    (∀ digit ∈ whole, '0' ≤ digit ∧ digit ≤ '9') ∧ 0 < whole.length ∧
      whole.length ≤ (input.takeWhile isDigit).length := by
  unfold wholeDigits? at found
  split at found
  · cases found
    refine ⟨by decide, by decide, ?_⟩
    rw [List.takeWhile_cons_of_pos (by decide)]
    exact Nat.succ_le_succ (Nat.zero_le _)
  · split at found
    · rename_i first more _ isFirst
      cases found
      refine ⟨fun digit member => ?_, ?_, Nat.le_refl _⟩
      · exact digit_of_isDigit (List.all_eq_true.1 List.all_takeWhile digit member)
      · rw [List.takeWhile_cons_of_pos isFirst]
        exact Nat.succ_pos _
    · cases found
  · cases found

theorem integerDigits_eq
    (input : List Char) :
    integerDigits input = ((splitSign input).2.takeWhile isDigit).length := by
  unfold integerDigits splitSign
  split <;> rfl

/-- An integer that is read has no more digits than stand at the start of the input. -/
theorem length_of_number?
    {value : Int}
    (found : number? input = some (.int value, rest)) :
    (decimalDigits value.natAbs).length ≤ integerDigits input := by
  obtain ⟨⟨whole, after⟩, isWhole, same⟩ := Option.map_eq_some_iff.1 found
  obtain ⟨areDigits, some, within⟩ := wholeDigits?_spec isWhole
  have size : value.natAbs = digitsValue whole := by
    unfold numberFrom at same
    dsimp only at same
    split at same
    · cases same
    · split at same
      · cases same
        split <;> simp
      · cases same
  rw [size, integerDigits_eq]
  exact Nat.le_trans (length_decimalDigits_le some (digitsValue_lt areDigits)) within

/-- No word is an integer. -/
theorem number?_of_scalar?_int
    {value : Int}
    (found : scalar? input = some (.int value, rest)) :
    number? input = some (.int value, rest) := by
  unfold scalar? at found
  split at found
  · rename_i isWord
    cases found
    obtain ⟨⟨name, word⟩, isValue, isWord⟩ := List.exists_of_findSome?_eq_some isWord
    obtain ⟨_, _, same⟩ := Option.map_eq_some_iff.1 isWord
    cases same
    simp at isValue
  · exact found

/-- Only an integer can be too long. -/
theorem meets_of_scalar?
    {value : Json}
    (found : scalar? input = some (value, rest))
    (short : ∀ number, value = .int number -> (decimalDigits number.natAbs).length ≤ limits.digits) :
    value.Meets (.carried false limits) := by
  unfold scalar? at found
  split at found
  · rename_i word isWord
    cases found
    obtain ⟨⟨name, value⟩, isValue, isWord⟩ := List.exists_of_findSome?_eq_some isWord
    obtain ⟨_, _, same⟩ := Option.map_eq_some_iff.1 isWord
    cases same
    simp only [List.mem_cons, Prod.mk.injEq, List.not_mem_nil, or_false] at isValue
    rcases isValue with ⟨_, rfl⟩ | ⟨_, rfl⟩ | ⟨_, rfl⟩ | ⟨_, rfl⟩ | ⟨_, rfl⟩ | ⟨_, rfl⟩ <;> simp
  · obtain ⟨⟨whole, afterWhole⟩, _, same⟩ := Option.map_eq_some_iff.1 found
    unfold numberFrom at same
    dsimp only at same
    split at same
    · cases same
      exact meets_float _
    · split at same
      · cases same
        exact (meets_int _).2 (short _ rfl)
      · cases same
        exact meets_float _

theorem meets_of_readScalar
    {value : Json}
    (read : readScalar limits input = .ok (value, rest)) :
    value.Meets (.carried false limits) := by
  unfold readScalar at read
  split at read
  · rename_i number _ isScalar
    split at read
    · cases read
    · rename_i within
      cases read
      refine meets_of_scalar? isScalar fun other same => ?_
      cases same
      exact Nat.le_trans (length_of_number? (number?_of_scalar?_int isScalar))
        (Nat.not_lt.1 within)
  · rename_i found noInteger isScalar
    cases read
    exact meets_of_scalar? isScalar fun number same => absurd rfl (noInteger number rest ∘ (same ▸ ·))
  · cases read

/-! ## Values -/

/-- What is read is carried by a text; the induction is on the rounds of reading that are left, for
values, items and members together. -/
theorem meets_of_read
    (limits : Limits)
    (fuel : Nat) :
    (∀ {room input value rest}, readValue limits fuel room input = .ok (value, rest) ->
        value.Meets (.carried false limits)) ∧
      (∀ {room input items rest}, readItems limits fuel room input = .ok (items, rest) ->
        MeetsItems (.carried false limits) items) ∧
      ∀ {room before input members rest}, Meets (.carried false limits) (.obj before) ->
        readMembers limits fuel room before input = .ok (members, rest) ->
          Meets (.carried false limits) (.obj members) := by
  induction fuel with
  | zero => exact ⟨fun read => (nomatch read), fun read => (nomatch read),
      fun _ read => (nomatch read)⟩
  | succ fuel ih =>
    obtain ⟨values, items, members⟩ := ih
    refine ⟨fun {room input value rest} read => ?_, fun {room input list rest} read => ?_,
      fun {room before input table rest} meets read => ?_⟩
    · unfold readValue at read
      split at read
      · obtain ⟨_, _, read⟩ := ok_of_bind read
        cases read
        exact (meets_str _).2 nofun
      · split at read
        · cases read
        · cases read
          exact (meets_arr _).2 trivial
        · obtain ⟨_, inner, read⟩ := ok_of_bind read
          cases read
          exact (meets_arr _).2 (items inner)
      · split at read
        · cases read
        · cases read
          exact meets_nil
        · obtain ⟨_, inner, read⟩ := ok_of_bind read
          cases read
          exact members meets_nil inner
      · exact meets_of_readScalar read
    · unfold readItems at read
      obtain ⟨⟨item, remaining⟩, first, read⟩ := ok_of_bind read
      dsimp only at read
      split at read
      · cases read
        exact ⟨values first, trivial⟩
      · obtain ⟨_, others, read⟩ := ok_of_bind read
        cases read
        exact ⟨values first, items others⟩
      · cases read
    · unfold readMembers at read
      split at read
      · obtain ⟨⟨name, afterName⟩, _, read⟩ := ok_of_bind read
        dsimp only at read
        split at read
        · obtain ⟨⟨value, remaining⟩, first, read⟩ := ok_of_bind read
          dsimp only at read
          have meets := @Meets.put _ _ (String.ofList name) value meets nofun (values first)
          split at read
          · cases read
            exact meets
          · exact members meets read
          · cases read
        · cases read
      · cases read

end Reader

/-- The value of a text is carried by a text. -/
theorem meets_of_parse
    {text : String}
    {value : Json}
    (read : parse text = .ok value) : value.Meets (.carried false .standard) := by
  unfold parse parseWithin at read
  dsimp only at read
  split at read
  · cases read
  · split at read
    · rename_i parsed isText
      cases read
      obtain ⟨⟨found, remaining⟩, isValue, isText⟩ := ok_of_bind isText
      dsimp only at isText
      split at isText
      · cases isText
        exact (Reader.meets_of_read _ _).1 isValue
      · cases isText
    all_goals cases read

end Json
end BroadcastGraphics
