import FieldTypes.Proofs.ReadingBounds
import FieldTypes.Proofs.StrictReading

set_option autoImplicit false

namespace FieldTypes

namespace Json.Reader

theorem length_lt_of_value_ok {fuel depth : Nat} {text rest : List Char} {result : Json}
    (success : value fuel depth text = .ok (result, rest)) : rest.length < text.length := by
  have weighed := (bounded_of_value_ok fuel depth text success).weight_le
  have positive := weight_pos result
  omega

theorem length_lt_of_skipBlank_eq {c : Char} {text rest : List Char} (start : skipBlank text = c :: rest) :
    rest.length < text.length := by
  have shorter := skipBlank_length_le text
  rw [start, List.length_cons] at shorter
  exact shorter

mutual

/-- More fuel than the text needs changes nothing; by induction on the fuel, along the steps of the
reading, each of which leaves a shorter text. -/
theorem value_add_fuel : ∀ (fuel extra depth : Nat) (text : List Char), 2 * text.length < fuel →
    value (fuel + extra) depth text = value fuel depth text
  | 0, _, _, _, enough => absurd enough (Nat.not_lt_zero _)
  | fuel + 1, extra, depth, text, enough => by
    rw [Nat.succ_add]
    rcases starts_cases (skipBlank text) with ⟨rest, start⟩ | ⟨rest, start⟩ | ⟨noBracket, noBrace⟩
    · rw [value_bracket start, value_bracket start]
      have inside := length_lt_of_skipBlank_eq start
      cases opened : firstElement rest with
      | error fault => rfl
      | ok next =>
        cases next with
        | inr after => rfl
        | inl first =>
          have shorter : first.length ≤ rest.length := firstElement_length_le opened
          simp only [elements_add_fuel fuel extra (depth - 1) first (by omega)]
    · rw [value_brace start, value_brace start]
      have inside := length_lt_of_skipBlank_eq start
      cases opened : firstMember rest with
      | error fault => rfl
      | ok next =>
        cases next with
        | inr after => rfl
        | inl first =>
          have shorter : first.length ≤ rest.length := firstMember_length_le opened
          simp only [members_add_fuel fuel extra (depth - 1) first (by omega)]
    · rw [value_other noBracket noBrace, value_other noBracket noBrace]

theorem elements_add_fuel : ∀ (fuel extra depth : Nat) (text : List Char), 2 * text.length + 1 < fuel →
    elements (fuel + extra) depth text = elements fuel depth text
  | 0, _, _, _, enough => absurd enough (Nat.not_lt_zero _)
  | fuel + 1, extra, depth, text, enough => by
    rw [Nat.succ_add, elements, elements, value_add_fuel fuel extra depth text (by omega)]
    cases read : value fuel depth text with
    | error fault => rfl
    | ok result =>
      obtain ⟨item, rest⟩ := result
      have taken := length_lt_of_value_ok read
      simp only [bind, Except.bind]
      cases follows : afterElement rest with
      | error fault => rfl
      | ok next =>
        cases next with
        | inr after => rfl
        | inl following =>
          have shorter : following.length ≤ rest.length := afterElement_length_le follows
          simp only [elements_add_fuel fuel extra depth following (by omega)]

theorem members_add_fuel : ∀ (fuel extra depth : Nat) (text : List Char), 2 * text.length + 1 < fuel →
    members (fuel + extra) depth text = members fuel depth text
  | 0, _, _, _, enough => absurd enough (Nat.not_lt_zero _)
  | fuel + 1, extra, depth, text, enough => by
    rw [Nat.succ_add, members, members]
    cases quoted : Quoted.read text with
    | error fault => rfl
    | ok result =>
      obtain ⟨key, afterKey⟩ := result
      have named := Quoted.length_lt_of_read_ok quoted
      simp only [bind, Except.bind]
      cases separated : colon afterKey with
      | error fault => rfl
      | ok afterColon =>
        have spaced := colon_length_le separated
        simp only [value_add_fuel fuel extra depth afterColon (by omega)]
        cases read : value fuel depth afterColon with
        | error fault => rfl
        | ok result =>
          obtain ⟨item, rest⟩ := result
          have taken := length_lt_of_value_ok read
          cases follows : afterMember rest with
          | error fault => simp only [follows]
          | ok next =>
            cases next with
            | inr after => simp only [follows]
            | inl following =>
              have shorter : following.length ≤ rest.length := afterMember_length_le follows
              simp only [follows, members_add_fuel fuel extra depth following (by omega)]

end

mutual

/-- More fuel does not complete more keys either. -/
theorem valueKeys_add_fuel : ∀ (fuel extra depth : Nat) (path : List String) (text : List Char),
    2 * text.length < fuel → valueKeys (fuel + extra) depth path text = valueKeys fuel depth path text
  | 0, _, _, _, _, enough => absurd enough (Nat.not_lt_zero _)
  | fuel + 1, extra, depth, path, text, enough => by
    rw [Nat.succ_add]
    rcases starts_cases (skipBlank text) with ⟨rest, start⟩ | ⟨rest, start⟩ | ⟨noBracket, noBrace⟩
    · rw [valueKeys_bracket start, valueKeys_bracket start]
      have inside := length_lt_of_skipBlank_eq start
      cases opened : firstElement rest with
      | error fault => rfl
      | ok next =>
        cases next with
        | inr after => rfl
        | inl first =>
          have shorter : first.length ≤ rest.length := firstElement_length_le opened
          simp only [elementKeys_add_fuel fuel extra (depth - 1) path 0 first (by omega)]
    · rw [valueKeys_brace start, valueKeys_brace start]
      have inside := length_lt_of_skipBlank_eq start
      cases opened : firstMember rest with
      | error fault => rfl
      | ok next =>
        cases next with
        | inr after => rfl
        | inl first =>
          have shorter : first.length ≤ rest.length := firstMember_length_le opened
          simp only [memberKeys_add_fuel fuel extra (depth - 1) path first (by omega)]
    · rw [valueKeys_other noBracket noBrace, valueKeys_other noBracket noBrace]

theorem elementKeys_add_fuel : ∀ (fuel extra depth : Nat) (path : List String) (position : Nat)
    (text : List Char), 2 * text.length + 1 < fuel →
      elementKeys (fuel + extra) depth path position text = elementKeys fuel depth path position text
  | 0, _, _, _, _, _, enough => absurd enough (Nat.not_lt_zero _)
  | fuel + 1, extra, depth, path, position, text, enough => by
    rw [Nat.succ_add, elementKeys, elementKeys, value_add_fuel fuel extra depth text (by omega),
      valueKeys_add_fuel fuel extra depth _ text (by omega)]
    cases read : value fuel depth text with
    | error fault => rfl
    | ok result =>
      obtain ⟨item, rest⟩ := result
      have taken := length_lt_of_value_ok read
      cases follows : afterElement rest with
      | error fault => simp only [follows]
      | ok next =>
        cases next with
        | inr after => simp only [follows]
        | inl following =>
          have shorter : following.length ≤ rest.length := afterElement_length_le follows
          simp only [follows, elementKeys_add_fuel fuel extra depth path _ following (by omega)]

theorem memberKeys_add_fuel : ∀ (fuel extra depth : Nat) (path : List String) (text : List Char),
    2 * text.length + 1 < fuel →
      memberKeys (fuel + extra) depth path text = memberKeys fuel depth path text
  | 0, _, _, _, _, enough => absurd enough (Nat.not_lt_zero _)
  | fuel + 1, extra, depth, path, text, enough => by
    rw [Nat.succ_add, memberKeys, memberKeys]
    cases quoted : Quoted.read text with
    | error fault => rfl
    | ok result =>
      obtain ⟨key, afterKey⟩ := result
      have named := Quoted.length_lt_of_read_ok quoted
      cases separated : colon afterKey with
      | error fault => simp only [separated]
      | ok afterColon =>
        have spaced := colon_length_le separated
        simp only [separated, value_add_fuel fuel extra depth afterColon (by omega),
          valueKeys_add_fuel fuel extra depth _ afterColon (by omega)]
        cases read : value fuel depth afterColon with
        | error fault => rfl
        | ok result =>
          obtain ⟨item, rest⟩ := result
          have taken := length_lt_of_value_ok read
          cases follows : afterMember rest with
          | error fault => simp only [follows]
          | ok next =>
            cases next with
            | inr after => simp only [follows]
            | inl following =>
              have shorter : following.length ≤ rest.length := afterMember_length_le follows
              simp only [follows, memberKeys_add_fuel fuel extra depth path following (by omega)]

end

end Json.Reader

open Json.Reader

/-- No reading of a text uses up its fuel: any more gives the same result, plainly and strictly. -/
theorem value_eq_of_enough_le {text : List Char} {fuel : Nat} (fits : enough text ≤ fuel) (depth : Nat)
    (path : List String) :
    Json.Reader.value fuel depth text = Json.Reader.value (enough text) depth text ∧
      Document.value fuel depth path text = Document.value (enough text) depth path text := by
  obtain ⟨extra, rfl⟩ := Nat.exists_eq_add_of_le fits
  have most : 2 * text.length < enough text := Nat.lt_succ_self _
  have untouched : Document.Untouched [] path := fun _ found => absurd found List.not_mem_nil
  have plain := value_add_fuel (enough text) extra depth text most
  refine ⟨plain, ?_⟩
  rw [Document.value_eq_strictly _ depth path text untouched,
    Document.value_eq_strictly _ depth path text untouched, plain,
    valueKeys_add_fuel (enough text) extra depth path text most]

end FieldTypes
