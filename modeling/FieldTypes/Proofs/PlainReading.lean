import FieldTypes.Json.Reader
import FieldTypes.Proofs.JsonParts
import FieldTypes.Proofs.Results

set_option autoImplicit false

namespace FieldTypes.Json.Reader

section Cases

variable {fuel depth : Nat} {text rest : List Char}

theorem value_bracket (start : skipBlank text = '[' :: rest) :
    value (fuel + 1) depth text =
      if depth = 0 then .error .tooDeep
      else
        match firstElement rest with
        | .error fault => .error fault
        | .ok (.inr rest) => .ok (.array [], rest)
        | .ok (.inl rest) => (do
          let (items, rest) ← elements fuel (depth - 1) rest
          .ok (.array items, rest)) := by
  rw [value]
  split
  · cases start.symm.trans ‹_›
    rfl
  · cases start.symm.trans ‹_›
  · rename_i noBracket _
    exact absurd start (noBracket rest)

theorem value_brace (start : skipBlank text = '{' :: rest) :
    value (fuel + 1) depth text =
      if depth = 0 then .error .tooDeep
      else
        match firstMember rest with
        | .error fault => .error fault
        | .ok (.inr rest) => .ok (.object [], rest)
        | .ok (.inl rest) => (do
          let (entries, rest) ← members fuel (depth - 1) rest
          .ok (.object entries, rest)) := by
  rw [value]
  split
  · cases start.symm.trans ‹_›
  · cases start.symm.trans ‹_›
    rfl
  · rename_i noBrace
    exact absurd start (noBrace rest)

theorem value_other (noBracket : ∀ rest, skipBlank text ≠ '[' :: rest)
    (noBrace : ∀ rest, skipBlank text ≠ '{' :: rest) :
    value (fuel + 1) depth text = scalar (skipBlank text) := by
  rw [value]
  split
  · exact absurd ‹_› (noBracket _)
  · exact absurd ‹_› (noBrace _)
  · rfl

theorem starts_cases (text : List Char) :
    (∃ rest, text = '[' :: rest) ∨ (∃ rest, text = '{' :: rest) ∨
      ((∀ rest, text ≠ '[' :: rest) ∧ ∀ rest, text ≠ '{' :: rest) := by
  by_cases bracket : ∃ rest, text = '[' :: rest
  · exact .inl bracket
  · by_cases brace : ∃ rest, text = '{' :: rest
    · exact .inr (.inl brace)
    · exact .inr (.inr ⟨not_exists.1 bracket, not_exists.1 brace⟩)

end Cases

/-- What a successful reading of a value went through, with one unit of fuel less. -/
inductive ValueRead (fuel depth : Nat) (text : List Char) : Json → List Char → Prop where
  | emptyArray {after rest : List Char} (start : skipBlank text = '[' :: after) (deep : 0 < depth)
      (closed : firstElement after = .ok (.inr rest)) : ValueRead fuel depth text (.array []) rest
  | array {after first rest : List Char} {items : List Json} (start : skipBlank text = '[' :: after)
      (deep : 0 < depth) (opened : firstElement after = .ok (.inl first))
      (read : elements fuel (depth - 1) first = .ok (items, rest)) :
      ValueRead fuel depth text (.array items) rest
  | emptyObject {after rest : List Char} (start : skipBlank text = '{' :: after) (deep : 0 < depth)
      (closed : firstMember after = .ok (.inr rest)) : ValueRead fuel depth text (.object []) rest
  | object {after first rest : List Char} {entries : Members} (start : skipBlank text = '{' :: after)
      (deep : 0 < depth) (opened : firstMember after = .ok (.inl first))
      (read : members fuel (depth - 1) first = .ok (entries, rest)) :
      ValueRead fuel depth text (.object entries) rest
  | scalar {result : Json} {rest : List Char} (noBracket : ∀ rest, skipBlank text ≠ '[' :: rest)
      (noBrace : ∀ rest, skipBlank text ≠ '{' :: rest)
      (read : scalar (skipBlank text) = .ok (result, rest)) : ValueRead fuel depth text result rest

inductive ElementsRead (fuel depth : Nat) (text : List Char) : List Json → List Char → Prop where
  | last {item : Json} {middle rest : List Char} (read : value fuel depth text = .ok (item, middle))
      (closed : afterElement middle = .ok (.inr rest)) : ElementsRead fuel depth text [item] rest
  | more {item : Json} {items : List Json} {middle next rest : List Char}
      (read : value fuel depth text = .ok (item, middle))
      (follows : afterElement middle = .ok (.inl next))
      (others : elements fuel depth next = .ok (items, rest)) :
      ElementsRead fuel depth text (item :: items) rest

inductive MembersRead (fuel depth : Nat) (text : List Char) : Members → List Char → Prop where
  | last {key : String} {item : Json} {afterKey afterColon middle rest : List Char}
      (quoted : Quoted.read text = .ok (key, afterKey)) (separated : colon afterKey = .ok afterColon)
      (read : value fuel depth afterColon = .ok (item, middle))
      (closed : afterMember middle = .ok (.inr rest)) :
      MembersRead fuel depth text [(key, item)] rest
  | more {key : String} {item : Json} {entries : Members}
      {afterKey afterColon middle next rest : List Char}
      (quoted : Quoted.read text = .ok (key, afterKey)) (separated : colon afterKey = .ok afterColon)
      (read : value fuel depth afterColon = .ok (item, middle))
      (follows : afterMember middle = .ok (.inl next))
      (others : members fuel depth next = .ok (entries, rest)) :
      MembersRead fuel depth text ((key, item) :: entries) rest

section Successes

variable {fuel depth : Nat} {text rest : List Char}

theorem value_ok {result : Json} (success : value (fuel + 1) depth text = .ok (result, rest)) :
    ValueRead fuel depth text result rest := by
  rcases starts_cases (skipBlank text) with ⟨after, start⟩ | ⟨after, start⟩ | ⟨noBracket, noBrace⟩
  · rw [value_bracket start] at success
    by_cases none : depth = 0
    · simp [none] at success
    · have deep : 0 < depth := Nat.pos_of_ne_zero none
      simp only [none, ↓reduceIte] at success
      split at success
      · simp at success
      · rename_i closed
        simp only [Except.ok.injEq, Prod.mk.injEq] at success
        rw [← success.1]
        exact .emptyArray start deep (by rw [closed, success.2])
      · rename_i first opened
        obtain ⟨⟨items, after⟩, read, same⟩ := bind_eq_ok.1 success
        simp only [Except.ok.injEq, Prod.mk.injEq] at same
        rw [← same.1]
        exact .array start deep opened (by rw [read, same.2])
  · rw [value_brace start] at success
    by_cases none : depth = 0
    · simp [none] at success
    · have deep : 0 < depth := Nat.pos_of_ne_zero none
      simp only [none, ↓reduceIte] at success
      split at success
      · simp at success
      · rename_i closed
        simp only [Except.ok.injEq, Prod.mk.injEq] at success
        rw [← success.1]
        exact .emptyObject start deep (by rw [closed, success.2])
      · rename_i first opened
        obtain ⟨⟨entries, after⟩, read, same⟩ := bind_eq_ok.1 success
        simp only [Except.ok.injEq, Prod.mk.injEq] at same
        rw [← same.1]
        exact .object start deep opened (by rw [read, same.2])
  · rw [value_other noBracket noBrace] at success
    exact .scalar noBracket noBrace success

theorem elements_ok {items : List Json}
    (success : elements (fuel + 1) depth text = .ok (items, rest)) :
    ElementsRead fuel depth text items rest := by
  rw [elements] at success
  obtain ⟨⟨item, middle⟩, read, success⟩ := bind_eq_ok.1 success
  simp only at success
  split at success
  · simp at success
  · rename_i closed
    simp only [Except.ok.injEq, Prod.mk.injEq] at success
    rw [← success.1]
    exact .last read (by rw [closed, success.2])
  · rename_i next follows
    obtain ⟨⟨others, after⟩, more, same⟩ := bind_eq_ok.1 success
    simp only [Except.ok.injEq, Prod.mk.injEq] at same
    rw [← same.1]
    exact .more read follows (by rw [more, same.2])

theorem members_ok {entries : Members}
    (success : members (fuel + 1) depth text = .ok (entries, rest)) :
    MembersRead fuel depth text entries rest := by
  rw [members] at success
  obtain ⟨⟨key, afterKey⟩, quoted, success⟩ := bind_eq_ok.1 success
  obtain ⟨afterColon, separated, success⟩ := bind_eq_ok.1 success
  obtain ⟨⟨item, middle⟩, read, success⟩ := bind_eq_ok.1 success
  simp only at success
  split at success
  · simp at success
  · rename_i closed
    simp only [Except.ok.injEq, Prod.mk.injEq] at success
    rw [← success.1]
    exact .last quoted separated read (by rw [closed, success.2])
  · rename_i next follows
    obtain ⟨⟨others, after⟩, more, same⟩ := bind_eq_ok.1 success
    simp only [Except.ok.injEq, Prod.mk.injEq] at same
    rw [← same.1]
    exact .more quoted separated read follows (by rw [more, same.2])

theorem word_ok {result expected : Json} {more : List Char}
    (success : word expected more text = .ok (result, rest)) :
    result = expected ∧ rest.length ≤ text.length := by
  induction more generalizing text with
  | nil =>
    simp only [word, Except.ok.injEq, Prod.mk.injEq] at success
    rw [success.2]
    exact ⟨success.1.symm, Nat.le_refl _⟩
  | cons c more ih =>
    cases text with
    | nil => simp [word] at success
    | cons d text =>
      rw [word] at success
      split at success
      · obtain ⟨same, shorter⟩ := ih success
        exact ⟨same, Nat.le_succ_of_le shorter⟩
      · simp at success

theorem number_ok {negative : Bool} {result : Json}
    (success : number negative text = .ok (result, rest)) :
    ∃ numeral value, Numeral.read negative text = .ok (numeral, rest) ∧ numeral.value = .ok value ∧
      result = .number value := by
  obtain ⟨⟨numeral, after⟩, read, success⟩ := bind_eq_ok.1 success
  obtain ⟨value, valued, same⟩ := bind_eq_ok.1 success
  simp only [Except.ok.injEq, Prod.mk.injEq] at same
  exact ⟨numeral, value, by rw [read, same.2], valued, same.1.symm⟩

/-- What a successful reading of a value that is neither an array nor an object went through. -/
inductive ScalarRead (text : List Char) : Json → List Char → Prop where
  | null {rest : List Char} (shorter : rest.length < text.length) : ScalarRead text .null rest
  | bool {rest : List Char} (value : Bool) (shorter : rest.length < text.length) :
      ScalarRead text (.bool value) rest
  | string {first : Char} {after rest : List Char} {value : String} (start : text = first :: after)
      (read : Quoted.read after = .ok (value, rest)) : ScalarRead text (.string value) rest
  | number {negative : Bool} {after rest : List Char} {numeral : Numeral} {value : Number}
      (start : after.length ≤ text.length) (read : Numeral.read negative after = .ok (numeral, rest))
      (valued : numeral.value = .ok value) : ScalarRead text (.number value) rest

theorem scalar_ok {result : Json} (success : scalar text = .ok (result, rest)) :
    ScalarRead text result rest := by
  unfold scalar at success
  split at success
  · simp at success
  · rename_i c after
    split at success
    · obtain ⟨same, shorter⟩ := word_ok success
      rw [same]
      exact .null (Nat.lt_succ_of_le shorter)
    · split at success
      · obtain ⟨same, shorter⟩ := word_ok success
        rw [same]
        exact .bool true (Nat.lt_succ_of_le shorter)
      · split at success
        · obtain ⟨same, shorter⟩ := word_ok success
          rw [same]
          exact .bool false (Nat.lt_succ_of_le shorter)
        · split at success
          · obtain ⟨⟨string, _⟩, read, same⟩ := bind_eq_ok.1 success
            simp only [Except.ok.injEq, Prod.mk.injEq] at same
            rw [← same.1]
            exact .string rfl (by rw [read, same.2])
          · split at success
            · obtain ⟨numeral, value, read, valued, same⟩ := number_ok success
              rw [same]
              exact .number (Nat.le_succ _) read valued
            · split at success
              · obtain ⟨numeral, value, read, valued, same⟩ := number_ok success
                rw [same]
                exact .number (Nat.le_refl _) read valued
              · simp at success

theorem isScalar_of_scalar_ok {result : Json} (success : scalar text = .ok (result, rest)) :
    result.IsScalar := by
  cases scalar_ok success with
  | null | bool | string | number => trivial

end Successes

end FieldTypes.Json.Reader

namespace FieldTypes

theorem Json.read_ok {text : String} {value : Json} (success : Json.read text = .ok value) :
    ∃ rest, Json.Reader.value (Json.Reader.enough text.toList) Json.deepest text.toList =
      .ok (value, rest) ∧ Json.Reader.finish rest = .ok () := by
  obtain ⟨⟨read, rest⟩, reading, success⟩ := bind_eq_ok.1 success
  obtain ⟨⟨⟩, finished, same⟩ := bind_eq_ok.1 success
  rw [Except.ok.injEq] at same
  exact ⟨rest, by rw [reading, same], finished⟩

end FieldTypes
