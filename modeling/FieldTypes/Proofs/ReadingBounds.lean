import FieldTypes.Proofs.JsonSize
import FieldTypes.Proofs.PlainReading
import Mathlib.Data.List.TakeWhile

set_option autoImplicit false

namespace FieldTypes.Json

namespace Quoted

theorem length_lt_of_readFrom_ok {done text characters rest : List Char} {skip : Nat}
    (success : readFrom done skip text = .ok (characters, rest)) : rest.length < text.length := by
  induction text generalizing done skip with
  | nil => simp [readFrom] at success
  | cons c text ih =>
    rw [List.length_cons]
    cases skip with
    | succ skip =>
      rw [readFrom] at success
      exact Nat.lt_succ_of_lt (ih success)
    | zero =>
      rw [readFrom] at success
      split at success
      · rw [Except.ok.injEq, Prod.mk.injEq] at success
        rw [success.2]
        exact Nat.lt_succ_self _
      · split at success
        · split at success
          · simp at success
          · exact Nat.lt_succ_of_lt (ih success)
        · split at success
          · simp at success
          · exact Nat.lt_succ_of_lt (ih success)

theorem length_lt_of_read_ok {text rest : List Char} {value : String}
    (success : read text = .ok (value, rest)) : rest.length < text.length := by
  obtain ⟨⟨characters, after⟩, read, same⟩ := bind_eq_ok.1 success
  rw [Except.ok.injEq, Prod.mk.injEq] at same
  rw [← same.2]
  exact length_lt_of_readFrom_ok read

end Quoted

namespace Numeral

theorem integer?_inRange {numeral : Numeral} {value : Int} (found : numeral.integer? = some value) :
    (Number.integer value).InRange := by
  have signed : Nat.pow 2 63 = 0x8000000000000000 := rfl
  have unsigned : Nat.pow 2 64 = 0x10000000000000000 := rfl
  unfold Number.InRange
  unfold integer? at found
  split at found
  · simp at found
  · simp only at found
    split at found
    · split at found
      · rw [Option.some.injEq] at found
        omega
      · simp at found
    · split at found
      · rw [Option.some.injEq] at found
        omega
      · simp at found

theorem inRange_of_value_ok {numeral : Numeral} {value : Number}
    (success : numeral.value = .ok value) : value.InRange := by
  unfold Numeral.value at success
  split at success
  · rename_i integer found
    rw [Except.ok.injEq] at success
    rw [← success]
    exact integer?_inRange found
  · obtain ⟨float, _, rfl⟩ := map_eq_ok.1 success
    trivial

variable {text rest : List Char}

theorem length_dropWhile_lt {digits : List Char} {c : Char}
    (taken : text.takeWhile Char.isDigit = c :: digits) :
    (text.dropWhile Char.isDigit).length < text.length := by
  have whole := congrArg List.length (List.takeWhile_append_dropWhile (p := Char.isDigit) (l := text))
  rw [taken, List.length_append, List.length_cons] at whole
  omega

theorem readWhole_length_lt {digits : List Char} (success : readWhole text = .ok (digits, rest)) :
    rest.length < text.length := by
  unfold readWhole at success
  simp only at success
  split at success
  · simp at success
  · simp at success
  · rename_i nonempty _
    rw [Except.ok.injEq, Prod.mk.injEq] at success
    rw [← success.2]
    obtain ⟨c, digits, taken⟩ := List.exists_cons_of_ne_nil nonempty
    exact length_dropWhile_lt taken

theorem readFraction_length_le {digits : Option (List Char)}
    (success : readFraction text = .ok (digits, rest)) : rest.length ≤ text.length := by
  unfold readFraction at success
  split at success
  · rename_i after
    simp only at success
    have shorter := List.length_dropWhile_le Char.isDigit after
    split at success
    · simp at success
    · rw [Except.ok.injEq, Prod.mk.injEq] at success
      rw [← success.2, List.length_cons]
      omega
  · rw [Except.ok.injEq, Prod.mk.injEq] at success
    rw [success.2]

theorem readPower_length_le {negative : Bool} {power : Option Int}
    (success : readPower negative text = .ok (power, rest)) : rest.length ≤ text.length := by
  unfold readPower at success
  simp only at success
  have shorter := List.length_dropWhile_le Char.isDigit text
  split at success
  · simp at success
  · rw [Except.ok.injEq, Prod.mk.injEq] at success
    rw [← success.2]
    exact shorter

theorem readExponent_length_le {power : Option Int}
    (success : readExponent text = .ok (power, rest)) : rest.length ≤ text.length := by
  unfold readExponent at success
  split at success
  · rw [List.length_cons]
    split at success
    · split at success
      · have shorter := readPower_length_le success
        rw [List.length_cons]
        omega
      · have shorter := readPower_length_le success
        rw [List.length_cons]
        omega
      · have shorter := readPower_length_le success
        omega
    · rw [Except.ok.injEq, Prod.mk.injEq] at success
      rw [← success.2, List.length_cons]
  · rw [Except.ok.injEq, Prod.mk.injEq] at success
    rw [← success.2]

theorem length_lt_of_read_ok {negative : Bool} {numeral : Numeral}
    (success : Numeral.read negative text = .ok (numeral, rest)) : rest.length < text.length := by
  obtain ⟨⟨whole, afterWhole⟩, readWhole, success⟩ := bind_eq_ok.1 success
  obtain ⟨⟨fraction, afterFraction⟩, readFraction, success⟩ := bind_eq_ok.1 success
  obtain ⟨⟨exponent, afterExponent⟩, readExponent, same⟩ := bind_eq_ok.1 success
  rw [Except.ok.injEq, Prod.mk.injEq] at same
  have first := readWhole_length_lt readWhole
  have second := readFraction_length_le readFraction
  have third := readExponent_length_le readExponent
  rw [← same.2]
  omega

end Numeral

namespace Reader

section Punctuation

variable {text rest : List Char}

theorem skipBlank_length_le (text : List Char) : (skipBlank text).length ≤ text.length :=
  List.length_dropWhile_le isBlank text

theorem colon_length_le (success : colon text = .ok rest) : rest.length ≤ text.length := by
  have shorter := skipBlank_length_le text
  unfold colon at success
  split at success
  · simp at success
  · rename_i start
    rw [start, List.length_cons] at shorter
    split at success
    · rw [Except.ok.injEq] at success
      rw [← success]
      omega
    · simp at success

/-- The text that is left, whichever way a reading goes on. -/
abbrev left (next : List Char ⊕ List Char) : List Char := next.elim id id

variable {next : List Char ⊕ List Char}

theorem firstElement_length_le (success : firstElement text = .ok next) :
    (left next).length ≤ text.length := by
  have shorter := skipBlank_length_le text
  unfold firstElement at success
  split at success
  · simp at success
  · rename_i start
    rw [start] at shorter
    split at success
    · rw [Except.ok.injEq] at success
      rw [← success]
      exact Nat.le_of_succ_le shorter
    · rw [Except.ok.injEq] at success
      rw [← success]
      exact shorter

theorem firstMember_length_le (success : firstMember text = .ok next) :
    (left next).length ≤ text.length := by
  have shorter := skipBlank_length_le text
  unfold firstMember at success
  split at success
  · simp at success
  · rename_i start
    rw [start] at shorter
    split at success
    · rw [Except.ok.injEq] at success
      rw [← success]
      exact Nat.le_of_succ_le shorter
    · split at success
      · rw [Except.ok.injEq] at success
        rw [← success]
        exact Nat.le_of_succ_le shorter
      · simp at success

theorem afterElement_length_le (success : afterElement text = .ok next) :
    (left next).length ≤ text.length := by
  have shorter := skipBlank_length_le text
  unfold afterElement at success
  split at success
  · simp at success
  · rename_i after start
    rw [start, List.length_cons] at shorter
    split at success
    · rw [Except.ok.injEq] at success
      rw [← success]
      exact Nat.le_of_succ_le shorter
    · split at success
      · have shorterStill := skipBlank_length_le after
        split at success
        · simp at success
        · rename_i start
          rw [start] at shorterStill
          split at success
          · simp at success
          · rw [Except.ok.injEq] at success
            rw [← success]
            exact shorterStill.trans (Nat.le_of_succ_le shorter)
      · simp at success

theorem afterMember_length_le (success : afterMember text = .ok next) :
    (left next).length ≤ text.length := by
  have shorter := skipBlank_length_le text
  unfold afterMember at success
  split at success
  · simp at success
  · rename_i after start
    rw [start, List.length_cons] at shorter
    split at success
    · rw [Except.ok.injEq] at success
      rw [← success]
      exact Nat.le_of_succ_le shorter
    · split at success
      · have shorterStill := skipBlank_length_le after
        split at success
        · simp at success
        · rename_i start
          rw [start] at shorterStill
          split at success
          · rw [Except.ok.injEq] at success
            rw [← success]
            exact (Nat.le_of_succ_le shorterStill).trans (Nat.le_of_succ_le shorter)
          · split at success
            · simp at success
            · simp at success
      · simp at success

end Punctuation

/-- The bounds of a value that was read with `depth` levels to open, and left `rest` of the text. -/
structure Bounded (depth : Nat) (text : List Char) (value : Json) (rest : List Char) : Prop where
  nesting_le : value.nesting ≤ depth
  weight_le : value.weight + rest.length ≤ text.length
  inRange : value.EachNumber Number.InRange

theorem bounded_of_scalar_ok {text rest : List Char} {value : Json} (depth : Nat)
    (success : scalar text = .ok (value, rest)) : Bounded depth text value rest := by
  have isScalar := isScalar_of_scalar_ok success
  have shorter : rest.length < text.length := by
    cases scalar_ok success with
    | null shorter => exact shorter
    | bool _ shorter => exact shorter
    | string start read =>
      have shorter := Quoted.length_lt_of_read_ok read
      rw [start, List.length_cons]
      omega
    | number start read =>
      have shorter := Numeral.length_lt_of_read_ok read
      omega
  refine ⟨?_, ?_, ?_⟩
  · rw [nesting_scalar isScalar]
    exact Nat.zero_le _
  · rw [weight_scalar isScalar]
    omega
  · cases scalar_ok success with
    | number _ _ valued => exact eachNumber_number.2 (Numeral.inRange_of_value_ok valued)
    | null => exact eachNumber_scalar isScalar nofun
    | bool => exact eachNumber_scalar isScalar nofun
    | string => exact eachNumber_scalar isScalar nofun

mutual

/-- What a reading yields is bounded; by induction on the fuel, along the steps of the reading. -/
theorem bounded_of_value_ok : ∀ (fuel depth : Nat) (text : List Char) {result : Json} {rest : List Char},
    value fuel depth text = .ok (result, rest) → Bounded depth text result rest
  | 0, _, _, _, _, success => by simp [value] at success
  | fuel + 1, depth, text, result, rest, success => by
    -- every step of the reading leaves a shorter text, which pays for the part that it reads
    have shorter := skipBlank_length_le text
    cases value_ok success with
    | emptyArray start deep closed =>
      have left := firstElement_length_le closed
      rw [start, List.length_cons] at shorter
      refine ⟨deep, ?_, eachNumber_array.2 nofun⟩
      simp only [weight, itemsWeight, Sum.elim_inr, id] at left ⊢
      omega
    | array start deep opened read =>
      have left := firstElement_length_le opened
      rw [start, List.length_cons] at shorter
      obtain ⟨nested, weighed, numbers⟩ := bounded_of_elements_ok fuel (depth - 1) _ read
      refine ⟨?_, ?_, eachNumber_array.2 numbers⟩
      · rw [nesting]
        omega
      · simp only [weight, Sum.elim_inl, id] at left ⊢
        omega
    | emptyObject start deep closed =>
      have left := firstMember_length_le closed
      rw [start, List.length_cons] at shorter
      refine ⟨deep, ?_, eachNumber_object.2 nofun⟩
      simp only [weight, membersWeight, Sum.elim_inr, id] at left ⊢
      omega
    | object start deep opened read =>
      have left := firstMember_length_le opened
      rw [start, List.length_cons] at shorter
      obtain ⟨nested, weighed, numbers⟩ := bounded_of_members_ok fuel (depth - 1) _ read
      refine ⟨?_, ?_, eachNumber_object.2 numbers⟩
      · rw [nesting]
        omega
      · simp only [weight, Sum.elim_inl, id] at left ⊢
        omega
    | scalar noBracket noBrace read =>
      obtain ⟨nested, weighed, numbers⟩ := bounded_of_scalar_ok depth read
      exact ⟨nested, weighed.trans shorter, numbers⟩

theorem bounded_of_elements_ok : ∀ (fuel depth : Nat) (text : List Char) {items : List Json}
    {rest : List Char}, elements fuel depth text = .ok (items, rest) →
      itemsNesting items ≤ depth ∧ itemsWeight items + rest.length ≤ text.length ∧
        ∀ item ∈ items, item.EachNumber Number.InRange
  | 0, _, _, _, _, success => by simp [elements] at success
  | fuel + 1, depth, text, items, rest, success => by
    cases elements_ok success with
    | last read closed =>
      obtain ⟨nested, weighed, numbers⟩ := bounded_of_value_ok fuel depth text read
      have left := afterElement_length_le closed
      refine ⟨?_, ?_, List.forall_mem_singleton.2 numbers⟩
      · rw [itemsNesting, itemsNesting, Nat.max_zero]
        exact nested
      · simp only [itemsWeight, Sum.elim_inr, id] at left ⊢
        omega
    | more read follows others =>
      obtain ⟨nested, weighed, numbers⟩ := bounded_of_value_ok fuel depth text read
      obtain ⟨restNested, restWeighed, restNumbers⟩ := bounded_of_elements_ok fuel depth _ others
      have left := afterElement_length_le follows
      refine ⟨?_, ?_, List.forall_mem_cons.2 ⟨numbers, restNumbers⟩⟩
      · rw [itemsNesting, Nat.max_le]
        exact ⟨nested, restNested⟩
      · simp only [itemsWeight, Sum.elim_inl, id] at left ⊢
        omega

theorem bounded_of_members_ok : ∀ (fuel depth : Nat) (text : List Char) {entries : Members}
    {rest : List Char}, members fuel depth text = .ok (entries, rest) →
      membersNesting entries ≤ depth ∧ membersWeight entries + rest.length ≤ text.length ∧
        ∀ member ∈ entries, member.2.EachNumber Number.InRange
  | 0, _, _, _, _, success => by simp [members] at success
  | fuel + 1, depth, text, entries, rest, success => by
    cases members_ok success with
    | last quoted separated read closed =>
      obtain ⟨nested, weighed, numbers⟩ := bounded_of_value_ok fuel depth _ read
      have key := Quoted.length_lt_of_read_ok quoted
      have colon := colon_length_le separated
      have left := afterMember_length_le closed
      refine ⟨?_, ?_, List.forall_mem_singleton.2 numbers⟩
      · rw [membersNesting, membersNesting, Nat.max_zero]
        exact nested
      · simp only [membersWeight, Sum.elim_inr, id] at left ⊢
        omega
    | more quoted separated read follows others =>
      obtain ⟨nested, weighed, numbers⟩ := bounded_of_value_ok fuel depth _ read
      obtain ⟨restNested, restWeighed, restNumbers⟩ := bounded_of_members_ok fuel depth _ others
      have key := Quoted.length_lt_of_read_ok quoted
      have colon := colon_length_le separated
      have left := afterMember_length_le follows
      refine ⟨?_, ?_, List.forall_mem_cons.2 ⟨numbers, restNumbers⟩⟩
      · rw [membersNesting, Nat.max_le]
        exact ⟨nested, restNested⟩
      · simp only [membersWeight, Sum.elim_inl, id] at left ⊢
        omega

end

end Reader

/-- What a text spells is nested at most as deep as reading allows, has no more parts than the text has
characters, and holds only numbers in range. -/
theorem read_bounded {text : String} {value : Json} (accepted : Json.read text = .ok value) :
    value.nesting ≤ deepest ∧ value.weight ≤ text.length ∧ value.EachNumber Number.InRange := by
  obtain ⟨rest, reading, _⟩ := read_ok accepted
  obtain ⟨nested, weighed, numbers⟩ := Reader.bounded_of_value_ok _ _ _ reading
  refine ⟨nested, ?_, numbers⟩
  rw [String.length_toList] at weighed
  omega

end FieldTypes.Json
