import FieldTypes.Json.NumberText
import FieldTypes.Json.Reader
import FieldTypes.Proofs.Results

set_option autoImplicit false

namespace FieldTypes.Json

/-- A text that does not go on like a number. -/
def EndsNumber : List Char → Prop
  | [] => True
  | c :: _ => c.isDigit = false ∧ c ≠ '.' ∧ c ≠ 'e' ∧ c ≠ 'E'

theorem digits_isDigit (n : Nat) : ∀ c ∈ Nat.toDigits 10 n, c.isDigit = true := by
  intro c mem
  exact Nat.isDigit_of_mem_toDigits (by decide) (by decide) mem

theorem toDigits_of_pos {n : Nat} (positive : 0 < n) :
    ∃ c digits, Nat.toDigits 10 n = c :: digits ∧ c ≠ '0' := by
  induction n using Nat.strongRecOn with
  | ind n ih =>
    by_cases small : n < 10
    · have nonzero : ∀ digit < 10, 0 < digit → Nat.digitChar digit ≠ '0' := by decide
      exact ⟨_, [], Nat.toDigits_of_lt_base small, nonzero n small positive⟩
    · obtain ⟨c, digits, same, nonzero⟩ := ih (n / 10) (by omega) (by omega)
      refine ⟨c, digits ++ [Nat.digitChar (n % 10)], ?_, nonzero⟩
      rw [Nat.toDigits_of_base_le (by decide) (by omega), same, List.cons_append]

namespace Numeral

theorem digitsValue_toDigits (n : Nat) : digitsValue (Nat.toDigits 10 n) = n := by
  have step : (fun value c => value * 10 + digitValue c) =
      fun (value : Nat) (c : Char) => 10 * value + (c.toNat - '0'.toNat) := by
    funext value c
    rw [digitValue, Nat.mul_comm value 10]
    rfl
  calc digitsValue (Nat.toDigits 10 n)
      = Nat.ofDigitChars 10 (Nat.toDigits 10 n) 0 := by rw [digitsValue, step, Nat.ofDigitChars_eq_foldl]
    _ = n := Nat.ofDigitChars_ten_toDigits

section

variable {rest : List Char} (ends : EndsNumber rest)
include ends

theorem takeWhile_isDigit : rest.takeWhile Char.isDigit = [] := by
  cases rest with
  | nil => rfl
  | cons c rest => rw [List.takeWhile_cons, ends.1, if_neg Bool.false_ne_true]

theorem dropWhile_isDigit : rest.dropWhile Char.isDigit = rest := by
  cases rest with
  | nil => rfl
  | cons c rest => rw [List.dropWhile_cons, ends.1, if_neg Bool.false_ne_true]

theorem readWhole_toDigits (n : Nat) :
    readWhole (Nat.toDigits 10 n ++ rest) = .ok (Nat.toDigits 10 n, rest) := by
  have taken : (Nat.toDigits 10 n ++ rest).takeWhile Char.isDigit = Nat.toDigits 10 n := by
    rw [List.takeWhile_append_of_pos (digits_isDigit n), takeWhile_isDigit ends, List.append_nil]
  have dropped : (Nat.toDigits 10 n ++ rest).dropWhile Char.isDigit = rest := by
    rw [List.dropWhile_append_of_pos (digits_isDigit n), dropWhile_isDigit ends]
  rw [readWhole, taken, dropped]
  rcases Nat.eq_zero_or_pos n with zero | positive
  · rw [zero]
    rfl
  · obtain ⟨c, digits, same, nonzero⟩ := toDigits_of_pos positive
    rw [same]
    split
    · simp at *
    · rename_i starts
      rw [List.cons.injEq] at starts
      exact absurd starts.1 nonzero
    · rfl

theorem readFraction_none : readFraction rest = .ok (none, rest) := by
  unfold readFraction
  split
  · exact absurd rfl ends.2.1
  · rfl

theorem readExponent_none : readExponent rest = .ok (none, rest) := by
  cases rest with
  | nil => rfl
  | cons c rest =>
    have noMark : ¬ (c = 'e' ∨ c = 'E') := by
      rintro (small | capital)
      · exact ends.2.2.1 small
      · exact ends.2.2.2 capital
    unfold readExponent
    exact if_neg noMark

theorem read_toDigits (negative : Bool) (n : Nat) :
    Numeral.read negative (Nat.toDigits 10 n ++ rest) =
      .ok (⟨negative, Nat.toDigits 10 n, none, none⟩, rest) := by
  simp only [Numeral.read, readWhole_toDigits ends, readFraction_none ends, readExponent_none ends,
    bind, Except.bind]

end

theorem value_ofNat {n : Nat} (inRange : (n : Int) < 0x10000000000000000) :
    Numeral.value ⟨false, Nat.toDigits 10 n, none, none⟩ = .ok (.integer n) := by
  have fits : n < Nat.pow 2 64 := by
    rw [Nat.pow_eq]
    omega
  have integer : Numeral.integer? ⟨false, Nat.toDigits 10 n, none, none⟩ = some (n : Int) := by
    simp only [Numeral.integer?, digitsValue_toDigits, Option.isSome_none, Bool.false_eq_true, or_self,
      ↓reduceIte, fits]
  rw [Numeral.value, integer]

theorem value_negSucc {n : Nat} (inRange : -0x8000000000000000 ≤ Int.negSucc n) :
    Numeral.value ⟨true, Nat.toDigits 10 (n + 1), none, none⟩ = .ok (.integer (.negSucc n)) := by
  have fits : n + 1 ≤ Nat.pow 2 63 := by
    rw [Nat.pow_eq]
    omega
  have integer : Numeral.integer? ⟨true, Nat.toDigits 10 (n + 1), none, none⟩ = some (.negSucc n) := by
    simp only [Numeral.integer?, digitsValue_toDigits, Option.isSome_none, Bool.false_eq_true, or_self,
      ↓reduceIte, Nat.zero_lt_succ, fits, and_self]
    rfl
  rw [Numeral.value, integer]

end Numeral

namespace Reader

variable {rest : List Char}

theorem number_toDigits {negative : Bool} {n : Nat} {number : Number} (ends : EndsNumber rest)
    (valued : Numeral.value ⟨negative, Nat.toDigits 10 n, none, none⟩ = .ok number) :
    Reader.number negative (Nat.toDigits 10 n ++ rest) = .ok (.number number, rest) := by
  simp only [Reader.number, Numeral.read_toDigits ends, bind, Except.bind, valued]

theorem scalar_digit {c : Char} (digit : c.isDigit = true) :
    scalar (c :: rest) = Reader.number false (c :: rest) := by
  have other : c ≠ 'n' ∧ c ≠ 't' ∧ c ≠ 'f' ∧ c ≠ '"' ∧ c ≠ '-' := by
    refine ⟨?_, ?_, ?_, ?_, ?_⟩
    all_goals
      rintro rfl
      exact absurd digit (by decide)
  obtain ⟨notN, notT, notF, notQuote, notMinus⟩ := other
  rw [scalar, if_neg notN, if_neg notT, if_neg notF, if_neg notQuote, if_neg notMinus, if_pos digit]

theorem toDigits_eq_cons (n : Nat) : ∃ c digits, Nat.toDigits 10 n = c :: digits ∧ c.isDigit = true := by
  obtain ⟨c, digits, same⟩ := List.exists_cons_of_ne_nil (Nat.toDigits_ne_nil (n := n) (b := 10))
  refine ⟨c, digits, same, digits_isDigit n c ?_⟩
  rw [same]
  exact List.mem_cons_self

theorem isBlank_of_isDigit {c : Char} (digit : c.isDigit = true) : isBlank c = false := by
  rw [Bool.eq_false_iff]
  intro blank
  simp only [isBlank, Bool.or_eq_true, beq_iff_eq] at blank
  rcases blank with ((rfl | rfl) | rfl) | rfl
  all_goals exact absurd digit (by decide)

theorem start_of_integerText (value : Int) :
    ∃ c more, Number.integerText value = c :: more ∧ isBlank c = false ∧ c ≠ '[' ∧ c ≠ '{' := by
  cases value with
  | ofNat n =>
    obtain ⟨c, digits, same, digit⟩ := toDigits_eq_cons n
    refine ⟨c, digits, same, isBlank_of_isDigit digit, ?_, ?_⟩
    · rintro rfl
      exact absurd digit (by decide)
    · rintro rfl
      exact absurd digit (by decide)
  | negSucc n => exact ⟨'-', _, rfl, by decide, by decide, by decide⟩

/-- An integer in range is read back from its text. -/
theorem scalar_integerText {value : Int} (lower : -0x8000000000000000 ≤ value)
    (upper : value < 0x10000000000000000) (ends : EndsNumber rest) :
    scalar (Number.integerText value ++ rest) = .ok (.number (.integer value), rest) := by
  cases value with
  | ofNat n =>
    have read := number_toDigits ends (Numeral.value_ofNat upper)
    obtain ⟨c, digits, same, digit⟩ := toDigits_eq_cons n
    rw [same, List.cons_append] at read
    rw [Number.integerText, same, List.cons_append, scalar_digit digit, read]
    rfl
  | negSucc n =>
    have read := number_toDigits ends (Numeral.value_negSucc lower)
    rw [Number.integerText, List.cons_append, scalar]
    exact read

end Reader

end FieldTypes.Json
