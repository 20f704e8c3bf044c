import FieldTypes.Json.Quoted
import FieldTypes.Proofs.Results

set_option autoImplicit false

namespace FieldTypes.Json.Quoted

theorem hexValue?_digitChar : ∀ digit < 16, hexValue? (Nat.digitChar digit) = some digit := by
  decide

theorem codeUnit_of_byte {unit : Nat} (byte : unit < 256) (rest : List Char) :
    codeUnit ('0' :: '0' :: Nat.digitChar (unit / 16) :: Nat.digitChar (unit % 16) :: rest) = .ok unit := by
  have high := hexValue?_digitChar (unit / 16) (by omega)
  have low := hexValue?_digitChar (unit % 16) (by omega)
  have zero : hexValue? '0' = some 0 := by decide
  have whole : ((0 * 16 + 0) * 16 + unit / 16) * 16 + unit % 16 = unit := by omega
  simp only [codeUnit, zero, high, low, whole]

theorem escape_of_control {c : Char} (control : c.toNat < 0x20) (rest : List Char) :
    escape ('u' :: '0' :: '0' :: Nat.digitChar (c.toNat / 16) :: Nat.digitChar (c.toNat % 16) :: rest) =
      .ok (c, 5) := by
  have notLow : isLowSurrogate c.toNat = false := by
    rw [isLowSurrogate, decide_eq_false_iff_not]
    omega
  have notHigh : isHighSurrogate c.toNat = false := by
    rw [isHighSurrogate, decide_eq_false_iff_not]
    omega
  have unit := codeUnit_of_byte (show c.toNat < 256 by omega) rest
  simp only [escape, ↓reduceIte, unit, bind, Except.bind, notLow, notHigh, Bool.false_eq_true,
    Char.ofNat_toNat]

theorem escape_of_named {mark c : Char} (noDigits : mark ≠ 'u') (named : named? mark = some c)
    (rest : List Char) : escape (mark :: rest) = .ok (c, 1) := by
  simp only [escape, if_neg noDigits, named]

theorem readFrom_named {mark c : Char} (noDigits : mark ≠ 'u') (named : named? mark = some c)
    (done rest : List Char) :
    readFrom done 0 ('\\' :: mark :: rest) = readFrom (c :: done) 0 rest := by
  have notQuote : ('\\' : Char) ≠ '"' := by decide
  rw [readFrom, if_neg notQuote, if_pos rfl, escape_of_named noDigits named]
  rfl

theorem readFrom_encodeChar (done : List Char) (c : Char) (rest : List Char) :
    readFrom done 0 (encodeChar c ++ rest) = readFrom (c :: done) 0 rest := by
  unfold encodeChar
  split
  · rename_i quote
    rw [quote]
    exact readFrom_named (by decide) rfl done rest
  split
  · rename_i backslash
    rw [backslash]
    exact readFrom_named (by decide) rfl done rest
  split
  · rename_i backspace
    rw [backspace]
    exact readFrom_named (by decide) rfl done rest
  split
  · rename_i formFeed
    rw [formFeed]
    exact readFrom_named (by decide) rfl done rest
  split
  · rename_i newline
    rw [newline]
    exact readFrom_named (by decide) rfl done rest
  split
  · rename_i carriageReturn
    rw [carriageReturn]
    exact readFrom_named (by decide) rfl done rest
  split
  · rename_i tab
    rw [tab]
    exact readFrom_named (by decide) rfl done rest
  rename_i notQuote notBackslash _ _ _ _ _
  split
  · rename_i control
    have notQuote : ('\\' : Char) ≠ '"' := by decide
    simp only [List.cons_append, List.nil_append]
    rw [readFrom, if_neg notQuote, if_pos rfl, escape_of_control control]
    rfl
  · rename_i printable
    rw [List.singleton_append, readFrom, if_neg notQuote, if_neg notBackslash, if_neg printable]

theorem readFrom_flatMap (done characters rest : List Char) :
    readFrom done 0 (characters.flatMap encodeChar ++ '"' :: rest) =
      .ok (done.reverse ++ characters, rest) := by
  induction characters generalizing done with
  | nil =>
    rw [List.flatMap_nil, List.nil_append, readFrom, if_pos rfl, List.append_nil]
  | cons c characters ih =>
    rw [List.flatMap_cons, List.append_assoc, readFrom_encodeChar, ih, List.reverse_cons,
      List.append_assoc, List.singleton_append]

/-- A string is read back from what follows its opening quote, whatever comes after it. -/
theorem read_encode (text : String) (rest : List Char) :
    ∃ body, encode text ++ rest = '"' :: body ∧ read body = .ok (text, rest) := by
  refine ⟨text.toList.flatMap encodeChar ++ '"' :: rest, ?_, ?_⟩
  · rw [encode, List.cons_append, List.cons_append, List.append_assoc, List.singleton_append]
  · rw [read, readFrom_flatMap]
    show Except.ok (String.ofList ([].reverse ++ text.toList), rest) = _
    rw [List.reverse_nil, List.nil_append, String.ofList_toList]

end FieldTypes.Json.Quoted
