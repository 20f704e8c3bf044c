import Mathlib.Data.List.Induction
import Mathlib.Tactic.SplitIfs

set_option autoImplicit false

namespace FieldTypes.Text

def bytes (text : String) : List UInt8 := text.toUTF8.data.toList

theorem bytes_eq_flatMap (text : String) : bytes text = text.toList.flatMap String.utf8EncodeChar := by
  have encoded : text.toUTF8 = (text.toList.flatMap String.utf8EncodeChar).toByteArray := by
    rw [String.toUTF8_eq_toByteArray, ← String.utf8Encode_toList, List.utf8Encode]
  rw [bytes, encoded, List.data_toByteArray]

/-- The smaller of two numbers is smaller at the first of their digits in which they differ. -/
theorem lt_digits (base : Nat) {m n : Nat} (less : m < n) :
    m / base < n / base ∨ m / base = n / base ∧ m % base < n % base := by
  rcases Nat.lt_or_eq_of_le (Nat.div_le_div_right (Nat.le_of_lt less)) with before | same
  · exact .inl before
  · refine .inr ⟨same, ?_⟩
    have first := Nat.div_add_mod m base
    have second := Nat.div_add_mod n base
    rw [same] at first
    omega

theorem utf8EncodeChar_append_lt {c d : Char} (less : c < d) (after other : List UInt8) :
    String.utf8EncodeChar c ++ after < String.utf8EncodeChar d ++ other := by
  have below : c.val.toNat < d.val.toNat := less
  have bounded : d.val.toNat < 0x110000 := by
    rcases d.valid with small | ⟨_, large⟩
    · exact Nat.lt_trans small (by decide)
    · exact large
  have last := lt_digits 64 below
  have third := lt_digits 64 (m := c.val.toNat / 64) (n := d.val.toNat / 64)
  have second := lt_digits 64 (m := c.val.toNat / 4096) (n := d.val.toNat / 4096)
  rw [Nat.div_div_eq_div_mul, Nat.div_div_eq_div_mul] at third second
  have further (n : Nat) : (n % 64 + 128) % 256 = n % 64 + 128 := by omega
  have leadOfTwo (n : Nat) (small : n ≤ 2047) : (n / 64 % 32 + 192) % 256 = n / 64 + 192 := by omega
  have leadOfThree (n : Nat) (small : n ≤ 65535) : (n / 4096 % 16 + 224) % 256 = n / 4096 + 224 := by
    omega
  have leadOfFour (n : Nat) (small : n < 0x110000) :
      (n / 262144 % 8 + 240) % 256 = n / 262144 + 240 := by
    omega
  unfold String.utf8EncodeChar
  dsimp only
  -- one case for each pair of lengths; a longer sequence starts with a greater byte
  split_ifs <;>
    simp (disch := omega) only [List.cons_append, List.nil_append, List.cons_lt_cons_iff,
      UInt8.lt_iff_toNat_lt, ← UInt8.toNat_inj, UInt8.toNat_ofNat', Nat.reducePow, further, leadOfTwo,
      leadOfThree, leadOfFour] <;>
    omega

theorem flatMap_utf8EncodeChar_lt {first second : List Char} (less : first < second) :
    first.flatMap String.utf8EncodeChar < second.flatMap String.utf8EncodeChar := by
  induction less with
  | nil =>
    rename_i c rest
    rw [List.flatMap_nil, List.flatMap_cons]
    cases encoded : String.utf8EncodeChar c with
    | nil => exact absurd encoded String.utf8EncodeChar_ne_nil
    | cons byte more => exact List.Lex.nil
  | @cons c first second less ih =>
    rw [List.flatMap_cons, List.flatMap_cons]
    exact List.append_left_lt ih
  | rel less =>
    rw [List.flatMap_cons, List.flatMap_cons]
    exact utf8EncodeChar_append_lt less _ _

/-- A text that comes first by its characters comes first by its bytes. -/
theorem bytes_lt {first second : String} (less : first < second) : bytes first < bytes second := by
  rw [bytes_eq_flatMap, bytes_eq_flatMap]
  exact flatMap_utf8EncodeChar_lt (String.lt_iff.1 less)

@[simp] theorem bytes_append (first second : String) : bytes (first ++ second) = bytes first ++ bytes second := by
  rw [bytes_eq_flatMap, bytes_eq_flatMap, bytes_eq_flatMap, String.toList_append, List.flatMap_append]

theorem bytes_eq_nil_iff {text : String} : bytes text = [] ↔ text = "" := by
  rw [bytes_eq_flatMap, List.flatMap_eq_nil_iff, ← String.toList_eq_nil_iff, List.eq_nil_iff_forall_not_mem]
  exact forall₂_congr fun c _ => iff_of_false String.utf8EncodeChar_ne_nil not_false

theorem utf8EncodeChar_of_ascii {c : Char} (ascii : c.toNat < 128) :
    String.utf8EncodeChar c = [UInt8.ofNat c.toNat] := by
  have small : c.val.toNat ≤ 127 := Nat.le_of_lt_succ ascii
  unfold String.utf8EncodeChar
  exact if_pos small

theorem toNat_of_getLast?_utf8EncodeChar {c : Char} {byte : UInt8} (small : byte.toNat < 128)
    (last : (String.utf8EncodeChar c).getLast? = some byte) : c.toNat = byte.toNat := by
  have shown : c.toNat = c.val.toNat := rfl
  unfold String.utf8EncodeChar at last
  dsimp only at last
  split_ifs at last <;>
    simp only [List.getLast?_cons_cons, List.getLast?_singleton, Option.some.injEq,
      ← UInt8.toNat_inj, UInt8.toNat_ofNat', Nat.reducePow] at last <;>
    omega

/-- A text that ends in the bytes of an ASCII text ends in that text. -/
theorem exists_of_flatMap_eq_append {chars suffix : List Char} {front : List UInt8}
    (ascii : ∀ c ∈ suffix, c.toNat < 128)
    (split : chars.flatMap String.utf8EncodeChar = front ++ suffix.flatMap String.utf8EncodeChar) :
    ∃ stem, chars = stem ++ suffix ∧ stem.flatMap String.utf8EncodeChar = front := by
  induction suffix using List.reverseRecOn generalizing chars with
  | nil => exact ⟨chars, (List.append_nil chars).symm, split.trans (List.append_nil front)⟩
  | append_singleton suffix c ih =>
    have small : c.toNat < 128 := ascii c (List.mem_append_right suffix (List.mem_singleton.2 rfl))
    have byte : (UInt8.ofNat c.toNat).toNat = c.toNat := by
      rw [UInt8.toNat_ofNat']
      omega
    rw [List.flatMap_append, List.flatMap_singleton, utf8EncodeChar_of_ascii small, ← List.append_assoc]
      at split
    rcases List.eq_nil_or_concat chars with rfl | ⟨before, d, rfl⟩
    · simp at split
    · rw [List.concat_eq_append, List.flatMap_append, List.flatMap_singleton] at split
      have last := congrArg List.getLast? split
      have ends := List.getLast?_eq_some_getLast (@String.utf8EncodeChar_ne_nil d)
      rw [List.getLast?_append, List.getLast?_concat, ends, Option.some_or, ← ends] at last
      have same : d = c := by
        apply Char.ext
        apply UInt32.toNat_inj.1
        exact (toNat_of_getLast?_utf8EncodeChar (by omega) last).trans byte
      rw [same, utf8EncodeChar_of_ascii small] at split
      obtain ⟨stem, rest, bytes⟩ := ih (fun c mem => ascii c (List.mem_append_left _ mem))
        (List.append_cancel_right split)
      refine ⟨stem, ?_, bytes⟩
      rw [List.concat_eq_append, rest, same, List.append_assoc]

theorem exists_of_bytes_eq_append {text suffix : String} {front : List UInt8}
    (ascii : ∀ c ∈ suffix.toList, c.toNat < 128) (split : bytes text = front ++ bytes suffix) :
    ∃ stem : String, text = stem ++ suffix ∧ bytes stem = front := by
  rw [bytes_eq_flatMap, bytes_eq_flatMap] at split
  obtain ⟨stem, characters, same⟩ := exists_of_flatMap_eq_append ascii split
  refine ⟨String.ofList stem, ?_, ?_⟩
  · rw [← String.toList_inj, characters, String.toList_append, String.toList_ofList]
  · rw [bytes_eq_flatMap, String.toList_ofList, same]

end FieldTypes.Text
