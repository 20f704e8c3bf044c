import FieldTypes.Store.Path

set_option autoImplicit false

namespace FieldTypes.Store

/-- The name of an entry: a text, or bytes that are none. -/
inductive Name where
  | text (text : String)
  | raw (bytes : List UInt8) (notText : String.fromUTF8? ⟨bytes.toArray⟩ = none)
  deriving DecidableEq

instance : Coe String Name := ⟨.text⟩

namespace Name

def bytes : Name → List UInt8
  | .text name => name.toUTF8.data.toList
  | .raw bytes _ => bytes

theorem fromUTF8?_bytes_text (name : String) :
    String.fromUTF8? ⟨(text name).bytes.toArray⟩ = some name := by
  have valid : name.toUTF8.IsValidUTF8 := name.isValidUTF8
  show String.fromUTF8? name.toUTF8 = some name
  rw [String.fromUTF8?, dif_pos valid]
  rfl

theorem bytes_of_fromUTF8? {bytes : List UInt8} {name : String}
    (decoded : String.fromUTF8? ⟨bytes.toArray⟩ = some name) : bytes = (text name).bytes := by
  rw [String.fromUTF8?] at decoded
  split at decoded
  · injection decoded with decoded
    rw [← decoded]
    rfl
  · cases decoded

/-- Names are told apart by their bytes. -/
theorem eq_of_bytes_eq {first second : Name} (same : first.bytes = second.bytes) : first = second := by
  have decoded : String.fromUTF8? ⟨first.bytes.toArray⟩ = String.fromUTF8? ⟨second.bytes.toArray⟩ := by
    rw [same]
  cases first with
  | text name =>
    rw [fromUTF8?_bytes_text] at decoded
    cases second with
    | text other =>
      rw [fromUTF8?_bytes_text] at decoded
      injection decoded with decoded
      rw [decoded]
    | raw bytes notText => cases decoded.trans notText
  | raw bytes notText =>
    cases second with
    | text other =>
      rw [fromUTF8?_bytes_text] at decoded
      cases decoded.symm.trans notText
    | raw other notText =>
      rw [Name.bytes, Name.bytes] at same
      subst same
      rfl

/-- Names are in the order of their bytes. -/
instance : LT Name := ⟨fun first second => first.bytes < second.bytes⟩

instance (first second : Name) : Decidable (first < second) :=
  inferInstanceAs (Decidable (first.bytes < second.bytes))

theorem lt_irrefl (name : Name) : ¬ name < name := List.lt_irrefl name.bytes

theorem lt_asymm {first second : Name} (less : first < second) : ¬ second < first := List.lt_asymm less

theorem not_lt_trans {first second third : Name} (before : ¬ second < first) (after : ¬ third < second) :
    ¬ third < first :=
  List.not_lt.2 (List.le_trans (List.not_lt.1 before) (List.not_lt.1 after))

theorem eq_of_not_lt {first second : Name} (notBefore : ¬ first < second) (notAfter : ¬ second < first) :
    first = second :=
  eq_of_bytes_eq (List.le_antisymm notAfter notBefore)

/-- How a name is shown; bytes that are no text have a mark in their place. -/
def shown : Name → String
  | .text name => name
  | .raw _ _ => "\uFFFD"

/-- Whether the part after the last dot is a text. -/
def hasExtension (extension : String) : Name → Bool
  | .text name => (Path.splitExtension '.' name.toList).2 == some extension.toList
  | .raw bytes _ => (Path.splitExtension 0x2E bytes).2 == some extension.toUTF8.data.toList

end Name

end FieldTypes.Store
