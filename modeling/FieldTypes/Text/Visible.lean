import FieldTypes.Text.Invisible

set_option autoImplicit false

namespace FieldTypes.Text

def visibleChar (c : Char) : List Char :=
  if c = '"' ∨ c = '\\' then ['\\', c]
  else if c = '\n' then ['\\', 'n']
  else if c = '\r' then ['\\', 'r']
  else if c = '\t' then ['\\', 't']
  else if c = '\x00' then ['\\', '0']
  else if isInvisible c then '\\' :: 'u' :: '{' :: Nat.toDigits 16 c.toNat ++ ['}']
  else [c]

def visible (name : String) : String :=
  "\"" ++ String.ofList (name.toList.flatMap visibleChar) ++ "\""

end FieldTypes.Text
