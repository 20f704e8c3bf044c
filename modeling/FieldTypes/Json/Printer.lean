import FieldTypes.Json.NumberText
import FieldTypes.Json.Quoted

set_option autoImplicit false

namespace FieldTypes.Json

def scalarText : Json → List Char
  | .null => "null".toList
  | .bool true => "true".toList
  | .bool false => "false".toList
  | .number value => value.text
  | .string value => Quoted.encode value
  | .array _ => []
  | .object _ => []

mutual

def compactText : Json → List Char
  | .array items => '[' :: compactItems items ++ [']']
  | .object members => '{' :: compactMembers members ++ ['}']
  | value => scalarText value

def compactItems : List Json → List Char
  | [] => []
  | [item] => compactText item
  | item :: items => compactText item ++ ',' :: compactItems items

def compactMembers : List (String × Json) → List Char
  | [] => []
  | [(key, value)] => Quoted.encode key ++ ':' :: compactText value
  | (key, value) :: members =>
    Quoted.encode key ++ ':' :: compactText value ++ ',' :: compactMembers members

end

/-- The line break and indentation before an element or member at a level. -/
def lineStart (level : Nat) : List Char := '\n' :: List.replicate (2 * level) ' '

mutual

/-- The indented form of a value that stands at a level. -/
def indentedText (level : Nat) : Json → List Char
  | .array [] => ['[', ']']
  | .array (item :: items) => '[' :: indentedItems (level + 1) (item :: items) ++ lineStart level ++ [']']
  | .object [] => ['{', '}']
  | .object (member :: members) =>
    '{' :: indentedMembers (level + 1) (member :: members) ++ lineStart level ++ ['}']
  | value => scalarText value

def indentedItems (level : Nat) : List Json → List Char
  | [] => []
  | [item] => lineStart level ++ indentedText level item
  | item :: items => lineStart level ++ indentedText level item ++ ',' :: indentedItems level items

def indentedMembers (level : Nat) : List (String × Json) → List Char
  | [] => []
  | [(key, value)] => lineStart level ++ Quoted.encode key ++ ':' :: ' ' :: indentedText level value
  | (key, value) :: members =>
    lineStart level ++ Quoted.encode key ++ ':' :: ' ' :: indentedText level value ++
      ',' :: indentedMembers level members

end

def compact (value : Json) : String := String.ofList (compactText value)

def indented (value : Json) : String := String.ofList (indentedText 0 value)

end FieldTypes.Json
