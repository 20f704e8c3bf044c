set_option autoImplicit false

namespace FieldTypes.Text

def splitLines : List Char → List (List Char)
  | [] => []
  | '\n' :: rest => [] :: splitLines rest
  | '\r' :: '\n' :: rest => [] :: splitLines rest
  | c :: rest =>
    match splitLines rest with
    | [] => [[c]]
    | line :: more => (c :: line) :: more

/-- The lines of a text, without their endings. -/
def lines (text : String) : List String := (splitLines text.toList).map String.ofList

end FieldTypes.Text
