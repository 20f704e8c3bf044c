set_option autoImplicit false

namespace FieldTypes.Text

structure Position where
  line : Nat
  column : Nat
  deriving DecidableEq, Repr

namespace Position

def start : Position := ⟨1, 1⟩

def after (position : Position) : List Char → Position
  | [] => position
  | '\n' :: rest => after ⟨position.line + 1, 1⟩ rest
  | '\r' :: '\n' :: rest => after ⟨position.line + 1, 1⟩ rest
  | _ :: rest => after ⟨position.line, position.column + 1⟩ rest

end Position

end FieldTypes.Text
