set_option autoImplicit false

namespace FieldTypes

namespace Identifier

def isStart (c : Char) : Bool := c.isAlpha || c == '_'

def isRest (c : Char) : Bool := c.isAlphanum || c == '_'

end Identifier

/-- Whether a name can be used verbatim as a generated identifier. -/
def isIdentifier (name : String) : Bool :=
  match name.toList with
  | [] => false
  | first :: rest => Identifier.isStart first && rest.all Identifier.isRest

end FieldTypes
