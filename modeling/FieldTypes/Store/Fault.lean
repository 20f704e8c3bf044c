set_option autoImplicit false

namespace FieldTypes.Store

inductive Fault where
  | notFound
  | alreadyExists
  | notADirectory
  | isADirectory
  | nameTooLong
  /-- A NUL, which ends a path for the system, stands in the path. -/
  | nulByte
  /-- The bytes of a file are not text. -/
  | notText
  /-- What a system says that the file store itself never reports. -/
  | other (text : String)
  deriving DecidableEq, Repr, Inhabited

def Fault.message : Fault → String
  | .notFound => "No such file or directory (os error 2)"
  | .alreadyExists => "File exists (os error 17)"
  | .notADirectory => "Not a directory (os error 20)"
  | .isADirectory => "Is a directory (os error 21)"
  | .nameTooLong => "File name too long (os error 36)"
  | .nulByte => "file name contained an unexpected NUL byte"
  | .notText => "stream did not contain valid UTF-8"
  | .other text => text

end FieldTypes.Store
