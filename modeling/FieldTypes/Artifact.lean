import FieldTypes.Catalog.Context
import FieldTypes.Generation.Error
import FieldTypes.Store.Path

set_option autoImplicit false

namespace FieldTypes

namespace Pattern

inductive Token where
  /-- A doubled percent sign, for one. -/
  | percent
  /-- The place of the type's name. -/
  | placeholder
  | char (c : Char)
  deriving DecidableEq, Repr

def tokens : List Char → List Token
  | [] => []
  | '%' :: '%' :: rest => .percent :: tokens rest
  | '%' :: 's' :: rest => .placeholder :: tokens rest
  | c :: rest => .char c :: tokens rest

/-- What a token stands for; without a name, a placeholder stands for itself. -/
def Token.expand (name : Option String) : Token → List Char
  | .percent => ['%']
  | .placeholder =>
    match name with
    | some name => name.toList
    | none => ['%', 's']
  | .char c => [c]

def expand (pattern : String) (name : Option String) : String :=
  String.ofList ((tokens pattern.toList).flatMap (Token.expand name))

def placeholders (pattern : String) : Nat := (tokens pattern.toList).count .placeholder

def double (text : List Char) : List Char := text.flatMap fun c => if c = '%' then ['%', '%'] else [c]

theorem tokens_double (text rest : List Char) :
    tokens (double text ++ rest) =
      (text.map fun c => if c = '%' then Token.percent else .char c) ++ tokens rest := by
  unfold double
  induction text with
  | nil => simp
  | cons c more ih =>
    by_cases h : c = '%'
    · simp [h, tokens, ih]
    · rw [List.flatMap_cons, if_neg h, List.singleton_append, List.cons_append, tokens, ih]
      · simp [h]
      · exact fun _ e _ => h e
      · exact fun _ e _ => h e

/-- The pattern that stands for a text itself. -/
def literal (text : String) : String := String.ofList (double text.toList)

end Pattern

structure Artifact where
  template : String
  pattern : String
  deriving DecidableEq, Repr

namespace Artifact

/-- The pattern of a type's file in a directory. -/
def inDirectory (directory : String) (file : String → String) : String :=
  Path.join (Pattern.literal directory) (file "%s")

def header (directory : String) : Artifact := ⟨"header", inDirectory directory Cpp.headerFile⟩

def inlineHeader (directory : String) : Artifact :=
  ⟨"inline_header", inDirectory directory Cpp.inlineHeaderFile⟩

def source (directory : String) : Artifact := ⟨"source", inDirectory directory Cpp.sourceFile⟩

/-- A per-type pattern has exactly one placeholder, a whole-schema pattern has none. -/
def validate (artifact : Artifact) (scope : Catalog.Scope) : Except Generation.Error Unit :=
  let found := Pattern.placeholders artifact.pattern
  match scope with
  | .type =>
    if found = 1 then .ok ()
    else .error (.config (.notOnePlaceholder artifact.pattern artifact.template found))
  | .schema =>
    if found = 0 then .ok ()
    else .error (.config (.anyPlaceholder artifact.pattern artifact.template))

def resolve (artifact : Artifact) (name : Option String) : String :=
  Pattern.expand artifact.pattern name

end Artifact

end FieldTypes
