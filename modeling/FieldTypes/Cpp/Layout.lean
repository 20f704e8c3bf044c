set_option autoImplicit false

namespace FieldTypes.Cpp

inductive Step where
  | line (text : String)
  | blank
  | indent
  | outdent
  /-- An opening line, the body one level deeper, and a closing line. -/
  | block (opening closing : String) (body : List Step)
  /-- A block that opens with a brace on a line of its own. -/
  | braced (closing : String) (body : List Step)

/-- Text written so far and the current level of indentation. -/
structure Page where
  text : String
  level : Nat
  deriving DecidableEq, Repr

namespace Page

def empty : Page := ⟨"", 0⟩

def indentation (level : Nat) : String := String.ofList (List.replicate (4 * level) ' ')

def line (page : Page) (text : String) : Page :=
  if text = "" then { page with text := page.text ++ "\n" }
  else { page with text := page.text ++ indentation page.level ++ text ++ "\n" }

def blank (page : Page) : Page := { page with text := page.text ++ "\n" }

def indent (page : Page) : Page := { page with level := page.level + 1 }

def outdent (page : Page) : Page := { page with level := page.level - 1 }

end Page

mutual

def Step.write (page : Page) : Step → Page
  | .line text => page.line text
  | .blank => page.blank
  | .indent => page.indent
  | .outdent => page.outdent
  | .block opening closing body => (Step.writeAll (page.line opening).indent body).outdent.line closing
  | .braced closing body => (Step.writeAll (page.line "\x7b").indent body).outdent.line closing

def Step.writeAll (page : Page) : List Step → Page
  | [] => page
  | step :: steps => Step.writeAll (step.write page) steps

end

@[simp] theorem Step.writeAll_append (page : Page) (first second : List Step) :
    Step.writeAll page (first ++ second) = Step.writeAll (Step.writeAll page first) second := by
  induction first generalizing page with
  | nil => rfl
  | cons step steps ih => exact ih (step.write page)

def layout (steps : List Step) : String := (Step.writeAll Page.empty steps).text

def guarded (guard : String) (body : List Step) : List Step :=
  [.line s!"#ifndef {guard}", .line s!"#define {guard}"] ++ body ++
    [.blank, .line s!"#endif // {guard}"]

def inNamespace (name : String) (body : List Step) : List Step :=
  [.blank, .line ("namespace " ++ name ++ " \x7b")] ++ body ++
    [.blank, .line ("\x7d // namespace " ++ name)]

def includeLine (path : String) : Step := .line ("#include \"" ++ path ++ "\"")

/-- A documentation line in which no comment can end: the slash of a comment's end is escaped. -/
def escapeComment : List Char → List Char
  | [] => []
  | '*' :: '/' :: rest => '*' :: '\\' :: '/' :: escapeComment rest
  | c :: rest => c :: escapeComment rest

def commentLine (line : String) : Step :=
  if line = "" then .line " *" else .line (" * " ++ String.ofList (escapeComment line.toList))

/-- A documentation comment; nothing for an empty documentation. -/
def docComment (docLines : List String) : List Step :=
  match docLines with
  | [] => []
  | lines => [.line "/**"] ++ lines.map commentLine ++ [.line " */"]

end FieldTypes.Cpp
