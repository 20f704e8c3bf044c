import FieldTypes.Catalog.Basic
import FieldTypes.Store.Basic

set_option autoImplicit false

namespace FieldTypes.Generation

/-- A file with the extension of templates: its name, and its text as far as it can be read. -/
structure TemplateFile where
  name : Store.Name
  text : Except Store.Fault String

namespace TemplateFile

def isTemplate (name : Store.Name) : Bool := name.hasExtension "hbs"

/-- The ending of whole-schema templates, the last character first. -/
def schemaEnding : List Char := ".schema".toList.reverse

/-- The name and scope that a template file registers. -/
def registration (name : String) : String × Catalog.Scope :=
  let stem := (Path.splitExtension '.' name.toList).1
  let reversed := stem.reverse
  if schemaEnding.isPrefixOf reversed then
    (String.ofList (reversed.drop schemaEnding.length).reverse, .schema)
  else (String.ofList stem, .type)

/-- Before its extension a name that is no text is no text either; such a file registers nothing. -/
def registration? : Store.Name → Option (String × Catalog.Scope)
  | .text name => some (registration name)
  | .raw _ _ => none

end TemplateFile

/-- What a template directory holds, or why it cannot be listed. -/
structure TemplateDirectory where
  path : String
  files : Except Store.Fault (List TemplateFile)

namespace TemplateDirectory

/-- Puts a file at its place among files in increasing order of their names. -/
def insertSorted (file : TemplateFile) : List TemplateFile → List TemplateFile
  | [] => [file]
  | other :: rest =>
    if other.name < file.name then other :: insertSorted file rest else file :: other :: rest

def sort (files : List TemplateFile) : List TemplateFile := files.foldr insertSorted []

def ofStore (store : Store) (path : String) : TemplateDirectory :=
  { path := path
    files := (store.listDirectory path).map fun names =>
      (names.filter TemplateFile.isTemplate).map fun name =>
        ⟨name, store.readNamed path name⟩ }

/-- Registers files one after the other, up to the first that fails; gives the catalog after that. -/
def register (path : String) (catalog : Catalog) : List TemplateFile → Catalog × Except Error Unit
  | [] => (catalog, .ok ())
  | file :: rest =>
    match TemplateFile.registration? file.name with
    | none => register path catalog rest
    | some (name, scope) =>
      match file.text with
      | .error cause => (catalog, .error (.config (.unreadableDirectory path cause)))
      | .ok text =>
        match catalog.registerTemplate name text scope with
        | .error error => (catalog, .error error)
        | .ok catalog => register path catalog rest

@[simp] theorem register_cons (path : String) (catalog : Catalog) (file : TemplateFile)
    (rest : List TemplateFile) :
    register path catalog (file :: rest) =
      match TemplateFile.registration? file.name with
      | none => register path catalog rest
      | some (name, scope) =>
        match file.text with
        | .error cause => (catalog, .error (.config (.unreadableDirectory path cause)))
        | .ok text =>
          match catalog.registerTemplate name text scope with
          | .error error => (catalog, .error error)
          | .ok catalog => register path catalog rest := by
  rfl

def load (directory : TemplateDirectory) (catalog : Catalog) : Catalog × Except Error Nat :=
  match directory.files with
  | .error cause => (catalog, .error (.config (.unreadableDirectory directory.path cause)))
  | .ok files =>
    let (catalog, result) := register directory.path catalog (sort files)
    (catalog, result.map fun () => files.length)

end TemplateDirectory

end FieldTypes.Generation
