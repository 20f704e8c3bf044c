import FieldTypes.Catalog.Basic
import FieldTypes.Generation.TemplateDirectory

set_option autoImplicit false

namespace FieldTypes.Catalog

open Generation (TemplateFile TemplateDirectory)

/-- What stands under a name, without the nodes of a template. -/
inductive Kind where
  | program (strategy : Strategy)
  | template (scope : Scope)

def Kind.scope : Kind → Scope
  | .program strategy => strategy.scope
  | .template scope => scope

abbrev Table (α : Type) := String → Option α

def Table.set {α : Type} (table : Table α) (name : String) (value : Option α) : Table α :=
  fun other => if other = name then value else table other

/-- A catalog in two tables: what stands under every name, and the templates by themselves. -/
structure Tables where
  kinds : Table Kind
  templates : Table (List Template.Node)

namespace Tables

def empty : Tables := ⟨fun _ => none, fun _ => none⟩

/-- A program takes the template of its name out of the second table. -/
def registerStrategy (tables : Tables) (name : String) (strategy : Strategy) : Tables :=
  ⟨tables.kinds.set name (some (.program strategy)), tables.templates.set name none⟩

def putTemplate (tables : Tables) (name : String) (scope : Scope) (nodes : List Template.Node) : Tables :=
  ⟨tables.kinds.set name (some (.template scope)), tables.templates.set name (some nodes)⟩

/-- Registers a template by its text; gives the tables after that, also if the text is no template. -/
def registerTemplate (tables : Tables) (name text : String) (scope : Scope) :
    Tables × Except Generation.Error Unit :=
  match Template.read text with
  | .ok nodes => (tables.putTemplate name scope nodes, .ok ())
  | .error fault => (tables, .error (.malformed name fault))

def standard : Tables :=
  empty.registerStrategy "header" Builtin.header.strategy
    |>.registerStrategy "inline_header" Builtin.inlineHeader.strategy
    |>.registerStrategy "source" Builtin.source.strategy
    |>.registerStrategy "schema_json" Builtin.schemaJson.strategy
    |>.putTemplate "dispatch" .type BuiltinTemplate.dispatch
    |>.putTemplate "doc" .type BuiltinTemplate.doc
    |>.putTemplate "registry" .schema BuiltinTemplate.registry

/-- Registers files one after the other, up to the first that fails; gives the tables after that. -/
def registerFiles (path : String) (tables : Tables) :
    List TemplateFile → Tables × Except Generation.Error Unit
  | [] => (tables, .ok ())
  | file :: rest =>
    match TemplateFile.registration? file.name with
    | none => registerFiles path tables rest
    | some (name, scope) =>
      match file.text with
      | .error cause => (tables, .error (.config (.unreadableDirectory path cause)))
      | .ok text =>
        match tables.registerTemplate name text scope with
        | (tables, .error error) => (tables, .error error)
        | (tables, .ok ()) => registerFiles path tables rest

@[simp] theorem registerFiles_cons (path : String) (tables : Tables) (file : TemplateFile)
    (rest : List TemplateFile) :
    registerFiles path tables (file :: rest) =
      match TemplateFile.registration? file.name with
      | none => registerFiles path tables rest
      | some (name, scope) =>
        match file.text with
        | .error cause => (tables, .error (.config (.unreadableDirectory path cause)))
        | .ok text =>
          match tables.registerTemplate name text scope with
          | (tables, .error error) => (tables, .error error)
          | (tables, .ok ()) => registerFiles path tables rest := by
  rfl

def load (directory : TemplateDirectory) (tables : Tables) : Tables × Except Generation.Error Nat :=
  match directory.files with
  | .error cause => (tables, .error (.config (.unreadableDirectory directory.path cause)))
  | .ok files =>
    let (tables, result) := registerFiles directory.path tables (TemplateDirectory.sort files)
    (tables, result.map fun () => files.length)

def scope (tables : Tables) (name : String) : Except Generation.Error Scope :=
  match tables.kinds name with
  | some kind => .ok kind.scope
  | none => .error (.unknownTemplate name)

/-- Why the tables could not render what stands under a name. -/
inductive RenderError where
  /-- The name is entered as that of a template, but there is no template of this name. -/
  | missing (name : String)
  | reported (error : Generation.Error)

def render (tables : Tables) (name : String) (context : Context) : Except RenderError String :=
  match tables.kinds name with
  | none => .error (.reported (.unknownTemplate name))
  | some (.program strategy) => (strategy.render context).mapError .reported
  | some (.template _) =>
    match tables.templates name with
    | none => .error (.missing name)
    | some nodes =>
      match Template.render tables.templates name nodes context.data with
      | .ok text => .ok text
      | .error fault => .error (.reported (.render name context.label (.fault fault)))

end Tables

end FieldTypes.Catalog
