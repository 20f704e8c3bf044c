import FieldTypes.Artifact
import FieldTypes.Catalog.Emission
import FieldTypes.Generation.TemplateDirectory

set_option autoImplicit false

namespace FieldTypes.Generation

structure Config where
  schemaPath : String
  artifacts : List Artifact
  templateDirectory : Option String
  options : Cpp.Options
  deriving DecidableEq, Repr

namespace Config

def defaultSchemaPath : String := "schema.json"

def ofSchemaPath (schemaPath : String) : Config := ⟨schemaPath, [], none, .standard⟩

def addArtifact (config : Config) (artifact : Artifact) : Config :=
  { config with artifacts := config.artifacts ++ [artifact] }

/-- Adds the header, inline header and source of every type. -/
def addSources (config : Config) (headerDirectory sourceDirectory : String) : Config :=
  config.addArtifact (.header headerDirectory)
    |>.addArtifact (.inlineHeader headerDirectory)
    |>.addArtifact (.source sourceDirectory)

def setNamespace (config : Config) (name : String) : Config :=
  { config with options := { config.options with namespaceName := name } }

def setIncludePrefix (config : Config) (path : String) : Config :=
  { config with options := { config.options with includePrefix := path } }

def check (config : Config) : Except Error Config :=
  if config.artifacts = [] then .error (.config .noArtifacts) else .ok config

end Config

/-- Everything that a run reads. -/
structure Inputs where
  templates : Option TemplateDirectory
  schema : Except Store.Fault String

def Inputs.ofStore (store : Store) (config : Config) : Inputs :=
  ⟨config.templateDirectory.map (TemplateDirectory.ofStore store), store.readText config.schemaPath⟩

def loadSchema (path : String) (text : Except Store.Fault String) : Except SchemaError Schema :=
  match text with
  | .error cause => .error (.parse (.unreadable path cause))
  | .ok text => Schema.parse text

structure Step where
  path : String
  text : Except Error String

def catalogOf (inputs : Inputs) : Except Error Catalog :=
  match inputs.templates with
  | none => .ok .standard
  | some directory =>
    match directory.load .standard with
    | (catalog, .ok _) => .ok catalog
    | (_, .error error) => .error error

/-- Checks artifacts in order, up to the first fault; gives each with the scope of its template. -/
def checkArtifacts (catalog : Catalog) :
    List Artifact → Except Error (List (Artifact × Catalog.Scope))
  | [] => .ok []
  | artifact :: rest => do
    let scope ← catalog.scope artifact.template
    artifact.validate scope
    let checked ← checkArtifacts catalog rest
    .ok ((artifact, scope) :: checked)

/-- The per-type artifacts for each type in declaration order, then the whole-schema artifacts. -/
def steps (catalog : Catalog) (context : Catalog.Context)
    (artifacts : List (Artifact × Catalog.Scope)) : List Step :=
  let ofScope (scope : Catalog.Scope) : List Artifact :=
    (artifacts.filter (·.2 == scope)).map (·.1)
  (context.resolved.types.flatMap fun type => (ofScope .type).map fun artifact =>
    ⟨artifact.resolve (some type.name), catalog.renderType context artifact.template type.name⟩) ++
  (ofScope .schema).map fun artifact =>
    ⟨artifact.resolve none, catalog.renderSchema context artifact.template⟩

/-- What a run is going to write. Faults are reported in this order: the template directory's, the first
faulty artifact's, the schema's. -/
def plan (config : Config) (inputs : Inputs) : Except Error (List Step) := do
  let catalog ← catalogOf inputs
  let artifacts ← checkArtifacts catalog config.artifacts
  let schema ← (loadSchema config.schemaPath inputs.schema).mapError .schema
  .ok (steps catalog (.ofSchema schema config.options) artifacts)

section Writing

variable {m : Type → Type} [Monad m] {place : Type} (actions : Store.Actions m place)

/-- Makes the directory around a file; there is always one around a name alone. -/
def makeParent (directory : String) : m (Except Store.Fault Unit) :=
  if directory = "" then return .ok () else actions.makeDirectory directory

/-- Writes a text to a path, making missing directories first. -/
def writeBy (path text : String) : m (Except Error Unit) := do
  let directory := (Path.parent? path).getD ""
  match ← makeParent actions directory with
  | .error cause => return .error (.write directory cause)
  | .ok () =>
    let written ← actions.writeFile path text
    return written.mapError (.write path)

/-- Performs steps in order, up to the first that fails to render or write; gives the paths written. -/
def performBy : List Step → m (Except Error (List String))
  | [] => return .ok []
  | step :: rest =>
    match step.text with
    | .error error => return .error error
    | .ok text => do
      match ← writeBy actions step.path text with
      | .error error => return .error error
      | .ok () =>
        let result ← performBy rest
        return result.map (step.path :: ·)

/-- Reads what a run needs and performs what it is going to write. -/
def runBy (inputs : m Inputs) (config : Config) : m (Except Error (List String)) := do
  match plan config (← inputs) with
  | .error error => return .error error
  | .ok steps => performBy actions steps

end Writing

/-- Writes a text into a store; gives the store after that, also of a write that fails. -/
def write (store : Store) (path text : String) : Store × Except Error Unit :=
  (writeBy Store.actions path text store).swap

theorem write_eq (store : Store) (path text : String) :
    write store path text =
      let directory := (Path.parent? path).getD ""
      match if directory = "" then (store, .ok ()) else store.makeDirectory directory with
      | (store, .error cause) => (store, .error (.write directory cause))
      | (store, .ok ()) =>
        match store.writeFile path text.toUTF8 with
        | .error cause => (store, .error (.write path cause))
        | .ok store => (store, .ok ()) := by
  have made : makeParent Store.actions ((Path.parent? path).getD "") store =
      (if (Path.parent? path).getD "" = "" then (store, .ok ())
        else store.makeDirectory ((Path.parent? path).getD "")).swap := by
    unfold makeParent
    split
    · rfl
    · exact (Prod.swap_swap _).symm
  simp only [write, writeBy, bind, StateT.bind, made]
  generalize (if (Path.parent? path).getD "" = "" then (store, .ok ())
    else store.makeDirectory ((Path.parent? path).getD "")) = outcome
  obtain ⟨after, cause | _⟩ := outcome
  · rfl
  · simp only [Prod.swap_prod_mk, Store.actions, StateT.bind]
    cases after.writeFile path text.toUTF8 <;> rfl

/-- Performs steps on a store; gives the store after that. -/
def perform (store : Store) (steps : List Step) : Store × Except Error (List String) :=
  (performBy Store.actions steps store).swap

@[simp] theorem perform_nil (store : Store) : perform store [] = (store, .ok []) := rfl

@[simp] theorem perform_cons (store : Store) (step : Step) (rest : List Step) :
    perform store (step :: rest) =
      match step.text with
      | .error error => (store, .error error)
      | .ok text =>
        match write store step.path text with
        | (store, .error error) => (store, .error error)
        | (store, .ok ()) =>
          let (store, result) := perform store rest
          (store, result.map (step.path :: ·)) := by
  cases rendered : step.text with
  | error error => simp only [perform, performBy, rendered]; rfl
  | ok text =>
    simp only [perform, performBy, rendered, write, bind, StateT.bind]
    generalize writeBy Store.actions step.path text store = outcome
    obtain ⟨error | _, store⟩ := outcome <;> rfl

/-- Performs a run on a store. -/
def run (store : Store) (config : Config) : Store × Except Error (List String) :=
  (runBy Store.actions (fun store => (Inputs.ofStore store config, store)) config store).swap

theorem run_eq (store : Store) (config : Config) :
    run store config =
      match plan config (.ofStore store config) with
      | .error error => (store, .error error)
      | .ok steps => perform store steps := by
  simp only [run, runBy, bind, StateT.bind]
  cases plan config (.ofStore store config) <;> rfl

end FieldTypes.Generation
