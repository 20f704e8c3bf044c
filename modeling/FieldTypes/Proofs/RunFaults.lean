import FieldTypes.Proofs.RunPlan
import FieldTypes.Proofs.TemplateFiles

set_option autoImplicit false

namespace FieldTypes.Generation

/-- What is wrong with an artifact: its template is not registered, or its pattern is not one for the
template's scope. -/
inductive ArtifactFault (catalog : Catalog) (artifact : Artifact) : Error → Prop
  | unknown (missing : catalog.entries.lookup artifact.template = none) :
      ArtifactFault catalog artifact (.unknownTemplate artifact.template)
  | notOne (single : catalog.scope artifact.template = .ok .type)
      (count : Pattern.placeholders artifact.pattern ≠ 1) :
      ArtifactFault catalog artifact
        (.config (.notOnePlaceholder artifact.pattern artifact.template
          (Pattern.placeholders artifact.pattern)))
  | any (whole : catalog.scope artifact.template = .ok .schema)
      (count : Pattern.placeholders artifact.pattern ≠ 0) :
      ArtifactFault catalog artifact (.config (.anyPlaceholder artifact.pattern artifact.template))

/-- What is wrong with a schema file: it cannot be read as text, it is no document, the document cannot be
taken apart, or the schema is not consistent. -/
inductive SchemaFault (store : Store) (path : String) : SchemaError → Prop
  | unreadable {cause : Store.Fault} (failed : store.readText path = .error cause) :
      SchemaFault store path (.parse (.unreadable path cause))
  | unread {text : String} {fault : Document.Fault} (readable : store.readText path = .ok text)
      (failed : Document.read text = .error fault) : SchemaFault store path (.ofDocumentFault fault)
  | undecoded {text : String} {document : Json} {error : ParseError}
      (readable : store.readText path = .ok text) (read : Document.read text = .ok document)
      (failed : Schema.ofDocument document = .error error) :
      SchemaFault store path (.parse error)
  | inconsistent {text : String} {document : Json} {schema : Schema} {error : SchemaError}
      (readable : store.readText path = .ok text) (read : Document.read text = .ok document)
      (decoded : Schema.ofDocument document = .ok schema) (failed : schema.validate = .error error) :
      SchemaFault store path error

section Checking

variable {catalog : Catalog} {artifact : Artifact}

theorem scope_of_missing (missing : catalog.entries.lookup artifact.template = none) :
    catalog.scope artifact.template = .error (.unknownTemplate artifact.template) := by
  rw [Catalog.scope, Catalog.entry, missing]
  rfl

theorem ArtifactFault.unique {error other : Error} (fault : ArtifactFault catalog artifact error)
    (same : ArtifactFault catalog artifact other) : error = other := by
  cases fault with
  | unknown missing =>
    cases same with
    | unknown => rfl
    | notOne scope | any scope => cases (scope_of_missing missing).symm.trans scope
  | notOne single =>
    cases same with
    | unknown missing => cases (scope_of_missing missing).symm.trans single
    | notOne => rfl
    | any whole => cases single.symm.trans whole
  | any whole =>
    cases same with
    | unknown missing => cases (scope_of_missing missing).symm.trans whole
    | notOne single => cases single.symm.trans whole
    | any => rfl

theorem Fits.not_fault (fits : Fits catalog artifact) (error : Error) :
    ¬ ArtifactFault catalog artifact error := by
  obtain ⟨scope, known, pattern⟩ := fits
  rintro (missing | ⟨single, count⟩ | ⟨whole, count⟩)
  · cases (scope_of_missing missing).symm.trans known
  · cases known.symm.trans single
    exact count pattern
  · cases known.symm.trans whole
    exact count pattern

theorem fault_of_pattern {scope : Catalog.Scope} (known : catalog.scope artifact.template = .ok scope)
    (pattern : Pattern.placeholders artifact.pattern ≠ placeholdersOf scope) :
    ∃ error, ArtifactFault catalog artifact error ∧ artifact.validate scope = .error error := by
  cases scope with
  | type => exact ⟨_, .notOne known pattern, if_neg pattern⟩
  | schema => exact ⟨_, .any known pattern, if_neg pattern⟩

theorem artifact_cases (catalog : Catalog) (artifact : Artifact) :
    (∃ error, ArtifactFault catalog artifact error ∧
        ∀ rest, checkArtifacts catalog (artifact :: rest) = .error error) ∨
      (∀ error, ¬ ArtifactFault catalog artifact error) ∧ Fits catalog artifact ∧
        ∃ scope, ∀ rest, checkArtifacts catalog (artifact :: rest) =
          (checkArtifacts catalog rest).map ((artifact, scope) :: ·) := by
  cases found : catalog.entries.lookup artifact.template with
  | none =>
    refine .inl ⟨_, .unknown found, fun rest => ?_⟩
    rw [checkArtifacts, scope_of_missing found]
    rfl
  | some entry =>
    have known : catalog.scope artifact.template = .ok entry.scope := by
      rw [Catalog.scope, Catalog.entry, found]
      rfl
    have goes (rest : List Artifact) : checkArtifacts catalog (artifact :: rest) =
        (artifact.validate entry.scope).bind fun _ =>
          (checkArtifacts catalog rest).map ((artifact, entry.scope) :: ·) := by
      rw [checkArtifacts, known]
      rfl
    by_cases pattern : Pattern.placeholders artifact.pattern = placeholdersOf entry.scope
    · have fits : Fits catalog artifact := ⟨entry.scope, known, pattern⟩
      refine .inr ⟨fits.not_fault, fits, entry.scope, fun rest => ?_⟩
      rw [goes, validate_ok_iff.2 pattern]
      rfl
    · obtain ⟨error, fault, invalid⟩ := fault_of_pattern known pattern
      refine .inl ⟨error, fault, fun rest => ?_⟩
      rw [goes, invalid]
      rfl

theorem checkArtifacts_error_iff {artifacts : List Artifact} {error : Error} :
    checkArtifacts catalog artifacts = .error error ↔ FirstOf (ArtifactFault catalog) artifacts error := by
  refine error_iff_firstOf (fun _ : Unit => checkArtifacts catalog)
    (fun artifact reason other (faulty : ArtifactFault catalog artifact reason) => faulty.unique)
    (fun _ _ => nofun) (fun _ artifact => ?_) ()
  rcases artifact_cases catalog artifact with faulty | ⟨sound, -, scope, goes⟩
  · exact .inl faulty
  · refine .inr ⟨sound, (), fun rest error => ?_⟩
    rw [goes, map_eq_error]

theorem fits_of_checkArtifacts {artifacts : List Artifact} {checked : List (Artifact × Catalog.Scope)}
    (done : checkArtifacts catalog artifacts = .ok checked) :
    ∀ artifact ∈ artifacts, Fits catalog artifact := by
  intro artifact mem
  rcases artifact_cases catalog artifact with ⟨error, faulty, -⟩ | ⟨-, fits, -⟩
  · obtain ⟨reason, first⟩ := exists_firstOf mem faulty
    cases done.symm.trans (checkArtifacts_error_iff.2 first)
  · exact fits

/-- What the loading of a schema reports is what is wrong with its file. -/
theorem loadSchema_error_iff {store : Store} {path : String} {error : SchemaError} :
    loadSchema path (store.readText path) = .error error ↔ SchemaFault store path error := by
  have parse {text : String} {reason : SchemaError} : Schema.parse text = .error reason ↔
      (∃ fault, Document.read text = .error fault ∧ SchemaError.ofDocumentFault fault = reason) ∨
        ∃ document, Document.read text = .ok document ∧
          ((∃ cause, Schema.ofDocument document = .error cause ∧ .parse cause = reason) ∨
            ∃ schema, Schema.ofDocument document = .ok schema ∧ schema.validate = .error reason) := by
    simp only [Schema.parse, Schema.ofJson, bind_eq_error, mapError_eq_error, mapError_eq_ok, reduceCtorEq,
      and_false, exists_false, or_false]
  constructor
  · intro failed
    cases readable : store.readText path with
    | error cause =>
      rw [readable] at failed
      cases failed
      exact .unreadable readable
    | ok text =>
      rw [readable] at failed
      rcases parse.1 failed with ⟨fault, unread, rfl⟩ |
        ⟨document, read, ⟨cause, undecoded, rfl⟩ | ⟨schema, decoded, invalid⟩⟩
      · exact .unread readable unread
      · exact .undecoded readable read undecoded
      · exact .inconsistent readable read decoded invalid
  · intro fault
    cases fault with
    | unreadable failed => rw [failed, loadSchema]
    | unread readable failed =>
      rw [readable]
      exact parse.2 (.inl ⟨_, failed, rfl⟩)
    | undecoded readable read failed =>
      rw [readable]
      exact parse.2 (.inr ⟨_, read, .inl ⟨_, failed, rfl⟩⟩)
    | inconsistent readable read decoded failed =>
      rw [readable]
      exact parse.2 (.inr ⟨_, read, .inr ⟨_, decoded, failed⟩⟩)

end Checking

/-- Something is wrong with the settings or inputs of a run. -/
inductive Faulty (store : Store) (config : Config) : Prop
  | directory {path : String} {cause : Store.Fault} (given : config.templateDirectory = some path)
      (unlisted : store.listDirectory path = .error cause) : Faulty store config
  | file {path : String} {names : List Store.Name} {file : TemplateFile} {error : Error}
      (given : config.templateDirectory = some path) (listed : store.listDirectory path = .ok names)
      (mem : file ∈ templateFiles store path names) (fault : FileFault path file error) : Faulty store config
  | artifact {catalog : Catalog} {artifact : Artifact} {error : Error}
      (loads : catalogOf (.ofStore store config) = .ok catalog) (mem : artifact ∈ config.artifacts)
      (fault : ArtifactFault catalog artifact error) : Faulty store config
  | schema {error : SchemaError} (fault : SchemaFault store config.schemaPath error) : Faulty store config

/-- The fault of the settings and inputs of a run that comes first. -/
inductive FirstFault (store : Store) (config : Config) : Error → Prop
  | directory {path : String} {error : Error} (given : config.templateDirectory = some path)
      (fault : DirectoryFault store path error) : FirstFault store config error
  | artifact {catalog : Catalog} {error : Error} (loads : catalogOf (.ofStore store config) = .ok catalog)
      (fault : FirstOf (ArtifactFault catalog) config.artifacts error) : FirstFault store config error
  | schema {catalog : Catalog} {error : SchemaError} (loads : catalogOf (.ofStore store config) = .ok catalog)
      (fits : ∀ artifact ∈ config.artifacts, Fits catalog artifact)
      (fault : SchemaFault store config.schemaPath error) : FirstFault store config (.schema error)

section Running

variable {store : Store} {config : Config}

/-- There is no plan exactly if something is wrong, and the first fault is reported. -/
theorem plan_error_iff {error : Error} :
    plan config (.ofStore store config) = .error error ↔ FirstFault store config error := by
  have schema {reason : Error} :
      (loadSchema config.schemaPath (store.readText config.schemaPath)).mapError .schema = .error reason ↔
        ∃ cause, SchemaFault store config.schemaPath cause ∧ .schema cause = reason := by
    simp only [mapError_eq_error, loadSchema_error_iff]
  unfold plan
  constructor
  · intro failed
    rcases bind_eq_error.1 failed with faulty | ⟨catalog, loads, failed⟩
    · obtain ⟨path, given, fault⟩ := catalogOf_error_iff.1 faulty
      exact .directory given fault
    · rcases bind_eq_error.1 failed with faulty | ⟨checked, done, failed⟩
      · exact .artifact loads (checkArtifacts_error_iff.1 faulty)
      · rcases bind_eq_error.1 failed with faulty | ⟨schema, loaded, failed⟩
        · obtain ⟨cause, fault, rfl⟩ := schema.1 faulty
          exact .schema loads (fits_of_checkArtifacts done) fault
        · cases failed
  · intro fault
    cases fault with
    | directory given fault => exact bind_eq_error.2 (.inl (catalogOf_error_iff.2 ⟨_, given, fault⟩))
    | artifact loads fault =>
      exact bind_eq_error.2 (.inr ⟨_, loads, bind_eq_error.2 (.inl (checkArtifacts_error_iff.2 fault))⟩)
    | schema loads fits fault =>
      obtain ⟨checked, done, -⟩ := checkArtifacts_of_fits fits
      exact bind_eq_error.2 (.inr ⟨_, loads, bind_eq_error.2 (.inr ⟨checked, done,
        bind_eq_error.2 (.inl (schema.2 ⟨_, fault, rfl⟩))⟩)⟩)

/-- If anything is wrong, something is wrong first. -/
theorem Faulty.exists_first (faulty : Faulty store config) : ∃ error, FirstFault store config error := by
  have unloaded {path : String} {reason : Error} (given : config.templateDirectory = some path)
      (fault : DirectoryFault store path reason) : ∃ error, FirstFault store config error :=
    ⟨reason, .directory given fault⟩
  cases faulty with
  | directory given unlisted => exact unloaded given (.unlisted unlisted)
  | file given listed mem fault =>
    obtain ⟨reason, first⟩ := directoryFault_of_file listed mem fault
    exact unloaded given first
  | artifact loads mem fault =>
    obtain ⟨reason, first⟩ := exists_firstOf mem fault
    exact ⟨reason, .artifact loads first⟩
  | schema fault =>
    -- The schema is looked at last, so the fault of another input may come first.
    cases planned : plan config (.ofStore store config) with
    | error error => exact ⟨error, plan_error_iff.1 planned⟩
    | ok steps =>
      obtain ⟨catalog, -, planned⟩ := bind_eq_ok.1 planned
      obtain ⟨checked, -, planned⟩ := bind_eq_ok.1 planned
      obtain ⟨schema, loaded, -⟩ := bind_eq_ok.1 planned
      cases (mapError_eq_ok.1 loaded).symm.trans (loadSchema_error_iff.2 fault)

/-- If anything is wrong with the settings or inputs of a run, wherever it stands, the first fault is
reported and the store is left as it was. -/
theorem faulty_run_leaves_store (faulty : Faulty store config) :
    (∃ error, FirstFault store config error) ∧
      ∀ error, FirstFault store config error → run store config = (store, .error error) := by
  refine ⟨faulty.exists_first, fun error fault => ?_⟩
  rw [run_eq, plan_error_iff.2 fault]

/-- A template directory that makes the standard per-type `header` a whole-schema template. -/
def overriding : Store :=
  .directory [(.text "templates", .directory [(.text "header.schema.hbs", .file "plain".toUTF8)])]

/-- The schema is missing, and the last artifact does not fit the template that replaced the standard one. -/
def overriddenConfig : Config :=
  ⟨"schema.json", [⟨"doc", "docs/%s.md"⟩, ⟨"header", "gen/%s.h"⟩], some "templates", .standard⟩

theorem faulty_run_leaves_store_of_overriding :
    Faulty overriding overriddenConfig ∧
      FirstFault overriding overriddenConfig (.config (.anyPlaceholder "gen/%s.h" "header")) ∧
      run overriding overriddenConfig =
        (overriding, .error (.config (.anyPlaceholder "gen/%s.h" "header"))) := by
  have missing : overriding.readText "schema.json" = .error .notFound := by decide +kernel
  have faulty : Faulty overriding overriddenConfig := .schema (.unreadable missing)
  have reported : (run overriding overriddenConfig).2 =
      .error (.config (.anyPlaceholder "gen/%s.h" "header")) := by decide +kernel
  obtain ⟨⟨error, first⟩, runs⟩ := faulty_run_leaves_store faulty
  have ran := runs error first
  rw [ran] at reported
  cases reported
  exact ⟨faulty, first, ran⟩

/-- A template directory with two files that are no templates: the name of one is no text, that of the other
is nothing but the extension. -/
def passing : Store :=
  .directory [(.text "schema.json", .file pointDocument),
    (.text "templates", .directory [(unnamed, .file "\x7b\x7b".toUTF8), (.text ".hbs", .file "\x7b\x7b".toUTF8)])]

def passingConfig : Config :=
  ⟨"schema.json", [⟨"schema_json", "gen/schema.json"⟩], some "templates", .standard⟩

/-- Both files are passed over, and the run makes a directory. -/
theorem run_of_passing :
    passing.listDirectory "templates" = .ok [unnamed, .text ".hbs"] ∧
      (∀ name ∈ [unnamed, .text ".hbs"],
        passing.item? [.text "templates", name] = some (.file "\x7b\x7b".toUTF8)) ∧
      (Template.read "\x7b\x7b").isOk = false ∧
      (run passing passingConfig).2 = .ok ["gen/schema.json"] ∧
      passing.listDirectory "." = .ok [.text "schema.json", .text "templates"] ∧
      (run passing passingConfig).1.listDirectory "." =
        .ok [.text "schema.json", .text "templates", .text "gen"] := by
  have held : ∀ name ∈ [unnamed, .text ".hbs"],
      passing.item? [.text "templates", name] = some (.file "\x7b\x7b".toUTF8) := by
    intro name mem
    rcases List.mem_pair.1 mem with rfl | rfl
    · rfl
    · rfl
  exact ⟨by decide +kernel, held, by decide +kernel, by decide +kernel, by decide +kernel, by decide +kernel⟩

end Running

end FieldTypes.Generation
