import FieldTypes.Proofs.Consistency
import FieldTypes.Proofs.Decoding
import FieldTypes.Proofs.FileWriting
import FieldTypes.Proofs.PathPatterns

set_option autoImplicit false

namespace FieldTypes

open Store (Place Item KeepsDirectories OnlyMakes)

namespace Generation

/-- Every step renders and is written, one after the other. -/
inductive Performed : Store → List Step → Store → Prop
  | nil {store : Store} : Performed store [] store
  | cons {store made after : Store} {step : Step} {rest : List Step} {text : String}
      (renders : step.text = .ok text) (writes : write store step.path text = (made, .ok ()))
      (more : Performed made rest after) : Performed store (step :: rest) after

/-- A step does not render, or is not written. -/
inductive Fails : Store → Step → Error → Store → Prop
  | render {store : Store} {step : Step} {error : Error} (fault : step.text = .error error) :
      Fails store step error store
  | write {store after : Store} {step : Step} {error : Error} {text : String} (renders : step.text = .ok text)
      (fault : write store step.path text = (after, .error error)) : Fails store step error after

section Performing

variable {store made after : Store} {step : Step} {rest : List Step}

theorem perform_of_written {text : String} (renders : step.text = .ok text)
    (writes : write store step.path text = (made, .ok ())) :
    perform store (step :: rest) = ((perform made rest).1, (perform made rest).2.map (step.path :: ·)) := by
  rw [perform_cons, renders]
  dsimp only
  rw [writes]

theorem perform_of_fails {error : Error} (fails : Fails store step error after) :
    perform store (step :: rest) = (after, .error error) := by
  cases fails with
  | render fault => rw [perform_cons, fault]
  | write renders fault =>
    rw [perform_cons, renders]
    dsimp only
    rw [fault]

theorem step_cases (store : Store) (step : Step) :
    (∃ text made, step.text = .ok text ∧ write store step.path text = (made, .ok ())) ∨
      ∃ error after, Fails store step error after := by
  cases renders : step.text with
  | error error => exact .inr ⟨error, store, .render renders⟩
  | ok text =>
    cases wrote : write store step.path text with
    | mk made result =>
      cases result with
      | error error => exact .inr ⟨error, made, .write renders wrote⟩
      | ok => exact .inl ⟨text, made, rfl, wrote⟩

theorem Performed.perform_append {done : List Step} (performed : Performed store done made)
    (rest : List Step) :
    perform store (done ++ rest) =
      ((perform made rest).1, (perform made rest).2.map (done.map (·.path) ++ ·)) := by
  induction performed with
  | nil =>
    rw [List.nil_append, List.map_nil]
    refine Prod.ext rfl ?_
    dsimp only
    cases (perform _ rest).2 <;> rfl
  | cons renders writes more ih =>
    rw [List.cons_append, perform_of_written renders writes, ih]
    refine Prod.ext rfl ?_
    dsimp only
    cases (perform _ rest).2 <;> rfl

/-- Steps are performed up to the first that fails. -/
theorem performed_or_fails (store : Store) (steps : List Step) :
    (∃ after, Performed store steps after) ∨
      ∃ done step rest before error after, steps = done ++ step :: rest ∧ Performed store done before ∧
        Fails before step error after := by
  induction steps generalizing store with
  | nil => exact .inl ⟨store, .nil⟩
  | cons step rest ih =>
    rcases step_cases store step with ⟨text, made, renders, writes⟩ | ⟨error, after, fails⟩
    · rcases ih made with
        ⟨after, performed⟩ | ⟨done, other, more, before, error, after, rfl, performed, fails⟩
      · exact .inl ⟨after, .cons renders writes performed⟩
      · have further : Performed store (step :: done) before := .cons renders writes performed
        exact .inr ⟨step :: done, other, more, before, error, after, rfl, further, fails⟩
    · exact .inr ⟨[], step, rest, store, error, after, rfl, .nil, fails⟩

theorem perform_of_performed {steps : List Step} (performed : Performed store steps after) :
    perform store steps = (after, .ok (steps.map (·.path))) := by
  have done := performed.perform_append []
  rw [List.append_nil] at done
  rw [done, perform_nil, Except.map, List.append_nil]

theorem perform_of_performed_fails {done : List Step} {error : Error} (performed : Performed store done made)
    (fails : Fails made step error after) : perform store (done ++ step :: rest) = (after, .error error) := by
  rw [performed.perform_append, perform_of_fails fails]
  rfl

theorem perform_ok_iff {steps : List Step} {paths : List String} :
    perform store steps = (after, .ok paths) ↔ Performed store steps after ∧ paths = steps.map (·.path) := by
  constructor
  · intro done
    rcases performed_or_fails store steps with
      ⟨other, performed⟩ | ⟨front, step, rest, before, error, other, rfl, performed, fails⟩
    · rw [perform_of_performed performed] at done
      cases done
      exact ⟨performed, rfl⟩
    · rw [perform_of_performed_fails performed fails] at done
      cases done
  · rintro ⟨performed, rfl⟩
    exact perform_of_performed performed

theorem perform_error_iff {steps : List Step} {error : Error} :
    perform store steps = (after, .error error) ↔
      ∃ done step rest before, steps = done ++ step :: rest ∧ Performed store done before ∧
        Fails before step error after := by
  constructor
  · intro stopped
    rcases performed_or_fails store steps with
      ⟨other, performed⟩ | ⟨front, step, rest, before, reason, other, rfl, performed, fails⟩
    · rw [perform_of_performed performed] at stopped
      cases stopped
    · rw [perform_of_performed_fails performed fails] at stopped
      cases stopped
      exact ⟨front, step, rest, before, rfl, performed, fails⟩
  · rintro ⟨done, step, rest, before, rfl, performed, fails⟩
    exact perform_of_performed_fails performed fails

end Performing

/-- The content that steps write last to a place. -/
def lastWritten? (steps : List Step) (place : Place) : Option ByteArray :=
  match steps with
  | [] => none
  | step :: rest =>
    (lastWritten? rest place).or
      (if Path.place step.path = place then step.text.toOption.map String.toUTF8 else none)

/-- What stands at a place after steps: the file written there last, a directory made for a file, or what
stood there before. -/
def itemAfter? (store : Store) (steps : List Step) (place : Place) : Option Item :=
  match lastWritten? steps place with
  | some content => some (.file content)
  | none =>
    if place ∈ steps.flatMap (Path.directories ·.path) then some .directory else store.item? place

section Leaving

variable {store after : Store} {steps : List Step}

theorem Performed.file (performed : Performed store steps after) {place : Place} {old : ByteArray}
    (before : store.item? place = some (.file old)) : ∃ new, after.item? place = some (.file new) := by
  induction performed generalizing old with
  | nil => exact ⟨old, before⟩
  | cons renders writes more ih =>
    obtain ⟨new, between⟩ := (written_of_write writes).file before
    exact ih between

theorem Performed.keepsDirectories (performed : Performed store steps after) :
    KeepsDirectories store after := by
  induction performed with
  | nil => exact fun _ there => there
  | cons renders writes more ih => exact (written_of_write writes).keepsDirectories.trans ih

theorem lastWritten?_cons {step : Step} {text : String} (renders : step.text = .ok text) (rest : List Step)
    (place : Place) :
    lastWritten? (step :: rest) place =
      (lastWritten? rest place).or (if Path.place step.path = place then some text.toUTF8 else none) := by
  rw [lastWritten?, renders]
  rfl

theorem Performed.item?_eq (performed : Performed store steps after) (place : Place) :
    after.item? place = itemAfter? store steps place := by
  induction performed with
  | nil => rfl
  | @cons store made after step rest text renders writes more ih =>
    have written := written_of_write writes
    unfold itemAfter? at ih ⊢
    rw [lastWritten?_cons renders]
    cases last : lastWritten? rest place with
    | some content =>
      rw [last] at ih
      exact ih
    | none =>
      rw [last] at ih
      rw [Option.none_or]
      dsimp only at ih
      by_cases own : Path.place step.path = place
      · -- A file that was written is in the way of every directory, so none is made there.
        have there : made.item? place = some (.file text.toUTF8) := own ▸ written.item?_place
        obtain ⟨content, file⟩ := more.file there
        rw [if_pos own, ih, if_neg, there]
        intro entered
        rw [ih, if_pos entered] at file
        cases file
      · rw [if_neg own, ih, written.items, if_neg (Ne.symm own), List.flatMap_cons]
        by_cases later : place ∈ rest.flatMap (Path.directories ·.path)
        · simp only [later, List.mem_append, or_true, if_true]
        · simp only [later, List.mem_append, or_false, if_false]

theorem lastWritten?_of_other {place : Place} (other : ∀ step ∈ steps, Path.place step.path ≠ place) :
    lastWritten? steps place = none := by
  induction steps with
  | nil => rfl
  | cons step rest ih =>
    rw [List.forall_mem_cons] at other
    rw [lastWritten?, ih other.2, if_neg other.1]
    rfl

/-- A file whose path no step has is as it was. -/
theorem Performed.file_iff (performed : Performed store steps after) {place : Place}
    (other : ∀ step ∈ steps, Path.place step.path ≠ place) (content : ByteArray) :
    after.item? place = some (.file content) ↔ store.item? place = some (.file content) := by
  have stands := performed.item?_eq place
  rw [itemAfter?, lastWritten?_of_other other] at stands
  dsimp only at stands
  by_cases entered : place ∈ steps.flatMap (Path.directories ·.path)
  · rw [if_pos entered] at stands
    constructor
    · intro file
      rw [stands] at file
      cases file
    · intro file
      obtain ⟨new, file⟩ := performed.file file
      rw [stands] at file
      cases file
  · rw [if_neg entered] at stands
    rw [stands]

theorem Performed.exists_lastWritten (performed : Performed store steps after) {step : Step}
    (mem : step ∈ steps) : ∃ content, lastWritten? steps (Path.place step.path) = some content := by
  induction performed with
  | nil => cases mem
  | @cons store made after first rest text renders writes more ih =>
    rw [lastWritten?_cons renders]
    cases last : lastWritten? rest (Path.place step.path) with
    | some content => exact ⟨content, rfl⟩
    | none =>
      rcases List.mem_cons.1 mem with rfl | mem
      · exact ⟨text.toUTF8, if_pos rfl⟩
      · obtain ⟨content, found⟩ := ih mem
        rw [last] at found
        cases found

theorem Performed.reaches (performed : Performed store steps after) {step : Step} (mem : step ∈ steps) :
    after.Reaches step.path ∧ Path.NamesFile step.path := by
  induction performed with
  | nil => cases mem
  | cons renders writes more ih =>
    rcases List.mem_cons.1 mem with rfl | mem
    · have written := written_of_write writes
      exact ⟨written.reaches.mono more.keepsDirectories, written.named⟩
    · exact ih mem

theorem Performed.item?_path (performed : Performed store steps after) {step : Step} (mem : step ∈ steps) :
    ∃ content, lastWritten? steps (Path.place step.path) = some content ∧
      after.item? (Path.place step.path) = some (.file content) := by
  obtain ⟨content, last⟩ := performed.exists_lastWritten mem
  refine ⟨content, last, ?_⟩
  rw [performed.item?_eq, itemAfter?, last]

theorem Performed.readBytes (performed : Performed store steps after) {step : Step} (mem : step ∈ steps) :
    ∃ content, lastWritten? steps (Path.place step.path) = some content ∧
      after.readBytes step.path = .ok content := by
  obtain ⟨content, last, file⟩ := performed.item?_path mem
  exact ⟨content, last, Store.readBytes_ok_iff.2 ⟨(performed.reaches mem).1, file⟩⟩

/-- A step that fails makes at most directories around its file. -/
theorem Fails.onlyMakes {step : Step} {error : Error} (fails : Fails store step error after) :
    OnlyMakes (Path.directories step.path) store after := by
  cases fails with
  | render fault => exact .refl _ _
  | write renders fault => exact onlyMakes_of_write_error fault

end Leaving

def placeholdersOf : Catalog.Scope → Nat
  | .type => 1
  | .schema => 0

/-- The template of an artifact is registered, and the pattern is one for its scope. -/
def Fits (catalog : Catalog) (artifact : Artifact) : Prop :=
  ∃ scope, catalog.scope artifact.template = .ok scope ∧
    Pattern.placeholders artifact.pattern = placeholdersOf scope

def artifactsOf (catalog : Catalog) (config : Config) (scope : Catalog.Scope) : List Artifact :=
  config.artifacts.filter fun artifact => catalog.scope artifact.template = .ok scope

/-- What a run has to do: every per-type artifact for each type in declaration order, then every
whole-schema artifact once. -/
def planned (catalog : Catalog) (schema : Schema) (config : Config) : List Step :=
  let context := Catalog.Context.ofSchema schema config.options
  (schema.types.flatMap fun type => (artifactsOf catalog config .type).map fun artifact =>
    ⟨artifact.resolve (some type.name),
      catalog.render artifact.template (context.withTarget type.resolve)⟩) ++
  (artifactsOf catalog config .schema).map fun artifact =>
    ⟨artifact.resolve none, catalog.render artifact.template context⟩

section Planning

variable {catalog : Catalog} {schema : Schema} {config : Config}

theorem validate_ok_iff {artifact : Artifact} {scope : Catalog.Scope} :
    artifact.validate scope = .ok () ↔ Pattern.placeholders artifact.pattern = placeholdersOf scope := by
  cases scope with
  | type => exact Artifact.validate_type_iff
  | schema => exact Artifact.validate_schema_iff

theorem checkArtifacts_of_fits {artifacts : List Artifact}
    (fits : ∀ artifact ∈ artifacts, Fits catalog artifact) :
    ∃ checked, checkArtifacts catalog artifacts = .ok checked ∧
      ∀ scope, (checked.filter (·.2 == scope)).map (·.1) =
        artifacts.filter fun artifact => catalog.scope artifact.template = .ok scope := by
  induction artifacts with
  | nil => exact ⟨[], rfl, fun _ => rfl⟩
  | cons artifact rest ih =>
    rw [List.forall_mem_cons] at fits
    obtain ⟨⟨scope, known, pattern⟩, others⟩ := fits
    obtain ⟨checked, done, scopes⟩ := ih others
    refine ⟨(artifact, scope) :: checked, ?_, fun other => ?_⟩
    · rw [checkArtifacts, bind_eq_ok]
      refine ⟨scope, known, bind_eq_ok.2 ⟨(), validate_ok_iff.2 pattern, bind_eq_ok.2 ⟨checked, done, rfl⟩⟩⟩
    · rw [List.filter_cons, List.filter_cons, known, ← scopes other]
      by_cases same : scope = other
      · simp [same]
      · simp [same]

theorem renderType_eq {artifact : Artifact} {type : TypeDecl} (sound : schema.Sound)
    (declared : type ∈ schema.types) (single : catalog.scope artifact.template = .ok .type) :
    catalog.renderType (.ofSchema schema config.options) artifact.template type.name =
      catalog.render artifact.template
        ((Catalog.Context.ofSchema schema config.options).withTarget type.resolve) := by
  have found : (Catalog.Context.ofSchema schema config.options).resolved.getType? type.name =
      some type.resolve := sound.getType?_resolve declared
  simp only [Catalog.renderType, single, found, bind, Except.bind]

theorem renderSchema_eq {context : Catalog.Context} {artifact : Artifact}
    (whole : catalog.scope artifact.template = .ok .schema) :
    catalog.renderSchema context artifact.template = catalog.render artifact.template context := by
  simp only [Catalog.renderSchema, whole, bind, Except.bind]

/-- A consistent schema is rendered as planned: every type is found under its name. -/
theorem steps_eq_planned {checked : List (Artifact × Catalog.Scope)} (sound : schema.Sound)
    (scopes : ∀ scope, (checked.filter (·.2 == scope)).map (·.1) = artifactsOf catalog config scope) :
    steps catalog (.ofSchema schema config.options) checked = planned catalog schema config := by
  have single {artifact : Artifact} {scope : Catalog.Scope}
      (mem : artifact ∈ artifactsOf catalog config scope) : catalog.scope artifact.template = .ok scope :=
    of_decide_eq_true (List.mem_filter.1 mem).2
  unfold steps planned
  dsimp only
  rw [scopes .type, scopes .schema]
  congr 1
  · show (schema.types.map TypeDecl.resolve).flatMap _ = _
    rw [List.flatMap_map]
    refine List.flatMap_congr fun type declared => List.map_congr_left fun artifact mem => ?_
    exact congrArg (Step.mk _) (renderType_eq sound declared (single mem))
  · refine List.map_congr_left fun artifact mem => ?_
    rw [renderSchema_eq (single mem)]

theorem sound_of_loadSchema {path : String} {text : Except Store.Fault String}
    (loaded : loadSchema path text = .ok schema) : schema.Sound := by
  cases text with
  | error cause => cases loaded
  | ok text =>
    obtain ⟨document, -, decoded⟩ := Schema.parse_ok.1 loaded
    exact Schema.validate_ok.1 (Schema.ofJson_ok.1 decoded).2

/-- A run whose settings and inputs are in order performs its plan. -/
theorem run_eq_perform {store : Store} (loads : catalogOf (.ofStore store config) = .ok catalog)
    (fits : ∀ artifact ∈ config.artifacts, Fits catalog artifact)
    (loaded : loadSchema config.schemaPath (store.readText config.schemaPath) = .ok schema) :
    run store config = perform store (planned catalog schema config) := by
  obtain ⟨checked, done, scopes⟩ := checkArtifacts_of_fits fits
  have planned : plan config (.ofStore store config) = .ok (planned catalog schema config) := by
    rw [← steps_eq_planned (sound_of_loadSchema loaded) scopes, plan, bind_eq_ok]
    refine ⟨catalog, loads, bind_eq_ok.2 ⟨checked, done, bind_eq_ok.2 ⟨schema, ?_, rfl⟩⟩⟩
    exact mapError_eq_ok.2 loaded
  rw [run_eq, planned]

end Planning

/-- What is left of a store after steps were performed and directories may have been made for one more. -/
structure Left (store : Store) (done : List Step) (made : List Place) (after : Store) : Prop where
  items : ∀ place, after.item? place = itemAfter? store done place ∨
    place ∈ made ∧ itemAfter? store done place = none ∧ after.item? place = some .directory
  /-- A file at no path of a performed step is as it was. -/
  frame : ∀ place, (∀ step ∈ done, Path.place step.path ≠ place) → ∀ content,
    after.item? place = some (.file content) ↔ store.item? place = some (.file content)

theorem Performed.left {store after : Store} {done : List Step} (performed : Performed store done after) :
    Left store done [] after :=
  ⟨fun place => .inl (performed.item?_eq place), fun _ other => performed.file_iff other⟩

theorem Performed.left_of_fails {store before after : Store} {done : List Step} {step : Step} {error : Error}
    (performed : Performed store done before) (fails : Fails before step error after) :
    Left store done (Path.directories step.path) after := by
  have makes := fails.onlyMakes
  refine ⟨fun place => ?_, fun place other content => ?_⟩
  · rw [← performed.item?_eq place]
    exact makes place
  · rw [← performed.file_iff other]
    rcases makes place with same | ⟨-, missing, made⟩
    · rw [same]
    · rw [missing, made]
      exact ⟨nofun, nofun⟩

/-- A run performs its plan and stops at the first step that fails to render or to be written. It reports
the paths of the plan in order. It leaves what the performed steps wrote, and of a step that fails at most
directories. -/
theorem run_follows_plan {store : Store} {config : Config} {catalog : Catalog} {schema : Schema}
    (loads : catalogOf (.ofStore store config) = .ok catalog)
    (fits : ∀ artifact ∈ config.artifacts, Fits catalog artifact)
    (loaded : loadSchema config.schemaPath (store.readText config.schemaPath) = .ok schema) :
    (∀ after report, run store config = (after, .ok report) ↔
        Performed store (planned catalog schema config) after ∧
          report = (planned catalog schema config).map (·.path)) ∧
      (∀ after error, run store config = (after, .error error) ↔
        ∃ done step rest before, planned catalog schema config = done ++ step :: rest ∧
          Performed store done before ∧ Fails before step error after) ∧
      (∀ after report, run store config = (after, .ok report) →
        Left store (planned catalog schema config) [] after) ∧
      (∀ done before step error after, Performed store done before → Fails before step error after →
        Left store done (Path.directories step.path) after) := by
  rw [run_eq_perform loads fits loaded]
  refine ⟨fun after report => perform_ok_iff, fun after error => perform_error_iff, ?_, ?_⟩
  · intro after report done
    exact (perform_ok_iff.1 done).1.left
  · intro done before step error after performed fails
    exact performed.left_of_fails fails

def pointDocument : ByteArray :=
  "\x7b\"types\": [\x7b\"name\": \"Point\", \"fields\": []\x7d], \"root_type\": \"Point\"\x7d".toUTF8

def onlySchema : Store := .directory [("schema.json", .file pointDocument)]

/-- The whole-schema artifact, though named first, comes last, and the schema document is in its way. -/
def blockedConfig : Config :=
  ⟨"schema.json", [⟨"schema_json", "schema.json/copy"⟩, ⟨"header", "gen/%s.h"⟩], none, .standard⟩

theorem run_follows_plan_of_blockedConfig :
    (catalogOf (.ofStore onlySchema blockedConfig) = .ok .standard ∧
        (∀ artifact ∈ blockedConfig.artifacts, Fits .standard artifact) ∧
        loadSchema "schema.json" (onlySchema.readText "schema.json") =
          .ok (.ofDeclarations "Point" [] [⟨"Point", "", []⟩])) ∧
      ∃ done step rest before after,
        planned .standard (.ofDeclarations "Point" [] [⟨"Point", "", []⟩]) blockedConfig =
            done ++ step :: rest ∧
          Performed onlySchema done before ∧ Fails before step (.write "schema.json" .alreadyExists) after ∧
          Left onlySchema done (Path.directories step.path) after := by
  have fits : ∀ artifact ∈ blockedConfig.artifacts, Fits .standard artifact := by
    intro artifact mem
    rcases List.mem_cons.1 mem with rfl | mem
    · exact ⟨.schema, by decide +kernel, by decide +kernel⟩
    · rw [List.mem_singleton.1 mem]
      exact ⟨.type, by decide +kernel, by decide +kernel⟩
  have loaded : loadSchema "schema.json" (onlySchema.readText "schema.json") =
      .ok (.ofDeclarations "Point" [] [⟨"Point", "", []⟩]) := by decide +kernel
  obtain ⟨-, stops, -, leaves⟩ :=
    @run_follows_plan onlySchema blockedConfig .standard _ rfl fits loaded
  have stopped : (run onlySchema blockedConfig).2 = .error (.write "schema.json" .alreadyExists) := by
    decide +kernel
  obtain ⟨after, ran⟩ := exists_of_snd_eq stopped
  obtain ⟨done, step, rest, before, split, performed, fails⟩ := (stops after _).1 ran
  exact ⟨⟨rfl, fits, loaded⟩, done, step, rest, before, after, split, performed, fails,
    leaves done before step _ after performed fails⟩

end Generation

end FieldTypes
