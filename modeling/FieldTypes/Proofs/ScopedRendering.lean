import FieldTypes.Proofs.CatalogHistory
import FieldTypes.Proofs.NameIndex
import FieldTypes.Proofs.StandardRendering

set_option autoImplicit false

namespace FieldTypes

section Sequence

variable {ε α β : Type} {f : α → Except ε β}

theorem mapM_ok_iff_forall₂ {xs : List α} {results : List β} :
    xs.mapM f = .ok results ↔ List.Forall₂ (fun x result => f x = .ok result) xs results := by
  induction xs generalizing results with
  | nil => simp [pure, Except.pure, eq_comm]
  | cons x xs ih =>
    rw [mapM_cons_ok, List.forall₂_cons_left_iff]
    constructor
    · rintro ⟨result, others, done, more, rfl⟩
      exact ⟨result, others, done, ih.1 more, rfl⟩
    · rintro ⟨result, others, done, more, rfl⟩
      exact ⟨result, others, done, ih.2 more, rfl⟩

theorem exists_mapM_ok_iff {xs : List α} :
    (∃ results, xs.mapM f = .ok results) ↔ ∀ x ∈ xs, ∃ result, f x = .ok result := by
  induction xs with
  | nil => simp [pure, Except.pure]
  | cons x xs ih =>
    rw [List.forall_mem_cons, ← ih]
    simp only [mapM_cons_ok]
    constructor
    · rintro ⟨_, result, others, done, more, -⟩
      exact ⟨⟨result, done⟩, others, more⟩
    · rintro ⟨⟨result, done⟩, others, more⟩
      exact ⟨_, result, others, done, more, rfl⟩

end Sequence

namespace Catalog

open Generation (Config RenderCause run)

variable {catalog : Catalog} {context : Context} {schema : Schema} {options : Cpp.Options} {template : String}

/-- A type is bound where one is needed. -/
def Context.Serves (context : Context) (scope : Scope) : Prop := scope = .type → context.target ≠ none

theorem serves_withTarget (context : Context) (type : ResolvedType) (scope : Scope) :
    (context.withTarget type).Serves scope := fun _ => nofun

/-- A program that is given what its scope says renders. -/
theorem Builtin.exists_render (program : Builtin) (serves : context.Serves program.scope) :
    ∃ text, program.render context = .ok text := by
  have bound (text : ResolvedType → Cpp.Options → String) (single : program.scope = .type) :
      ∃ result, program.forTarget context text = .ok result := by
    obtain ⟨type, target⟩ := Option.ne_none_iff_exists'.1 (serves single)
    rw [Builtin.forTarget, target]
    exact ⟨_, rfl⟩
  cases program with
  | header => exact bound _ rfl
  | inlineHeader => exact bound _ rfl
  | source => exact bound _ rfl
  | schemaJson => exact ⟨_, rfl⟩

theorem scope_eq_ok_iff {scope : Scope} :
    catalog.scope template = .ok scope ↔ (catalog.entries.lookup template).map Entry.scope = some scope := by
  rw [Catalog.scope, Catalog.entry]
  cases catalog.entries.lookup template <;> simp [Except.map]

theorem scope_of_lookup_none (missing : catalog.entries.lookup template = none) :
    catalog.scope template = .error (.unknownTemplate template) := by
  rw [Catalog.scope, Catalog.entry, missing]
  rfl

theorem scope_cases (catalog : Catalog) (template : String) :
    catalog.scope template = .error (.unknownTemplate template) ∨ catalog.scope template = .ok .type ∨
      catalog.scope template = .ok .schema := by
  cases found : catalog.entries.lookup template with
  | none => exact .inl (scope_of_lookup_none found)
  | some entry =>
    have known : catalog.scope template = .ok entry.scope :=
      scope_eq_ok_iff.2 (congrArg (Option.map Entry.scope) found)
    cases scope : entry.scope with
    | type => exact .inr (.inl (scope ▸ known))
    | schema => exact .inr (.inr (scope ▸ known))

/-- The programs of a catalog are standard ones, whatever their names. -/
def IsStandard (catalog : Catalog) : Prop :=
  ∀ name strategy, catalog.entries.lookup name = some (.program strategy) →
    ∃ program : Builtin, strategy = program.strategy

def Change.IsStandard : Change → Prop
  | .strategy _ program => ∃ standard : Builtin, program = standard.strategy
  | .template .. | .directory _ => True

theorem nodes?_ne_none_of_mem_fileRegistrations {files : List Generation.TemplateFile} {item : String × Entry}
    (mem : item ∈ fileRegistrations files) : item.2.nodes? ≠ none := by
  induction files with
  | nil => cases mem
  | cons file rest ih =>
    rw [fileRegistrations] at mem
    split at mem
    · exact ih mem
    · rename_i name scope _
      cases found : entryOf? file scope with
      | none =>
        rw [found] at mem
        cases mem
      | some entry =>
        rw [found] at mem
        rcases List.mem_cons.1 mem with rfl | later
        · exact nodes?_ne_none_of_entryOf? found
        · exact ih later

theorem Change.IsStandard.of_mem {change : Change} (standard : change.IsStandard) {name : String}
    {strategy : Strategy} (mem : (name, .program strategy) ∈ change.registrations) :
    ∃ program : Builtin, strategy = program.strategy := by
  cases change with
  | strategy other program =>
    cases List.mem_singleton.1 mem
    exact standard
  | template other text scope =>
    obtain ⟨entry, found, same⟩ := List.mem_map.1 mem
    cases same
    exact absurd rfl (nodes?_ne_none_of_templateOf? (Option.mem_toList.1 found))
  | directory listed =>
    rw [Change.registrations] at mem
    split at mem
    · exact absurd rfl (nodes?_ne_none_of_mem_fileRegistrations mem)
    · cases mem

theorem Origin.exists_program {origin : Origin} {name : String} {strategy : Strategy}
    (mem : (name, .program strategy) ∈ origin.registrations) :
    ∃ program : Builtin, strategy = program.strategy := by
  cases origin with
  | empty => cases mem
  | standard =>
    simp only [Origin.registrations, Entry.builtin, List.mem_cons, Prod.mk.injEq, Entry.program.injEq,
      reduceCtorEq, and_false, List.not_mem_nil, or_false] at mem
    rcases mem with ⟨-, same⟩ | ⟨-, same⟩ | ⟨-, same⟩ | ⟨-, same⟩
    all_goals exact ⟨_, same⟩

theorem isStandard_after {origin : Origin} {history : List Change}
    (standard : ∀ change ∈ history, change.IsStandard) : (after origin history).IsStandard := by
  intro name strategy found
  rw [lookup_after, lastRegistered?] at found
  have mem := List.mem_reverse.1 (mem_of_lookup found)
  rcases List.mem_append.1 mem with first | later
  · exact Origin.exists_program first
  · obtain ⟨change, among, registers⟩ := List.mem_flatMap.1 later
    exact (standard change among).of_mem registers

/-- At its scope, a template of a catalog with standard programs fails only over a fault in it. -/
theorem fault_of_render {scope : Scope} {error : Generation.Error} (standard : catalog.IsStandard)
    (known : catalog.scope template = .ok scope) (serves : context.Serves scope)
    (failed : catalog.render template context = .error error) :
    ∃ fault, error = .render template context.label (.fault fault) := by
  obtain ⟨entry, found, rfl⟩ := Option.map_eq_some_iff.1 (scope_eq_ok_iff.1 known)
  have shows := shows_lookup catalog template
  rw [found] at shows
  cases entry with
  | program strategy =>
    obtain ⟨program, rfl⟩ := standard template strategy found
    obtain ⟨text, rendered⟩ := program.exists_render serves
    cases ((shows.2 context).trans rendered).symm.trans failed
  | template scope nodes =>
    obtain ⟨fault, -, same⟩ := mapError_eq_error.1 ((shows.2 context).symm.trans failed)
    exact ⟨fault, same.symm⟩

theorem render_of_builtin {origin : Origin} {history : List Change} {program : Builtin}
    (found : lastRegistered? origin history template = some (.builtin program)) :
    (after origin history).render template context = program.render context := by
  have shown := shows_lookup (after origin history) template
  rw [lookup_after, found] at shown
  exact shown.2 context

theorem renderType_of_schema (known : catalog.scope template = .ok .schema) (name : String) :
    catalog.renderType context template name = .error (.config (.rendersSchema template)) := by
  rw [renderType, known]
  rfl

theorem renderType_of_unknown (unknown : catalog.scope template = .error (.unknownTemplate template))
    (name : String) : catalog.renderType context template name = .error (.unknownTemplate template) := by
  rw [renderType, unknown]
  rfl

theorem renderSchema_of_unknown (unknown : catalog.scope template = .error (.unknownTemplate template)) :
    catalog.renderSchema context template = .error (.unknownTemplate template) := by
  rw [renderSchema, unknown]
  rfl

theorem renderSchema_of_type (known : catalog.scope template = .ok .type) :
    catalog.renderSchema context template = .error (.config (.rendersType template)) := by
  rw [renderSchema, known]
  rfl

theorem renderType_of_type (known : catalog.scope template = .ok .type) (name : String) :
    catalog.renderType context template name =
      match context.resolved.getType? name with
      | none => .error (.render template (typeLabel name) .noSuchType)
      | some type => catalog.render template (context.withTarget type) := by
  rw [renderType, known]
  rfl

theorem renderSchema_of_schema (known : catalog.scope template = .ok .schema) :
    catalog.renderSchema context template = catalog.render template context := by
  rw [renderSchema, known]
  rfl

theorem renderAll_eq (catalog : Catalog) (schema : Schema) (options : Cpp.Options) (template : String) :
    catalog.renderAll (.ofSchema schema options) template = schema.types.mapM fun type =>
      (catalog.renderType (.ofSchema schema options) template type.name).map fun text => (type.name, text) := by
  have types : (Context.ofSchema schema options).resolved.types = schema.types.map TypeDecl.resolve := rfl
  rw [renderAll, types, List.mapM_map]
  refine mapM_congr fun type _ => ?_
  show (catalog.renderType (.ofSchema schema options) template type.name >>= _) = _
  cases catalog.renderType (.ofSchema schema options) template type.name <;> rfl

theorem renderAll_of_error {error : Generation.Error} (populated : schema.types ≠ [])
    (fails : ∀ name, catalog.renderType (.ofSchema schema options) template name = .error error) :
    catalog.renderAll (.ofSchema schema options) template = .error error := by
  rw [renderAll_eq]
  cases declared : schema.types with
  | nil => exact absurd declared populated
  | cons first rest =>
    refine mapM_cons_error.2 (.inl ?_)
    rw [fails]
    rfl

/-- The texts of all types, each with the name of the type that it is rendered for. -/
def TextsOf (catalog : Catalog) (schema : Schema) (options : Cpp.Options) (template : String)
    (texts : List (String × String)) : Prop :=
  List.Forall₂ (fun type item => item.1 = type.name ∧
    catalog.render template ((Context.ofSchema schema options).withTarget type.resolve) = .ok item.2)
    schema.types texts

/-- What the renderings under a name are, by the scope at which it is registered. -/
def RendersAt (catalog : Catalog) (schema : Schema) (options : Cpp.Options) (template : String) :
    Option Scope → Prop
  | none =>
    (∀ name, catalog.renderType (.ofSchema schema options) template name =
        .error (.unknownTemplate template)) ∧
      catalog.renderSchema (.ofSchema schema options) template = .error (.unknownTemplate template) ∧
      catalog.renderAll (.ofSchema schema options) template = .error (.unknownTemplate template)
  | some .schema =>
    (∀ name, catalog.renderType (.ofSchema schema options) template name =
        .error (.config (.rendersSchema template))) ∧
      catalog.renderSchema (.ofSchema schema options) template =
        catalog.render template (.ofSchema schema options) ∧
      catalog.renderAll (.ofSchema schema options) template = .error (.config (.rendersSchema template))
  | some .type =>
    (∀ type ∈ schema.types, catalog.renderType (.ofSchema schema options) template type.name =
        catalog.render template ((Context.ofSchema schema options).withTarget type.resolve)) ∧
      catalog.renderSchema (.ofSchema schema options) template = .error (.config (.rendersType template))

theorem renderType_of_declared {type : TypeDecl} (sound : schema.Sound)
    (known : catalog.scope template = .ok .type) (declared : type ∈ schema.types) :
    catalog.renderType (.ofSchema schema options) template type.name =
      catalog.render template ((Context.ofSchema schema options).withTarget type.resolve) := by
  have found : (Context.ofSchema schema options).resolved.getType? type.name = some type.resolve :=
    sound.getType?_resolve declared
  rw [renderType_of_type known, found]

theorem types_ne_nil (built : schema.Built) (sound : schema.Sound) : schema.types ≠ [] := by
  intro none_
  have rooted := built.hasType_iff.1 sound.root
  rw [none_] at rooted
  cases rooted

theorem rendersAt_lookup (built : schema.Built) (sound : schema.Sound) (catalog : Catalog)
    (options : Cpp.Options) (template : String) :
    catalog.RendersAt schema options template ((catalog.entries.lookup template).map Entry.scope) := by
  have populated := types_ne_nil built sound
  cases found : catalog.entries.lookup template with
  | none =>
    have unknown := scope_of_lookup_none found
    have fails (name : String) : catalog.renderType (.ofSchema schema options) template name =
        .error (.unknownTemplate template) := renderType_of_unknown unknown name
    exact ⟨fails, renderSchema_of_unknown unknown, renderAll_of_error populated fails⟩
  | some entry =>
    have known : catalog.scope template = .ok entry.scope :=
      scope_eq_ok_iff.2 (congrArg (Option.map Entry.scope) found)
    rw [Option.map_some]
    cases scope : entry.scope with
    | schema =>
      rw [scope] at known
      have fails (name : String) : catalog.renderType (.ofSchema schema options) template name =
          .error (.config (.rendersSchema template)) := renderType_of_schema known name
      exact ⟨fails, renderSchema_of_schema known, renderAll_of_error populated fails⟩
    | type =>
      rw [scope] at known
      exact ⟨fun type declared => renderType_of_declared sound known declared, renderSchema_of_type known⟩

theorem scope_of_renderAll (built : schema.Built) (sound : schema.Sound) {texts : List (String × String)}
    (rendered : catalog.renderAll (.ofSchema schema options) template = .ok texts) :
    catalog.scope template = .ok .type := by
  have populated := types_ne_nil built sound
  rcases scope_cases catalog template with unknown | single | whole
  · cases (renderAll_of_error populated (renderType_of_unknown unknown)).symm.trans rendered
  · exact single
  · cases (renderAll_of_error populated (renderType_of_schema whole)).symm.trans rendered

theorem renderAll_of_type (sound : schema.Sound) (known : catalog.scope template = .ok .type) :
    catalog.renderAll (.ofSchema schema options) template = schema.types.mapM fun type =>
      (catalog.render template ((Context.ofSchema schema options).withTarget type.resolve)).map
        fun text => (type.name, text) := by
  rw [renderAll_eq]
  refine mapM_congr fun type declared => ?_
  rw [renderType_of_declared sound known declared]

theorem map_pair_eq_ok {result : Except Generation.Error String} {name : String} {item : String × String} :
    (result.map fun text => (name, text)) = .ok item ↔ item.1 = name ∧ result = .ok item.2 := by
  rw [map_eq_ok]
  constructor
  · rintro ⟨text, done, rfl⟩
    exact ⟨rfl, done⟩
  · rintro ⟨rfl, done⟩
    exact ⟨item.2, done, rfl⟩

theorem renderAll_ok_iff (built : schema.Built) (sound : schema.Sound) {texts : List (String × String)} :
    catalog.renderAll (.ofSchema schema options) template = .ok texts ↔
      catalog.scope template = .ok .type ∧ TextsOf catalog schema options template texts := by
  constructor
  · intro rendered
    have known := scope_of_renderAll built sound rendered
    rw [renderAll_of_type sound known, mapM_ok_iff_forall₂] at rendered
    exact ⟨known, rendered.imp fun _ _ => map_pair_eq_ok.1⟩
  · rintro ⟨known, texts⟩
    rw [renderAll_of_type sound known, mapM_ok_iff_forall₂]
    exact texts.imp fun _ _ => map_pair_eq_ok.2

theorem exists_renderAll_ok_iff (built : schema.Built) (sound : schema.Sound) :
    (∃ texts, catalog.renderAll (.ofSchema schema options) template = .ok texts) ↔
      catalog.scope template = .ok .type ∧ ∀ type ∈ schema.types, ∃ text,
        catalog.render template ((Context.ofSchema schema options).withTarget type.resolve) = .ok text := by
  have each (known : catalog.scope template = .ok .type) :
      (∃ texts, catalog.renderAll (.ofSchema schema options) template = .ok texts) ↔
        ∀ type ∈ schema.types, ∃ text,
          catalog.render template ((Context.ofSchema schema options).withTarget type.resolve) = .ok text := by
    rw [renderAll_of_type sound known, exists_mapM_ok_iff]
    simp only [map_eq_ok, exists_comm (α := String × String), exists_and_left, exists_eq', and_true]
  constructor
  · rintro ⟨texts, rendered⟩
    have known := scope_of_renderAll built sound rendered
    exact ⟨known, (each known).1 ⟨texts, rendered⟩⟩
  · rintro ⟨known, renders⟩
    exact (each known).2 renders

/-- A computation does not fail to render for a cause. -/
def Avoids {α : Type} (cause : RenderCause) (result : Except Generation.Error α) : Prop :=
  ∀ template target, result ≠ .error (.render template target cause)

/-- The causes of a rendering for a type that is missing. -/
def Missing (cause : RenderCause) : Prop := cause = .noTypeBound ∨ cause = .noSuchType

theorem avoids_render {cause : RenderCause} {scope : Scope} (standard : catalog.IsStandard) (missing : Missing cause)
    (known : catalog.scope template = .ok scope) (serves : context.Serves scope) :
    Avoids cause (catalog.render template context) := by
  intro other target failed
  obtain ⟨fault, same⟩ := fault_of_render standard known serves failed
  cases same
  rcases missing with same | same <;> cases same

theorem avoids_renderType {cause : RenderCause} {name : String} (standard : catalog.IsStandard)
    (missing : Missing cause)
    (declared : cause = .noSuchType → context.resolved.getType? name ≠ none) :
    Avoids cause (catalog.renderType context template name) := by
  intro other target failed
  rcases scope_cases catalog template with unknown | single | whole
  · rw [renderType_of_unknown unknown] at failed
    cases failed
  · rw [renderType_of_type single] at failed
    cases found : context.resolved.getType? name with
    | none =>
      rw [found] at failed
      cases failed
      exact declared rfl found
    | some type =>
      rw [found] at failed
      exact avoids_render standard missing single (serves_withTarget context type .type) other target failed
  · rw [renderType_of_schema whole] at failed
    cases failed

theorem avoids_renderSchema {cause : RenderCause} (standard : catalog.IsStandard) (missing : Missing cause) :
    Avoids cause (catalog.renderSchema context template) := by
  intro other target failed
  rcases scope_cases catalog template with unknown | single | whole
  · rw [renderSchema_of_unknown unknown] at failed
    cases failed
  · rw [renderSchema_of_type single] at failed
    cases failed
  · rw [renderSchema_of_schema whole] at failed
    exact avoids_render standard missing whole nofun other target failed

theorem getType?_ne_none {type : ResolvedType} (declared : type ∈ context.resolved.types) :
    context.resolved.getType? type.name ≠ none := fun absent =>
  List.find?_eq_none.1 absent type declared (beq_self_eq_true type.name)

theorem avoids_renderAll {cause : RenderCause} (standard : catalog.IsStandard) (missing : Missing cause) :
    Avoids cause (catalog.renderAll context template) := by
  intro other target failed
  obtain ⟨position, type, found, failed, -⟩ := mapM_error_iff.1 failed
  have declared := getType?_ne_none (List.mem_of_getElem? found)
  rcases bind_eq_error.1 failed with failed | ⟨text, -, failed⟩
  · exact avoids_renderType standard missing (fun _ => declared) other target failed
  · cases failed

end Catalog

namespace Generation

open Catalog (Avoids Missing)

variable {store : Store} {config : Config} {cause : RenderCause}

/-- The steps of a run ask for renderings by the names of templates only. -/
theorem avoids_of_mem_steps {catalog : Catalog} {context : Catalog.Context}
    {artifacts : List (Artifact × Catalog.Scope)} (standard : catalog.IsStandard) (missing : Missing cause)
    {step : Step}
    (mem : step ∈ steps catalog context artifacts) : Avoids cause step.text := by
  unfold steps at mem
  rcases List.mem_append.1 mem with mem | mem
  · obtain ⟨type, declared, mem⟩ := List.mem_flatMap.1 mem
    obtain ⟨artifact, -, rfl⟩ := List.mem_map.1 mem
    exact Catalog.avoids_renderType standard missing fun _ => Catalog.getType?_ne_none declared
  · obtain ⟨artifact, -, rfl⟩ := List.mem_map.1 mem
    exact Catalog.avoids_renderSchema standard missing

/-- What is wrong with settings and inputs is no matter of a rendering. -/
theorem FirstFault.ne_render {error : Error} (fault : FirstFault store config error)
    (template target : String) : error ≠ .render template target cause := by
  rintro rfl
  cases fault with
  | directory _ fault =>
    cases fault with
    | file _ _ faulty => cases faulty
  | artifact _ fault =>
    obtain ⟨-, artifact, -, -, -, faulty⟩ := fault
    cases faulty

/-- A run starts with the standard catalog and changes it by the templates of a directory. -/
theorem isStandard_of_catalogOf {inputs : Inputs} {catalog : Catalog} (loads : catalogOf inputs = .ok catalog) :
    catalog.IsStandard := by
  cases given : inputs.templates with
  | none =>
    rw [catalogOf, given] at loads
    cases loads
    exact @Catalog.isStandard_after .standard [] nofun
  | some directory =>
    have loaded : catalog = (directory.load .standard).1 := by
      rw [catalogOf, given] at loads
      dsimp only at loads
      split at loads
      · rename_i same
        cases loads
        rw [same]
      · cases loads
    have change : ∀ change ∈ [Catalog.Change.directory directory], change.IsStandard := by
      rw [List.forall_mem_singleton]
      exact trivial
    rw [loaded]
    exact @Catalog.isStandard_after .standard _ change

theorem avoids_run (missing : Missing cause) (store : Store) (config : Config) :
    Avoids cause (run store config).2 := by
  intro template target failed
  rw [run_eq] at failed
  cases planned : plan config (.ofStore store config) with
  | error error =>
    rw [planned] at failed
    cases failed
    exact (plan_error_iff.1 planned).ne_render template target rfl
  | ok steps =>
    rw [planned] at failed
    obtain ⟨after, stopped⟩ := exists_of_snd_eq failed
    obtain ⟨front, step, rest, before, rfl, -, fails⟩ := perform_error_iff.1 stopped
    obtain ⟨catalog, loads, planned⟩ := bind_eq_ok.1 planned
    obtain ⟨checked, -, planned⟩ := bind_eq_ok.1 planned
    obtain ⟨schema, -, planned⟩ := bind_eq_ok.1 planned
    injection planned with made
    have mem : step ∈ Generation.steps catalog (.ofSchema schema config.options) checked :=
      made ▸ List.mem_append_right front List.mem_cons_self
    cases fails with
    | render fault => exact avoids_of_mem_steps (isStandard_of_catalogOf loads) missing mem template target fault
    | write renders fault =>
      obtain ⟨path, inner, same⟩ := (Fails.write renders fault).of_renders renders
      cases same

end Generation

namespace Catalog

open Generation (Config RenderCause run)

/-- What is rendered under a name after any history of registrations is decided by the scope of what was
registered there last. All types are rendered, each with its own name and bound to the type of that name,
exactly if it is a per-type rendering and renders for each of them. The other scope is refused before anything is
rendered, as is a name under which nothing is registered. If all programs are standard ones, no rendering ends
for want of a type, and no run ever does. -/
theorem renders_at_scope (origin : Origin) (history : List Change) (schema : Schema) (options : Cpp.Options)
    (template : String) (built : schema.Built) (accepted : schema.validate = .ok ()) :
    (after origin history).RendersAt schema options template
        ((lastRegistered? origin history template).map Entry.scope) ∧
      ((∃ texts, (after origin history).renderAll (.ofSchema schema options) template = .ok texts) ↔
        (lastRegistered? origin history template).map Entry.scope = some .type ∧
          ∀ type ∈ schema.types, ∃ text, (after origin history).render template
            ((Context.ofSchema schema options).withTarget type.resolve) = .ok text) ∧
      (∀ texts, (after origin history).renderAll (.ofSchema schema options) template = .ok texts →
        TextsOf (after origin history) schema options template texts) ∧
      ((∀ change ∈ history, change.IsStandard) →
        (∀ name, Avoids .noTypeBound
          ((after origin history).renderType (.ofSchema schema options) template name)) ∧
        (∀ type ∈ schema.types, Avoids .noSuchType
          ((after origin history).renderType (.ofSchema schema options) template type.name)) ∧
        ∀ cause, Missing cause →
          Avoids cause ((after origin history).renderSchema (.ofSchema schema options) template) ∧
          Avoids cause ((after origin history).renderAll (.ofSchema schema options) template)) ∧
      ∀ cause, Missing cause → ∀ store config, Avoids cause (run store config).2 := by
  have sound := Schema.validate_ok.1 accepted
  have shown := rendersAt_lookup built sound (after origin history) options template
  rw [lookup_after] at shown
  refine ⟨shown, ?_, fun texts rendered => ((renderAll_ok_iff built sound).1 rendered).2, fun changes => ?_,
    fun cause missing => Generation.avoids_run missing⟩
  · rw [exists_renderAll_ok_iff built sound, scope_eq_ok_iff, lookup_after]
  · have standard : (after origin history).IsStandard := isStandard_after changes
    refine ⟨fun name => avoids_renderType standard (.inl rfl) nofun, fun type declared => ?_, ?_⟩
    · have resolved : type.resolve ∈ (Context.ofSchema schema options).resolved.types :=
        List.mem_map_of_mem declared
      exact avoids_renderType standard (.inr rfl) fun _ => getType?_ne_none resolved
    · exact fun cause missing => ⟨avoids_renderSchema standard missing, avoids_renderAll standard missing⟩

/-- Where a program stands that renders a type, every type is rendered; a template that replaced one is
refused for a type from then on. -/
theorem renders_at_scope_of_replacements :
    leafAlone.Built ∧ leafAlone.validate = .ok () ∧
      (∃ text, (after .standard replacements).renderAll (.ofSchema leafAlone .standard) "source" =
        .ok [("Leaf", text)]) ∧
      (after .standard replacements).renderType (.ofSchema leafAlone .standard) "header" "Leaf" =
        .error (.config (.rendersSchema "header")) ∧
      Avoids .noTypeBound
        ((after .standard replacements).renderType (.ofSchema leafAlone .standard) "source" "Branch") := by
  have built : leafAlone.Built := Schema.built_ofDeclarations _ _ _
  have accepted : leafAlone.validate = .ok () := by decide +kernel
  obtain ⟨nodes, made⟩ := registrations_replacements
  have source : lastRegistered? .standard replacements "source" = some (.builtin .source) := by
    rw [lastRegistered?, made]
    rfl
  have header : lastRegistered? .standard replacements "header" = some (.template .schema nodes) := by
    rw [lastRegistered?, made]
    rfl
  have changes : ∀ change ∈ replacements, change.IsStandard := by
    rw [replacements, List.forall_mem_cons, List.forall_mem_cons, List.forall_mem_singleton]
    exact ⟨trivial, ⟨.schemaJson, rfl⟩, trivial⟩
  obtain ⟨-, all, texts, avoids, -⟩ :=
    renders_at_scope .standard replacements leafAlone .standard "source" built accepted
  obtain ⟨refused, -⟩ := renders_at_scope .standard replacements leafAlone .standard "header" built accepted
  rw [source] at all
  rw [header] at refused
  refine ⟨built, accepted, ?_, refused.1 "Leaf", (avoids changes).1 "Branch"⟩
  have each : ∀ type ∈ leafAlone.types, ∃ text, (after .standard replacements).render "source"
      ((Context.ofSchema leafAlone .standard).withTarget type.resolve) = .ok text := by
    intro type _
    rw [render_of_builtin source]
    exact Builtin.source.exists_render (serves_withTarget _ type.resolve .type)
  obtain ⟨rendered, done⟩ := all.2 ⟨rfl, each⟩
  have listed := texts rendered done
  rw [TextsOf, show leafAlone.types = [leaf] from rfl, List.forall₂_cons_left_iff] at listed
  obtain ⟨⟨name, text⟩, others, ⟨named, -⟩, more, rfl⟩ := listed
  rw [List.forall₂_nil_left_iff.1 more, show name = "Leaf" from named] at done
  exact ⟨text, done⟩

end Catalog

end FieldTypes
