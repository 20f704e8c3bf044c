import FieldTypes.Proofs.PageTemplates
import FieldTypes.Proofs.RunFaults
import FieldTypes.Proofs.SourceAgreement
import FieldTypes.Proofs.StandardTemplates

set_option autoImplicit false

namespace FieldTypes

namespace Catalog

open Text (unlines)

/-- What each standard per-type template makes of a type. -/
def typeTexts : List (String × (ResolvedType → Cpp.Options → String)) :=
  [ ("header", Cpp.ClassDeclaration.text)
  , ("inline_header", Cpp.TemplateDefinitions.text)
  , ("source", Cpp.MemberDefinitions.text)
  , ("dispatch", Cpp.MemberDefinitions.text)
  , ("doc", fun type _ => unlines (BuiltinTemplate.pageLines type)) ]

/-- What each standard whole-schema template makes of a context. -/
def schemaTexts : List (String × (Context → String)) :=
  [ ("schema_json", fun context => context.schema.toJson.indented ++ "\n")
  , ("registry", fun context =>
      unlines (BuiltinTemplate.registryLines context.options context.headers context.resolved.rootType
        (context.resolved.types.map (·.name)))) ]

/-- A standard per-type template uses of a context the options and the type with the name asked for. -/
theorem renderType_standard {context : Context} {template name : String} {type : TypeDecl}
    {text : ResolvedType → Cpp.Options → String} (mem : (template, text) ∈ typeTexts)
    (found : context.resolved.getType? name = some type.resolve) :
    standard.renderType context template name = .ok (text type.resolve context.options) := by
  simp only [typeTexts, List.mem_cons, Prod.mk.injEq, List.not_mem_nil, or_false] at mem
  obtain ⟨rfl, rfl⟩ | ⟨rfl, rfl⟩ | ⟨rfl, rfl⟩ | ⟨rfl, rfl⟩ | ⟨rfl, rfl⟩ := mem
  · exact @renderType_program _ _ _ _ Builtin.header.strategy _ (by rw [lookup_standard]; rfl) rfl found
  · exact @renderType_program _ _ _ _ Builtin.inlineHeader.strategy _ (by rw [lookup_standard]; rfl) rfl found
  · exact @renderType_program _ _ _ _ Builtin.source.strategy _ (by rw [lookup_standard]; rfl) rfl found
  · exact renderType_template (by rw [lookup_standard]; rfl) found (render_dispatch_of_declared type context _ _)
  · exact renderType_template (by rw [lookup_standard]; rfl) found
      (BuiltinTemplate.render_doc context type.resolve _ _)

theorem renderSchema_standard {context : Context} {template : String} {text : Context → String}
    (mem : (template, text) ∈ schemaTexts) : standard.renderSchema context template = .ok (text context) := by
  simp only [schemaTexts, List.mem_cons, Prod.mk.injEq, List.not_mem_nil, or_false] at mem
  obtain ⟨rfl, rfl⟩ | ⟨rfl, rfl⟩ := mem
  · exact @renderSchema_program _ _ _ Builtin.schemaJson.strategy (by rw [lookup_standard]; rfl) rfl
  · exact renderSchema_template (by rw [lookup_standard]; rfl) (BuiltinTemplate.render_registry context _ _)

theorem standard_cases {template : String} (known : template ∈ standard.names) :
    (standard.scope template = .ok .type ∧ ∃ text, (template, text) ∈ typeTexts) ∨
      standard.scope template = .ok .schema ∧ ∃ text, (template, text) ∈ schemaTexts := by
  rw [names_standard] at known
  simp only [List.mem_cons, List.not_mem_nil, or_false] at known
  obtain rfl | rfl | rfl | rfl | rfl | rfl | rfl := known
  · exact .inl ⟨rfl, _, .tail _ (.tail _ (.tail _ (.head _)))⟩
  · exact .inl ⟨rfl, _, .tail _ (.tail _ (.tail _ (.tail _ (.head _))))⟩
  · exact .inl ⟨rfl, _, .head _⟩
  · exact .inl ⟨rfl, _, .tail _ (.head _)⟩
  · exact .inr ⟨rfl, _, .tail _ (.head _)⟩
  · exact .inr ⟨rfl, _, .head _⟩
  · exact .inl ⟨rfl, _, .tail _ (.tail _ (.head _))⟩

/-- Whatever names are declared twice, a declared name leads to a declared type. -/
theorem exists_getType?_resolve {schema : Schema} {type : TypeDecl} (declared : type ∈ schema.types) :
    ∃ other ∈ schema.types, schema.resolve.getType? type.name = some other.resolve := by
  rw [ResolvedSchema.getType?, Schema.resolve, List.find?_map]
  show ∃ other ∈ schema.types, (schema.types.find? (·.name == type.name)).map TypeDecl.resolve = _
  cases found : schema.types.find? (·.name == type.name) with
  | none => exact absurd (beq_self_eq_true type.name) (List.find?_eq_none.1 found type declared)
  | some other => exact ⟨other, List.mem_of_find?_eq_some found, rfl⟩

/-- Everything that a catalog has is rendered, at its own scope: for every type of a schema, or once. -/
def RendersAll (catalog : Catalog) (schema : Schema) (options : Cpp.Options) : Prop :=
  ∀ template ∈ catalog.names,
    (catalog.scope template = .ok .type ∧ ∀ type ∈ schema.types, ∃ text,
      catalog.renderType (.ofSchema schema options) template type.name = .ok text) ∨
    catalog.scope template = .ok .schema ∧ ∃ text,
      catalog.renderSchema (.ofSchema schema options) template = .ok text

theorem standard_rendersAll (schema : Schema) (options : Cpp.Options) : standard.RendersAll schema options := by
  intro template known
  rcases standard_cases known with ⟨single, text, mem⟩ | ⟨whole, text, mem⟩
  · refine .inl ⟨single, fun type declared => ?_⟩
    obtain ⟨other, -, found⟩ := exists_getType?_resolve declared
    exact ⟨_, renderType_standard mem found⟩
  · exact .inr ⟨whole, _, renderSchema_standard mem⟩

theorem Alike.rendersAll {first second : Catalog} {schema : Schema} {options : Cpp.Options}
    (alike : Alike first second) (all : second.RendersAll schema options) : first.RendersAll schema options := by
  intro template known
  rw [alike.scope_eq]
  rcases all template (alike.mem_names_iff.1 known) with ⟨single, texts⟩ | ⟨whole, text, rendered⟩
  · refine .inl ⟨single, fun type declared => ?_⟩
    obtain ⟨text, rendered⟩ := texts type declared
    exact ⟨text, alike.renderType_ok rendered⟩
  · exact .inr ⟨whole, text, alike.renderSchema_ok rendered⟩

end Catalog

namespace Generation

open Catalog (standard RendersAll)

variable {store : Store} {config : Config} {error : Error}

/-- Every step of a plan renders if everything in the catalog does. -/
theorem exists_text_of_planned {catalog : Catalog} {schema : Schema} (sound : schema.Sound)
    (all : catalog.RendersAll schema config.options) {step : Step} (mem : step ∈ planned catalog schema config) :
    ∃ text, step.text = .ok text := by
  have inScope {artifact : Artifact} {scope : Catalog.Scope} (mem : artifact ∈ artifactsOf catalog config scope) :
      catalog.scope artifact.template = .ok scope ∧ artifact.template ∈ catalog.names := by
    have known : catalog.scope artifact.template = .ok scope := of_decide_eq_true (List.mem_filter.1 mem).2
    refine ⟨known, Catalog.mem_names_iff.2 fun missing => ?_⟩
    cases (scope_of_missing missing).symm.trans known
  unfold planned at mem
  rcases List.mem_append.1 mem with mem | mem
  · obtain ⟨type, declared, mem⟩ := List.mem_flatMap.1 mem
    obtain ⟨artifact, listed, rfl⟩ := List.mem_map.1 mem
    obtain ⟨known, named⟩ := inScope listed
    rcases all artifact.template named with ⟨-, texts⟩ | ⟨whole, -⟩
    · obtain ⟨text, rendered⟩ := texts type declared
      exact ⟨text, (renderType_eq sound declared known).symm.trans rendered⟩
    · cases whole.symm.trans known
  · obtain ⟨artifact, listed, rfl⟩ := List.mem_map.1 mem
    obtain ⟨known, named⟩ := inScope listed
    rcases all artifact.template named with ⟨single, -⟩ | ⟨-, text, rendered⟩
    · cases single.symm.trans known
    · exact ⟨text, (renderSchema_eq known).symm.trans rendered⟩

theorem Fails.of_renders {step : Step} {after : Store} (fails : Fails store step error after) {text : String}
    (renders : step.text = .ok text) : ∃ path cause, error = .write path cause := by
  cases fails with
  | render fault => cases fault.symm.trans renders
  | write _ fault =>
    obtain ⟨made, ⟨cause, -, wrote⟩ | ⟨-, ⟨cause, -, wrote⟩ | ⟨other, -, wrote⟩⟩⟩ := write_cases store step.path _
    all_goals
      rw [wrote] at fault
      cases fault
    · exact ⟨_, cause, rfl⟩
    · exact ⟨_, cause, rfl⟩

/-- What can be wrong with a run that has no templates of its own: an artifact of the settings, the schema,
or a file that cannot be written. -/
inductive PlainFault (store : Store) (config : Config) : Error → Prop
  | artifact {artifact : Artifact} {error : Error} (mem : artifact ∈ config.artifacts)
      (fault : ArtifactFault .standard artifact error) : PlainFault store config error
  | schema {error : SchemaError} (fault : SchemaFault store config.schemaPath error) :
      PlainFault store config (.schema error)
  | write (path : String) (cause : Store.Fault) : PlainFault store config (.write path cause)

theorem plainFault_of_run (plain : config.templateDirectory = none)
    (failed : (run store config).2 = .error error) : PlainFault store config error := by
  have loads : catalogOf (.ofStore store config) = .ok .standard := by
    unfold catalogOf Inputs.ofStore
    rw [plain]
    rfl
  cases made : plan config (.ofStore store config) with
  | error fault =>
    rw [run_eq, made] at failed
    cases failed
    cases plan_error_iff.1 made with
    | directory given => cases plain.symm.trans given
    | artifact known first =>
      obtain ⟨before, artifact, after, split, -, fault⟩ := first
      cases loads.symm.trans known
      exact .artifact (split ▸ List.mem_append_right before List.mem_cons_self) fault
    | schema _ _ fault => exact .schema fault
  | ok steps =>
    obtain ⟨catalog, known, made⟩ := bind_eq_ok.1 made
    cases loads.symm.trans known
    obtain ⟨checked, done, made⟩ := bind_eq_ok.1 made
    obtain ⟨schema, loaded, -⟩ := bind_eq_ok.1 made
    have loaded := mapError_eq_ok.1 loaded
    rw [run_eq_perform loads (fits_of_checkArtifacts done) loaded] at failed
    obtain ⟨after, stopped⟩ := exists_of_snd_eq failed
    obtain ⟨front, step, rest, before, split, -, fails⟩ := perform_error_iff.1 stopped
    have mem : step ∈ planned .standard schema config := split ▸ List.mem_append_right front List.mem_cons_self
    obtain ⟨text, renders⟩ := exists_text_of_planned (sound_of_loadSchema loaded)
      (Catalog.standard_rendersAll schema config.options) mem
    obtain ⟨path, cause, rfl⟩ := fails.of_renders renders
    exact .write path cause

theorem PlainFault.ne_render (fault : PlainFault store config error) (template target : String)
    (cause : RenderCause) : error ≠ .render template target cause := by
  rintro rfl
  cases fault with
  | artifact _ fault => cases fault

end Generation

namespace Catalog

open Generation (Config Error PlainFault run)

/-- Each of the seven templates of the standard catalog renders for every schema, consistent or not, and for
each of its types; so do the templates read from the texts of the standard ones. A run without templates of
its own therefore fails over its settings, its schema or a file to write, never over a template. -/
theorem standard_catalog_total (schema : Schema) (options : Cpp.Options) :
    standard.names = ["dispatch", "doc", "header", "inline_header", "registry", "schema_json", "source"] ∧
      standard.RendersAll schema options ∧
      (∃ catalog, ofTexts = .ok catalog ∧ (∀ name, name ∈ catalog.names ↔ name ∈ standard.names) ∧
        catalog.RendersAll schema options) ∧
      ∀ (store : Store) (config : Config) (error : Error), config.templateDirectory = none →
        (run store config).2 = .error error →
          PlainFault store config error ∧
            ∀ template target cause, error ≠ .render template target cause := by
  have all := standard_rendersAll schema options
  obtain ⟨catalog, made, alike⟩ := ofTexts_alike
  refine ⟨names_standard, all, ⟨catalog, made, fun _ => alike.mem_names_iff, alike.rendersAll all⟩, ?_⟩
  intro store config error plain failed
  have fault := Generation.plainFault_of_run plain failed
  exact ⟨fault, fault.ne_render⟩

/-- Two types of one name, with a param at a place that it does not have, a return type that is not declared,
and a default without text. -/
def inconsistent : Schema :=
  .ofDeclarations "Missing" []
    [ ⟨"Twin", "One.\n\nTwo.",
        [⟨"child", "", "Nothing", true, true, [⟨"depth", "", 7, "", false, some .null, some ""⟩]⟩]⟩
    , ⟨"Twin", "", []⟩ ]

/-- The schema document is in the way of the page. -/
def blockedPage : Config := ⟨"schema.json", [⟨"doc", "schema.json/%s"⟩], none, .standard⟩

theorem standard_catalog_total_of_inconsistent :
    inconsistent.validate ≠ .ok () ∧
      (∃ text, standard.renderType (.ofSchema inconsistent .standard) "doc" "Twin" = .ok text) ∧
      (∃ text, standard.renderSchema (.ofSchema inconsistent .standard) "registry" = .ok text) ∧
      PlainFault Generation.onlySchema blockedPage (.write "schema.json" .alreadyExists) := by
  obtain ⟨names, all, -, runs⟩ := standard_catalog_total inconsistent .standard
  have failed : (run Generation.onlySchema blockedPage).2 = .error (.write "schema.json" .alreadyExists) := by
    decide +kernel
  refine ⟨by decide +kernel, ?_, ?_, (runs _ _ _ rfl failed).1⟩
  · rcases all "doc" (by simp [names]) with ⟨-, texts⟩ | ⟨whole, -⟩
    · exact texts inconsistent.types[0] (List.getElem_mem _)
    · cases whole
  · rcases all "registry" (by simp [names]) with ⟨single, -⟩ | ⟨-, rendered⟩
    · cases single
    · exact rendered

/-- What the per-type templates make of a type is the same in every consistent schema that declares the type:
other types, their order, primitives and the root do not show in it. -/
theorem type_texts_independent (first second : Schema) (options : Cpp.Options) (type : TypeDecl)
    (acceptedFirst : first.validate = .ok ()) (acceptedSecond : second.validate = .ok ())
    (inFirst : type ∈ first.types) (inSecond : type ∈ second.types) :
    ∃ catalog, ofTexts = .ok catalog ∧
      ∀ template ∈ ["header", "inline_header", "source", "dispatch", "doc"], ∃ text,
        standard.renderType (.ofSchema first options) template type.name = .ok text ∧
        standard.renderType (.ofSchema second options) template type.name = .ok text ∧
        catalog.renderType (.ofSchema first options) template type.name = .ok text ∧
        catalog.renderType (.ofSchema second options) template type.name = .ok text := by
  obtain ⟨catalog, made, alike⟩ := ofTexts_alike
  refine ⟨catalog, made, fun template known => ?_⟩
  obtain ⟨⟨name, text⟩, mem, rfl⟩ := List.mem_map.1 (show template ∈ typeTexts.map (·.1) from known)
  have rendered {schema : Schema} (accepted : schema.validate = .ok ()) (declared : type ∈ schema.types) :
      standard.renderType (.ofSchema schema options) name type.name = .ok (text type.resolve options) :=
    @renderType_standard (.ofSchema schema options) _ _ _ _ mem
      ((Schema.validate_ok.1 accepted).getType?_resolve declared)
  have one := rendered acceptedFirst inFirst
  have other := rendered acceptedSecond inSecond
  exact ⟨_, one, other, alike.renderType_ok one, alike.renderType_ok other⟩

def leaf : TypeDecl :=
  ⟨"Leaf", "A leaf.", [⟨"size", "", "Int", false, false, [⟨"unit", "", 0, "Int", true, none, none⟩]⟩]⟩

/-- A leaf by itself. -/
def leafAlone : Schema := .ofDeclarations "Leaf" [⟨"Int", ""⟩] [leaf]

/-- A leaf after another type, with another root and other primitives. -/
def leafOfTree : Schema :=
  .ofDeclarations "Tree" [⟨"Real", ""⟩, ⟨"Int", "A number."⟩]
    [⟨"Tree", "A tree.", [⟨"leaves", "", "Leaf", true, false, []⟩]⟩, leaf]

theorem type_texts_independent_of_leaf :
    leafAlone.validate = .ok () ∧ leafOfTree.validate = .ok () ∧ leafAlone ≠ leafOfTree ∧
      ∃ text, standard.renderType (.ofSchema leafAlone .standard) "doc" "Leaf" = .ok text ∧
        standard.renderType (.ofSchema leafOfTree .standard) "doc" "Leaf" = .ok text := by
  have alone : leafAlone.validate = .ok () := by decide +kernel
  have ofTree : leafOfTree.validate = .ok () := by decide +kernel
  obtain ⟨_, _, same⟩ := type_texts_independent leafAlone leafOfTree .standard leaf alone ofTree
    (List.mem_singleton_self leaf) (List.mem_cons_of_mem _ (List.mem_singleton_self leaf))
  obtain ⟨text, one, other, -⟩ := same "doc" (by decide)
  exact ⟨alone, ofTree, by decide +kernel, text, one, other⟩

end Catalog

end FieldTypes
