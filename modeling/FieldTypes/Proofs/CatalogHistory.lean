import FieldTypes.Catalog.Tables
import FieldTypes.Proofs.ByteOrder
import FieldTypes.Proofs.Results
import FieldTypes.Proofs.StandardCatalog

set_option autoImplicit false

namespace FieldTypes.Catalog

open Generation (TemplateFile TemplateDirectory)

inductive Change where
  | strategy (name : String) (strategy : Strategy)
  | template (name text : String) (scope : Scope)
  | directory (directory : TemplateDirectory)

/-- Makes a change; gives the catalog after that, also of a change that fails. -/
def apply (catalog : Catalog) : Change → Catalog × Except Generation.Error Unit
  | .strategy name strategy => (catalog.registerStrategy name strategy, .ok ())
  | .template name text scope =>
    match catalog.registerTemplate name text scope with
    | .ok catalog => (catalog, .ok ())
    | .error error => (catalog, .error error)
  | .directory directory =>
    let (catalog, result) := directory.load catalog
    (catalog, result.map fun _ => ())

def Tables.apply (tables : Tables) : Change → Tables × Except Generation.Error Unit
  | .strategy name strategy => (tables.registerStrategy name strategy, .ok ())
  | .template name text scope => tables.registerTemplate name text scope
  | .directory directory =>
    let (tables, result) := Tables.load directory tables
    (tables, result.map fun _ => ())

/-- What a history of changes starts with. -/
inductive Origin where
  | empty
  | standard
  deriving DecidableEq, Repr

def Origin.catalog : Origin → Catalog
  | .empty => .empty
  | .standard => .standard

def Origin.tables : Origin → Tables
  | .empty => .empty
  | .standard => .standard

def Origin.registrations : Origin → List (String × Entry)
  | .empty => []
  | .standard =>
    [ ("header", .builtin .header), ("inline_header", .builtin .inlineHeader)
    , ("source", .builtin .source), ("schema_json", .builtin .schemaJson)
    , ("dispatch", .template .type BuiltinTemplate.dispatch), ("doc", .template .type BuiltinTemplate.doc)
    , ("registry", .template .schema BuiltinTemplate.registry) ]

def after (origin : Origin) (history : List Change) : Catalog :=
  history.foldl (fun catalog change => (catalog.apply change).1) origin.catalog

def Tables.after (origin : Origin) (history : List Change) : Tables :=
  history.foldl (fun tables change => (tables.apply change).1) origin.tables

/-- The entry of a text under a scope; none if the text is no template. -/
@[irreducible] def templateOf? (text : String) (scope : Scope) : Option Entry :=
  match Template.read text with
  | .ok nodes => some (.template scope nodes)
  | .error _ => none

/-- What a file registers under a name; nothing if it cannot be read or is no template. -/
def entryOf? (file : TemplateFile) (scope : Scope) : Option Entry :=
  match file.text with
  | .error _ => none
  | .ok text => templateOf? text scope

theorem nodes?_ne_none_of_templateOf? {text : String} {scope : Scope} {entry : Entry}
    (found : templateOf? text scope = some entry) : entry.nodes? ≠ none := by
  unfold templateOf? at found
  split at found
  · cases found
    exact nofun
  · cases found

theorem nodes?_ne_none_of_entryOf? {file : TemplateFile} {scope : Scope} {entry : Entry}
    (found : entryOf? file scope = some entry) : entry.nodes? ≠ none := by
  unfold entryOf? at found
  split at found
  · cases found
  · exact nodes?_ne_none_of_templateOf? found

/-- What files register one after the other, up to the first that fails. -/
def fileRegistrations : List TemplateFile → List (String × Entry)
  | [] => []
  | file :: rest =>
    match TemplateFile.registration? file.name with
    | none => fileRegistrations rest
    | some (name, scope) =>
      match entryOf? file scope with
      | none => []
      | some entry => (name, entry) :: fileRegistrations rest

/-- The registrations that a change makes, in order. -/
def Change.registrations : Change → List (String × Entry)
  | .strategy name program => [(name, .program program)]
  | .template name text scope => (templateOf? text scope).toList.map fun entry => (name, entry)
  | .directory listed =>
    match listed.files with
    | .ok files => fileRegistrations (TemplateDirectory.sort files)
    | .error _ => []

def registrations (origin : Origin) (history : List Change) : List (String × Entry) :=
  origin.registrations ++ history.flatMap Change.registrations

def lastRegistered? (origin : Origin) (history : List Change) (name : String) : Option Entry :=
  (registrations origin history).reverse.lookup name

/-- The templates that were registered last under their names. -/
def lastTemplates (origin : Origin) (history : List Change) : Template.Library := fun name =>
  (lastRegistered? origin history name).bind Entry.nodes?

def putAll (catalog : Catalog) (entries : List (String × Entry)) : Catalog :=
  entries.foldl (fun catalog item => catalog.put item.1 item.2) catalog

@[simp] theorem putAll_append (catalog : Catalog) (first second : List (String × Entry)) :
    catalog.putAll (first ++ second) = (catalog.putAll first).putAll second :=
  List.foldl_append

theorem lookup_putAll (catalog : Catalog) (entries : List (String × Entry)) (name : String) :
    (catalog.putAll entries).entries.lookup name =
      (entries.reverse.lookup name).or (catalog.entries.lookup name) := by
  induction entries generalizing catalog with
  | nil => rfl
  | cons item rest ih =>
    show ((catalog.put item.1 item.2).putAll rest).entries.lookup name = _
    rw [ih, put_entries, lookup_insert, List.reverse_cons, List.lookup_append, Option.or_assoc]
    congr 1
    rw [List.lookup_cons, List.lookup_nil]
    by_cases same : name = item.1
    · rw [if_pos same, same, beq_self_eq_true, Option.some_or]
    · rw [if_neg same, beq_eq_false_iff_ne.2 same, Option.none_or]

theorem lookup_putAll_of_absent {catalog : Catalog} {entries : List (String × Entry)} {name : String}
    (absent : ∀ item ∈ entries, item.1 ≠ name) :
    (catalog.putAll entries).entries.lookup name = catalog.entries.lookup name := by
  have unknown : entries.reverse.lookup name = none := by
    rw [List.lookup_eq_none_iff]
    exact fun item mem => bne_iff_ne.2 (absent item (List.mem_reverse.1 mem)).symm
  rw [lookup_putAll, unknown, Option.none_or]

theorem register_fst (path : String) (catalog : Catalog) (files : List TemplateFile) :
    (TemplateDirectory.register path catalog files).1 = catalog.putAll (fileRegistrations files) := by
  induction files generalizing catalog with
  | nil => rfl
  | cons file rest ih =>
    rw [TemplateDirectory.register_cons, fileRegistrations]
    cases TemplateFile.registration? file.name with
    | none => exact ih catalog
    | some registered =>
      obtain ⟨name, scope⟩ := registered
      dsimp only [entryOf?]
      cases file.text with
      | error cause => rfl
      | ok text =>
        dsimp only [registerTemplate]
        unfold templateOf?
        cases Template.read text with
        | error fault => rfl
        | ok nodes => exact ih _

/-- A change makes its registrations and nothing else. -/
theorem apply_fst (catalog : Catalog) (change : Change) :
    (catalog.apply change).1 = catalog.putAll change.registrations := by
  cases change with
  | strategy name strategy => rfl
  | template name text scope =>
    dsimp only [apply, registerTemplate, Change.registrations]
    unfold templateOf?
    cases Template.read text <;> rfl
  | directory listed =>
    dsimp only [apply, TemplateDirectory.load, Change.registrations]
    cases listed.files with
    | error cause => rfl
    | ok files => exact register_fst _ _ _

theorem after_eq_putAll (origin : Origin) (history : List Change) :
    after origin history = empty.putAll (registrations origin history) := by
  have start : origin.catalog = empty.putAll origin.registrations := by cases origin <;> rfl
  have step (catalog : Catalog) : history.foldl (fun catalog change => (catalog.apply change).1) catalog =
      catalog.putAll (history.flatMap Change.registrations) := by
    induction history generalizing catalog with
    | nil => rfl
    | cons change rest ih => rw [List.foldl_cons, ih, apply_fst, List.flatMap_cons, putAll_append]
  rw [after, step, start, registrations, putAll_append]

theorem lookup_after (origin : Origin) (history : List Change) (name : String) :
    (after origin history).entries.lookup name = lastRegistered? origin history name := by
  rw [after_eq_putAll, lookup_putAll, lastRegistered?]
  exact Option.or_none

/-- The templates that every template can include are those that were registered last. -/
theorem library_after (origin : Origin) (history : List Change) :
    (after origin history).library = lastTemplates origin history := by
  funext name
  rw [library, lookup_after, lastTemplates]

theorem names_ordered (catalog : Catalog) :
    catalog.names.Pairwise fun first second => Text.bytes first < Text.bytes second := by
  rw [names, List.pairwise_map]
  exact catalog.ordered.imp Text.bytes_lt

theorem mem_names_iff {catalog : Catalog} {name : String} :
    name ∈ catalog.names ↔ catalog.entries.lookup name ≠ none := by
  rw [names, List.mem_map, ← Option.isSome_iff_ne_none, List.lookup_isSome_iff]
  refine exists_congr fun item => and_congr_right fun _ => ?_
  rw [beq_iff_eq]
  exact eq_comm

def Entry.kind : Entry → Kind
  | .program strategy => .program strategy
  | .template scope _ => .template scope

/-- The tables hold what the catalog holds, the nodes of its templates apart. -/
structure Tables.Splits (tables : Tables) (catalog : Catalog) : Prop where
  kinds : ∀ name, tables.kinds name = (catalog.entries.lookup name).map Entry.kind
  templates : ∀ name, tables.templates name = (catalog.entries.lookup name).bind Entry.nodes?

namespace Tables

variable {tables : Tables} {catalog : Catalog}

theorem Splits.set (splits : tables.Splits catalog) (name : String) (entry : Entry) :
    Splits ⟨tables.kinds.set name (some entry.kind), tables.templates.set name entry.nodes?⟩
      (catalog.put name entry) := by
  constructor <;> intro other <;> rw [put_entries, lookup_insert] <;> dsimp only [Table.set] <;> split
  · rfl
  · exact splits.kinds other
  · rfl
  · exact splits.templates other

/-- What a change does to the tables and the catalog: both report the same, and the tables still hold
what the catalog holds. -/
structure Agrees (first : Tables × Except Generation.Error Unit)
    (second : Catalog × Except Generation.Error Unit) : Prop where
  splits : first.1.Splits second.1
  outcome : first.2 = second.2

theorem Splits.registerFiles (splits : tables.Splits catalog) (path : String) (files : List TemplateFile) :
    Agrees (Tables.registerFiles path tables files) (TemplateDirectory.register path catalog files) := by
  induction files generalizing tables catalog with
  | nil => exact ⟨splits, rfl⟩
  | cons file rest ih =>
    rw [Tables.registerFiles_cons, TemplateDirectory.register_cons]
    cases TemplateFile.registration? file.name with
    | none => exact ih splits
    | some registered =>
      obtain ⟨name, scope⟩ := registered
      cases file.text with
      | error cause => exact ⟨splits, rfl⟩
      | ok text =>
        dsimp only [Tables.registerTemplate, Catalog.registerTemplate]
        cases Template.read text with
        -- both stop at the same file, with what was registered before it
        | error fault => exact ⟨splits, rfl⟩
        | ok nodes => exact ih (splits.set name (.template scope nodes))

theorem Splits.apply (splits : tables.Splits catalog) (change : Change) :
    Agrees (tables.apply change) (catalog.apply change) := by
  cases change with
  | strategy name strategy => exact ⟨splits.set name (.program strategy), rfl⟩
  | template name text scope =>
    dsimp only [Tables.apply, Catalog.apply, Tables.registerTemplate, Catalog.registerTemplate]
    cases Template.read text with
    | error fault => exact ⟨splits, rfl⟩
    | ok nodes => exact ⟨splits.set name (.template scope nodes), rfl⟩
  | directory listed =>
    dsimp only [Tables.apply, Catalog.apply, Tables.load, TemplateDirectory.load]
    cases listed.files with
    | error cause => exact ⟨splits, rfl⟩
    | ok files =>
      have agrees := splits.registerFiles listed.path (TemplateDirectory.sort files)
      refine ⟨agrees.splits, ?_⟩
      dsimp only
      rw [agrees.outcome]

theorem splits_after (origin : Origin) (history : List Change) :
    (Tables.after origin history).Splits (Catalog.after origin history) := by
  have start : origin.tables.Splits origin.catalog := by
    have empty : Splits .empty .empty := ⟨fun _ => rfl, fun _ => rfl⟩
    cases origin with
    | empty => exact empty
    | standard =>
      exact empty.set "header" (.builtin .header)
        |>.set "inline_header" (.builtin .inlineHeader)
        |>.set "source" (.builtin .source)
        |>.set "schema_json" (.builtin .schemaJson)
        |>.set "dispatch" (.template .type BuiltinTemplate.dispatch)
        |>.set "doc" (.template .type BuiltinTemplate.doc)
        |>.set "registry" (.template .schema BuiltinTemplate.registry)
  unfold Tables.after Catalog.after
  generalize origin.tables = tables at start ⊢
  generalize origin.catalog = catalog at start ⊢
  induction history generalizing tables catalog with
  | nil => exact start
  | cons change rest ih => exact ih _ _ (start.apply change).splits

theorem Splits.inStep (splits : tables.Splits catalog) (name : String) :
    tables.templates name ≠ none ↔ ∃ scope, tables.kinds name = some (.template scope) := by
  rw [splits.templates, splits.kinds]
  cases catalog.entries.lookup name with
  | none => simp
  | some entry => cases entry <;> simp [Entry.kind, Entry.nodes?]

theorem Splits.scope_eq (splits : tables.Splits catalog) (name : String) :
    tables.scope name = catalog.scope name := by
  rw [scope, splits.kinds, Catalog.scope, Catalog.entry]
  cases catalog.entries.lookup name with
  | none => rfl
  | some entry => cases entry <;> rfl

theorem Splits.templates_eq (splits : tables.Splits catalog) : tables.templates = catalog.library := by
  funext name
  rw [splits.templates, library]

/-- The tables render what the catalog renders; in particular, no template is missing. -/
theorem Splits.render_eq (splits : tables.Splits catalog) (name : String) (context : Context) :
    tables.render name context = (catalog.render name context).mapError .reported := by
  rw [render, splits.kinds, splits.templates, splits.templates_eq, Catalog.render, Catalog.entry]
  cases catalog.entries.lookup name with
  | none => rfl
  | some entry =>
    cases entry with
    | program strategy => rfl
    | template scope nodes =>
      dsimp only [Option.map, Option.bind, Entry.kind, Entry.nodes?, bind, Except.bind]
      cases Template.render catalog.library name nodes context.data <;> rfl

end Tables

/-- The scope and the renderings under a name are those of an entry; without one, the name is unknown. A
template is rendered with the templates that it can include. -/
def Shows (catalog : Catalog) (library : Template.Library) (name : String) : Option Entry → Prop
  | none =>
    catalog.scope name = .error (.unknownTemplate name) ∧
      ∀ context, catalog.render name context = .error (.unknownTemplate name)
  | some (.program strategy) =>
    catalog.scope name = .ok strategy.scope ∧
      ∀ context, catalog.render name context = strategy.render context
  | some (.template scope nodes) =>
    catalog.scope name = .ok scope ∧
      ∀ context, catalog.render name context =
        (Template.render library name nodes context.data).mapError fun fault =>
          .render name context.label (.fault fault)

theorem shows_lookup (catalog : Catalog) (name : String) :
    catalog.Shows catalog.library name (catalog.entries.lookup name) := by
  cases found : catalog.entries.lookup name with
  | none =>
    have entry : catalog.entry name = .error (.unknownTemplate name) := by rw [Catalog.entry, found]
    refine ⟨?_, fun context => ?_⟩
    · rw [Catalog.scope, entry]
      rfl
    · rw [Catalog.render, entry]
      rfl
  | some entry =>
    have entered := entry_of_lookup found
    cases entry with
    | program strategy =>
      refine ⟨?_, fun context => ?_⟩
      · rw [Catalog.scope, entered]
        rfl
      · rw [Catalog.render, entered]
        rfl
    | template scope nodes =>
      refine ⟨?_, fun context => ?_⟩
      · rw [Catalog.scope, entered]
        rfl
      · rw [Catalog.render, entered]
        simp only [bind, Except.bind]
        cases Template.render catalog.library name nodes context.data <;> rfl

theorem shows_after (origin : Origin) (history : List Change) (name : String) :
    (after origin history).Shows (lastTemplates origin history) name (lastRegistered? origin history name) := by
  rw [← lookup_after, ← library_after]
  exact shows_lookup _ name

theorem apply_template_of_error {catalog : Catalog} {name text : String} {scope : Scope}
    {error : Generation.Error} (failed : (catalog.apply (.template name text scope)).2 = .error error) :
    (catalog.apply (.template name text scope)).1 = catalog := by
  dsimp only [apply, registerTemplate] at failed ⊢
  cases read : Template.read text with
  | error fault => rfl
  | ok nodes =>
    rw [read] at failed
    cases failed

theorem Tables.registerTemplate_of_error {tables : Tables} {name text : String} {scope : Scope}
    {error : Generation.Error} (failed : (tables.registerTemplate name text scope).2 = .error error) :
    (tables.registerTemplate name text scope).1 = tables := by
  unfold Tables.registerTemplate at failed ⊢
  cases read : Template.read text with
  | error fault => rfl
  | ok nodes =>
    rw [read] at failed
    cases failed

/-- After any history of registrations, whether they succeed or fail, the templates of the two tables are
those of the names that are entered as templates; the names are in increasing order of their bytes; every
name has the scope and the renderings of what was registered last under it, a template with the templates
that were registered last as those that it can include; and no template is missing. A further registration that
fails is reported by both and changes nothing. -/
theorem history_consistent (origin : Origin) (history : List Change) :
    (∀ name, (Tables.after origin history).templates name ≠ none ↔
      ∃ scope, (Tables.after origin history).kinds name = some (.template scope)) ∧
    ((after origin history).names.Pairwise fun first second => Text.bytes first < Text.bytes second) ∧
    (∀ name, name ∈ (after origin history).names ↔ (Tables.after origin history).kinds name ≠ none) ∧
    (∀ name, (after origin history).Shows (lastTemplates origin history) name
      (lastRegistered? origin history name)) ∧
    (∀ name, (Tables.after origin history).scope name = (after origin history).scope name ∧
      ∀ context, (Tables.after origin history).render name context =
        ((after origin history).render name context).mapError .reported ∧
        ∀ other, (Tables.after origin history).render name context ≠ .error (.missing other)) ∧
    (∀ change, ((Tables.after origin history).apply change).2 = ((after origin history).apply change).2) ∧
    ∀ name text scope error,
      ((after origin history).apply (.template name text scope)).2 = .error error →
        ((after origin history).apply (.template name text scope)).1 = after origin history ∧
          ((Tables.after origin history).apply (.template name text scope)).1 =
            Tables.after origin history := by
  have splits := Tables.splits_after origin history
  refine ⟨splits.inStep, names_ordered _, ?_, shows_after origin history, ?_, ?_, ?_⟩
  · intro name
    rw [mem_names_iff, splits.kinds, ne_eq, ne_eq, Option.map_eq_none_iff]
  · intro name
    refine ⟨splits.scope_eq name, fun context => ?_⟩
    have rendered := splits.render_eq name context
    refine ⟨rendered, fun other missing => ?_⟩
    rw [rendered] at missing
    cases result : (after origin history).render name context with
    | error error =>
      rw [result] at missing
      cases missing
    | ok text =>
      rw [result] at missing
      cases missing
  · intro change
    exact (splits.apply change).outcome
  · intro name text scope error failed
    refine ⟨apply_template_of_error failed, ?_⟩
    rw [← (splits.apply (.template name text scope)).outcome] at failed
    exact Tables.registerTemplate_of_error failed

/-- A template that includes a part, which is then replaced. -/
def inclusions : List Change :=
  [.template "page" "[\x7b\x7b> part\x7d\x7d]" .schema, .template "part" "old" .schema,
    .template "part" "new" .type]

/-- The part that was registered last is put in. -/
example : (after .empty inclusions).render "page" (.ofSchema (.ofDeclarations "Tree" [] []) .standard) =
    .ok "[new]" := by decide +kernel

/-- Changes of the standard catalog: a text that ends inside a tag, a program in the place of a template,
and a template in the place of a program. -/
def replacements : List Change :=
  [.template "source" "\x7b\x7b" .schema, .strategy "doc" Builtin.schemaJson.strategy,
    .template "header" "plain" .schema]

theorem registrations_replacements : ∃ nodes, registrations .standard replacements =
    Origin.standard.registrations ++
      [("doc", .builtin .schemaJson), ("header", .template .schema nodes)] := by
  have refused : (templateOf? "\x7b\x7b" .schema).isNone = true := by decide +kernel
  have accepted : (Template.read "plain").isOk = true := by decide +kernel
  rw [Option.isNone_iff_eq_none] at refused
  obtain ⟨nodes, read⟩ : ∃ nodes, Template.read "plain" = .ok nodes := by
    cases read : Template.read "plain" with
    | error fault =>
      rw [read] at accepted
      cases accepted
    | ok nodes => exact ⟨nodes, rfl⟩
  have plain : templateOf? "plain" .schema = some (.template .schema nodes) := by
    unfold templateOf?
    rw [read]
  refine ⟨nodes, ?_⟩
  simp only [registrations, replacements, List.flatMap_cons, List.flatMap_nil, Change.registrations,
    refused, plain]
  rfl

/-- The text that is no template leaves the program in its place. -/
theorem history_consistent_of_replacements :
    (∃ error, ((after .standard []).apply (.template "source" "\x7b\x7b" .schema)).2 = .error error) ∧
      ((after .standard []).apply (.template "source" "\x7b\x7b" .schema)).1 = after .standard [] ∧
      (after .standard replacements).scope "source" = .ok .type ∧
      (after .standard replacements).scope "header" = .ok .schema ∧
      ∀ context, (Tables.after .standard replacements).render "doc" context =
        .ok (context.schema.toJson.indented ++ "\n") := by
  obtain ⟨nodes, made⟩ := registrations_replacements
  obtain ⟨-, -, -, -, -, -, unchanged⟩ := history_consistent .standard []
  obtain ⟨-, -, -, shows, sameShown, -⟩ := history_consistent .standard replacements
  obtain ⟨error, failed⟩ : ∃ error,
      ((after .standard []).apply (.template "source" "\x7b\x7b" .schema)).2 = .error error := by
    have refused : (Template.read "\x7b\x7b").isOk = false := by decide +kernel
    dsimp only [apply, registerTemplate]
    cases read : Template.read "\x7b\x7b" with
    | error fault => exact ⟨_, rfl⟩
    | ok nodes =>
      rw [read] at refused
      cases refused
  have last (name : String) (entry : Option Entry)
      (found : (Origin.standard.registrations ++
        [("doc", Entry.builtin .schemaJson), ("header", .template .schema nodes)]).reverse.lookup name =
          entry) : (after .standard replacements).Shows (lastTemplates .standard replacements) name entry := by
    rw [← found, ← made]
    exact shows name
  have source := last "source" (some (.builtin .source)) rfl
  have doc := last "doc" (some (.builtin .schemaJson)) rfl
  have header := last "header" (some (.template .schema nodes)) rfl
  refine ⟨⟨error, failed⟩, (unchanged _ _ _ _ failed).1, source.1, header.1, fun context => ?_⟩
  rw [((sameShown "doc").2 context).1, doc.2 context]
  rfl

end FieldTypes.Catalog
