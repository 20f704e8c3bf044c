import FieldTypes.Proofs.CatalogHistory
import FieldTypes.Proofs.TemplateText

set_option autoImplicit false

namespace FieldTypes.Template

namespace Node

/-- Puts a node in front of others; a text goes into the text that follows it. -/
def prepend : Node → List Node → List Node
  | .text first, .text second :: rest => .text (first ++ second) :: rest
  | first, rest => first :: rest

mutual

/-- A node with each run of texts in it made one text. -/
def joined : Node → Node
  | .text words => .text words
  | .value position operand => .value position operand
  | .block position helper arguments named params body otherwise =>
    .block position helper arguments named params (joinedAll body) (joinedOptional otherwise)
  | .inclusion position name arguments named indent body =>
    .inclusion position name arguments named indent body
  | .decorator position name arguments named body => .decorator position name arguments named body

def joinedAll : List Node → List Node
  | [] => []
  | first :: rest => prepend (joined first) (joinedAll rest)

def joinedOptional : Option (List Node) → Option (List Node)
  | none => none
  | some otherwise => some (joinedAll otherwise)

end

end Node

namespace Render

open Node

theorem nodes_prepend (root : Json) (scopes : List Scope) (first : Node) (rest : List Node) :
    nodes root scopes (prepend first rest) = nodes root scopes (first :: rest) := by
  unfold prepend
  split
  case h_2 => rfl
  case h_1 first second rest =>
    simp only [nodes, node, bind, Except.bind]
    cases nodes root scopes rest with
    | error fault => rfl
    | ok text => simp only [String.append_assoc]

mutual

theorem node_joined (root : Json) : ∀ (single : Node) (scopes : List Scope),
    node root scopes single.joined = node root scopes single
  | .text _, _ => rfl
  | .value .., _ => rfl
  | .inclusion .., _ => rfl
  | .decorator .., _ => rfl
  | .block position helper arguments named params body otherwise, scopes => by
    have bodies := nodes_joinedAll root body
    have others := optional_joinedOptional root otherwise
    have orElse_joined (scopes : List Scope) (failure : RenderFailure) :
        orElse root scopes failure (joinedOptional otherwise) = orElse root scopes failure otherwise := by
      cases otherwise with
      | none => rfl
      | some otherwise => exact others scopes
    simp only [joined, node, bodies, others, orElse_joined]

theorem nodes_joinedAll (root : Json) : ∀ (list : List Node) (scopes : List Scope),
    nodes root scopes (joinedAll list) = nodes root scopes list
  | [], _ => rfl
  | first :: rest, scopes => by
    rw [joinedAll, nodes_prepend, nodes, nodes, node_joined root first, nodes_joinedAll root rest]

theorem optional_joinedOptional (root : Json) : ∀ (otherwise : Option (List Node)) (scopes : List Scope),
    optional root scopes (joinedOptional otherwise) = optional root scopes otherwise
  | none, _ => rfl
  | some otherwise, scopes => nodes_joinedAll root otherwise scopes

end

end Render

/-- Nodes print whatever other nodes print, whatever can be included in both. -/
def Prints (first second : List Node) : Prop :=
  ∀ library other name data text, render other name second data = .ok text →
    render library name first data = .ok text

theorem prints_of_nodes {first second : List Node} (plain : Node.allPlain second = true)
    (prints : ∀ data text, Render.nodes data [⟨data, [], []⟩] second = .ok text →
      ∀ library name, render library name first data = .ok text) : Prints first second := by
  intro library other name data text printed
  rw [render_eq_of_plain plain] at printed
  exact prints data text (mapError_eq_ok.1 printed) library name

theorem prints_of_alike {first second : List Node} (plain : Node.allPlain second = true)
    (alike : Node.allAlike first second = true) : Prints first second :=
  prints_of_nodes plain fun _ _ printed => render_ok_of_alike alike printed

theorem prints_of_alike_joined {first second : List Node} (plain : Node.allPlain second = true)
    (alike : Node.allAlike first (Node.joinedAll second) = true) : Prints first second := by
  apply prints_of_nodes plain
  intro data text printed
  rw [← Render.nodes_joinedAll] at printed
  exact render_ok_of_alike alike printed

end FieldTypes.Template

namespace FieldTypes.Catalog

namespace BuiltinTemplate

open Template

def docText : String :=
  "# \x7b\x7btype.name\x7d\x7d
\x7b\x7b#if type.doc_lines\x7d\x7d

\x7b\x7b#each type.doc_lines\x7d\x7d
\x7b\x7bthis\x7d\x7d
\x7b\x7b/each\x7d\x7d
\x7b\x7b/if\x7d\x7d
\x7b\x7b#each type.fields\x7d\x7d

\x23# `\x7b\x7bname\x7d\x7d`

Returns \x7b\x7b#if return_list\x7d\x7da list of \x7b\x7b/if\x7d\x7d`\x7b\x7breturn_type\x7d\x7d`\x7b\x7b#if nullable\x7d\x7d, possibly null\x7b\x7b/if\x7d\x7d.
\x7b\x7b#each doc_lines\x7d\x7d
\x7b\x7bthis\x7d\x7d
\x7b\x7b/each\x7d\x7d
\x7b\x7b#if params\x7d\x7d

| Param | Index | Type | Required | Default |
|-------|-------|------|----------|---------|
\x7b\x7b#each params\x7d\x7d
| `\x7b\x7bname\x7d\x7d` | \x7b\x7bindex\x7d\x7d | `\x7b\x7btype_name\x7d\x7d` | \x7b\x7b#if required\x7d\x7dyes\x7b\x7belse\x7d\x7dno\x7b\x7b/if\x7d\x7d | \x7b\x7b#if default_value_doc\x7d\x7d\x7b\x7bdefault_value_doc\x7d\x7d\x7b\x7b/if\x7d\x7d |
\x7b\x7b/each\x7d\x7d
\x7b\x7b/if\x7d\x7d
\x7b\x7b/each\x7d\x7d
"

def registryText : String :=
  "\x23ifndef \x7b\x7bcpp.guard_prefix\x7d\x7d_FIELD_REGISTRY_
\x23define \x7b\x7bcpp.guard_prefix\x7d\x7d_FIELD_REGISTRY_

\x7b\x7b#each headers\x7d\x7d
\x23include \"\x7b\x7bthis\x7d\x7d\"
\x7b\x7b/each\x7d\x7d

\x23include <string_view>\n\nnamespace \x7b\x7bcpp.namespace\x7d\x7d \x7b

inline constexpr std::string_view ROOT_TYPE = \"\x7b\x7broot_type\x7d\x7d\";

inline constexpr std::string_view TYPE_NAMES[] = \x7b
\x7b\x7b#each types\x7d\x7d
    \"\x7b\x7bname\x7d\x7d\",
\x7b\x7b/each\x7d\x7d
\x7d;

\x7d // namespace \x7b\x7bcpp.namespace\x7d\x7d

\x23endif // \x7b\x7bcpp.guard_prefix\x7d\x7d_FIELD_REGISTRY_
"

set_option maxRecDepth 100000 in
theorem isReadAs_doc : isReadAs (read docText) (Node.joinedAll doc) = true := by
  rw [@read_of_characters docText _ (by unfold docText; rfl)]
  decide +kernel

set_option maxRecDepth 100000 in
theorem isReadAs_registry : isReadAs (read registryText) registry = true := by
  rw [@read_of_characters registryText _ (by unfold registryText; rfl)]
  decide +kernel

end BuiltinTemplate

def programs : Catalog :=
  empty.registerBuiltin "header" .header
    |>.registerBuiltin "inline_header" .inlineHeader
    |>.registerBuiltin "source" .source
    |>.registerBuiltin "schema_json" .schemaJson

/-- The standard catalog, with its templates read from their texts. -/
def ofTexts : Except Generation.Error Catalog := do
  let catalog ← programs.registerTemplate "dispatch" BuiltinTemplate.dispatchText .type
  let catalog ← catalog.registerTemplate "doc" BuiltinTemplate.docText .type
  catalog.registerTemplate "registry" BuiltinTemplate.registryText .schema

open BuiltinTemplate (alike_of_isReadAs isReadAs_dispatch isReadAs_doc isReadAs_registry)

inductive Entry.Alike : Entry → Entry → Prop
  | program (strategy : Strategy) : Alike (.program strategy) (.program strategy)
  | template (scope : Scope) {first second : List Template.Node}
      (prints : Template.Prints first second) :
      Alike (.template scope first) (.template scope second)

def Alike (first second : Catalog) : Prop :=
  ∀ name, Option.Rel Entry.Alike (first.entries.lookup name) (second.entries.lookup name)

theorem Entry.Alike.scope_eq {first second : Entry} (alike : first.Alike second) : first.scope = second.scope := by
  cases alike <;> rfl

namespace Alike

variable {first second : Catalog} {context : Context} {template name text : String}

theorem put (alike : Alike first second) (name : String) {entry other : Entry} (same : entry.Alike other) :
    Alike (first.put name entry) (second.put name other) := by
  intro asked
  rw [put_entries, put_entries, lookup_insert, lookup_insert]
  split
  · exact .some same
  · exact alike asked

theorem mem_names_iff (alike : Alike first second) : name ∈ first.names ↔ name ∈ second.names := by
  have same := alike name
  rw [Catalog.mem_names_iff, Catalog.mem_names_iff]
  generalize first.entries.lookup name = entry at same
  generalize second.entries.lookup name = other at same
  cases same <;> simp

theorem scope_eq (alike : Alike first second) (name : String) : first.scope name = second.scope name := by
  have same := alike name
  rw [Catalog.scope, Catalog.scope, Catalog.entry, Catalog.entry]
  generalize first.entries.lookup name = entry at same
  generalize second.entries.lookup name = other at same
  cases same with
  | none => rfl
  | some same => exact congrArg Except.ok same.scope_eq

/-- A text that one catalog renders is the text that the other one renders. -/
theorem render_ok (alike : Alike first second) (rendered : second.render template context = .ok text) :
    first.render template context = .ok text := by
  have same := alike template
  have shows := shows_lookup first template
  have showsOther := shows_lookup second template
  generalize first.entries.lookup template = entry at same shows
  generalize second.entries.lookup template = other at same showsOther
  cases same with
  | none =>
    rw [showsOther.2] at rendered
    cases rendered
  | some same =>
    cases same with
    | program strategy =>
      rw [showsOther.2] at rendered
      rw [shows.2, rendered]
    | template scope prints =>
      rw [showsOther.2] at rendered
      rw [shows.2, prints _ _ _ _ _ (mapError_eq_ok.1 rendered)]
      rfl

theorem renderType_ok (alike : Alike first second)
    (rendered : second.renderType context template name = .ok text) :
    first.renderType context template name = .ok text := by
  unfold renderType at rendered ⊢
  obtain ⟨scope, known, rest⟩ := bind_eq_ok.1 rendered
  refine bind_eq_ok.2 ⟨scope, (alike.scope_eq template).trans known, ?_⟩
  cases scope with
  | schema => cases rest
  | type =>
    dsimp only at rest ⊢
    split at rest
    · cases rest
    · exact alike.render_ok rest

theorem renderSchema_ok (alike : Alike first second)
    (rendered : second.renderSchema context template = .ok text) :
    first.renderSchema context template = .ok text := by
  unfold renderSchema at rendered ⊢
  obtain ⟨scope, known, rest⟩ := bind_eq_ok.1 rendered
  refine bind_eq_ok.2 ⟨scope, (alike.scope_eq template).trans known, ?_⟩
  cases scope with
  | type => cases rest
  | schema => exact alike.render_ok rest

end Alike

theorem registerTemplate_alike {first second : Catalog} (alike : Alike first second) (name : String)
    {text : String} (scope : Scope) {found nodes : List Template.Node} (read : Template.read text = .ok found)
    (prints : Template.Prints found nodes) :
    ∃ after, first.registerTemplate name text scope = .ok after ∧
      Alike after (second.put name (.template scope nodes)) := by
  refine ⟨first.put name (.template scope found), ?_, alike.put name (.template scope prints)⟩
  unfold registerTemplate
  rw [read]

theorem ofTexts_alike : ∃ catalog, ofTexts = .ok catalog ∧ Alike catalog standard := by
  have start : Alike empty empty := fun _ => .none
  have programs : Alike programs programs := start.put "header" (.program Builtin.header.strategy)
    |>.put "inline_header" (.program Builtin.inlineHeader.strategy)
    |>.put "source" (.program Builtin.source.strategy)
    |>.put "schema_json" (.program Builtin.schemaJson.strategy)
  obtain ⟨_, readDispatch, dispatch⟩ := alike_of_isReadAs isReadAs_dispatch
  obtain ⟨_, readDoc, doc⟩ := alike_of_isReadAs isReadAs_doc
  obtain ⟨_, readRegistry, registry⟩ := alike_of_isReadAs isReadAs_registry
  obtain ⟨withDispatch, first, alike⟩ :=
    registerTemplate_alike programs "dispatch" .type readDispatch (Template.prints_of_alike rfl dispatch)
  obtain ⟨withDoc, second, alike⟩ :=
    registerTemplate_alike alike "doc" .type readDoc (Template.prints_of_alike_joined rfl doc)
  obtain ⟨catalog, third, alike⟩ :=
    registerTemplate_alike alike "registry" .schema readRegistry (Template.prints_of_alike rfl registry)
  refine ⟨catalog, ?_, alike⟩
  unfold ofTexts
  rw [bind_eq_ok]
  refine ⟨withDispatch, first, ?_⟩
  rw [bind_eq_ok]
  exact ⟨withDoc, second, third⟩

end FieldTypes.Catalog
