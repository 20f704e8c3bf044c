import FieldTypes.Catalog.Emission

set_option autoImplicit false

namespace FieldTypes.Catalog

theorem lookup_standard (name : String) :
    standard.entries.lookup name =
      if name = "registry" then some (.template .schema BuiltinTemplate.registry)
      else if name = "doc" then some (.template .type BuiltinTemplate.doc)
      else if name = "dispatch" then some (.template .type BuiltinTemplate.dispatch)
      else if name = "schema_json" then some (.builtin .schemaJson)
      else if name = "source" then some (.builtin .source)
      else if name = "inline_header" then some (.builtin .inlineHeader)
      else if name = "header" then some (.builtin .header)
      else none := by
  simp only [standard, registerBuiltin, registerStrategy, put_entries, lookup_insert, empty, List.lookup_nil]
  rfl

theorem names_standard :
    standard.names = ["dispatch", "doc", "header", "inline_header", "registry", "schema_json", "source"] := by
  decide +kernel

theorem entry_of_lookup {catalog : Catalog} {name : String} {entry : Entry}
    (found : catalog.entries.lookup name = some entry) : catalog.entry name = .ok entry := by
  rw [Catalog.entry, found]

variable {catalog : Catalog} {context : Context} {template name : String}

theorem renderSchema_program {strategy : Strategy}
    (found : catalog.entries.lookup template = some (.program strategy)) (whole : strategy.scope = .schema) :
    catalog.renderSchema context template = strategy.render context := by
  have entry := entry_of_lookup found
  have scope : catalog.scope template = .ok .schema := by
    rw [Catalog.scope, entry, ← whole]
    rfl
  rw [renderSchema, scope]
  show catalog.render template context = _
  rw [Catalog.render, entry]
  rfl

theorem renderType_program {strategy : Strategy} {type : ResolvedType}
    (found : catalog.entries.lookup template = some (.program strategy)) (single : strategy.scope = .type)
    (declared : context.resolved.getType? name = some type) :
    catalog.renderType context template name = strategy.render (context.withTarget type) := by
  have entry := entry_of_lookup found
  have scope : catalog.scope template = .ok .type := by
    rw [Catalog.scope, entry, ← single]
    rfl
  simp only [renderType, scope, declared, bind, Except.bind]
  rw [Catalog.render, entry]
  rfl

theorem renderType_template {nodes : List Template.Node} {type : ResolvedType} {text : String}
    (found : catalog.entries.lookup template = some (.template .type nodes))
    (declared : context.resolved.getType? name = some type)
    (rendered : Template.render catalog.library template nodes (context.withTarget type).data = .ok text) :
    catalog.renderType context template name = .ok text := by
  have entry := entry_of_lookup found
  have scope : catalog.scope template = .ok .type := by
    rw [Catalog.scope, entry]
    rfl
  simp only [renderType, scope, declared, bind, Except.bind]
  simp only [Catalog.render, entry, rendered, bind, Except.bind]

theorem renderSchema_template {nodes : List Template.Node} {text : String}
    (found : catalog.entries.lookup template = some (.template .schema nodes))
    (rendered : Template.render catalog.library template nodes context.data = .ok text) :
    catalog.renderSchema context template = .ok text := by
  have entry := entry_of_lookup found
  have scope : catalog.scope template = .ok .schema := by
    rw [Catalog.scope, entry]
    rfl
  simp only [renderSchema, scope, bind, Except.bind]
  simp only [Catalog.render, entry, rendered, bind, Except.bind]

end FieldTypes.Catalog
