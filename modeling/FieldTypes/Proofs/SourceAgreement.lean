import FieldTypes.Proofs.Consistency
import FieldTypes.Proofs.DispatchTemplate
import FieldTypes.Proofs.StandardCatalog
import FieldTypes.Proofs.TemplateText

set_option autoImplicit false

namespace FieldTypes.Catalog

open BuiltinTemplate (dispatchText)

variable {schema : Schema} {type : TypeDecl}

theorem render_source (sound : schema.Sound) (declared : type ∈ schema.types) (options : Cpp.Options) :
    standard.renderType (.ofSchema schema options) "source" type.name =
      .ok (Cpp.MemberDefinitions.text type.resolve options) := by
  have found : standard.entries.lookup "source" = some (.builtin .source) := by
    rw [lookup_standard]
    rfl
  rw [renderType_program found rfl (sound.getType?_resolve declared)]
  rfl

/-- The template prints the same source, whatever other templates there are. -/
theorem render_dispatch_of_declared (type : TypeDecl) (context : Context) (library : Template.Library)
    (name : String) :
    Template.render library name BuiltinTemplate.dispatch (context.withTarget type.resolve).data =
      .ok (Cpp.MemberDefinitions.text type.resolve context.options) :=
  BuiltinTemplate.render_dispatch context type.resolve (BuiltinTemplate.usesParams_ofType type).symm library name

/-- For every type of an accepted schema, the source that the program writes and the source that the
template prints are one text. It is the text of that very type, and the template may as well be the one
that is read from its text. -/
theorem source_eq_dispatch (schema : Schema) (options : Cpp.Options) (accepted : schema.validate = .ok ()) :
    ∃ nodes, Template.read dispatchText = .ok nodes ∧
      ∀ type ∈ schema.types, ∃ text,
        standard.renderType (.ofSchema schema options) "source" type.name = .ok text ∧
        standard.renderType (.ofSchema schema options) "dispatch" type.name = .ok text ∧
        (∀ library name,
          Template.render library name nodes ((Context.ofSchema schema options).withTarget type.resolve).data =
            .ok text) ∧
        text = Cpp.MemberDefinitions.text type.resolve options := by
  have sound := Schema.validate_ok.1 accepted
  obtain ⟨nodes, read, alike⟩ := BuiltinTemplate.alike_of_isReadAs BuiltinTemplate.isReadAs_dispatch
  refine ⟨nodes, read, ?_⟩
  intro type declared
  have found : standard.entries.lookup "dispatch" = some (.template .type BuiltinTemplate.dispatch) := by
    rw [lookup_standard]
    rfl
  have printed := BuiltinTemplate.nodes_dispatch ((Context.ofSchema schema options).withTarget type.resolve).data
    (.ofSchema schema options) type.resolve (BuiltinTemplate.usesParams_ofType type).symm
  refine ⟨_, render_source sound declared options, ?_, ?_, rfl⟩
  · exact renderType_template found (sound.getType?_resolve declared)
      (render_dispatch_of_declared type (.ofSchema schema options) standard.library "dispatch")
  · exact Template.render_ok_of_alike alike printed

/-- A type with a field that takes two params, and a type without fields. -/
def treeWithLeaves : Schema :=
  .ofDeclarations "Tree" [⟨"Int", ""⟩]
    [ ⟨"Tree", "", [⟨"child", "", "Leaf", false, true,
        [⟨"depth", "", 0, "Int", true, none, none⟩, ⟨"width", "", 1, "Int", false, none, none⟩]⟩]⟩
    , ⟨"Leaf", "", []⟩ ]

theorem source_eq_dispatch_of_two_types :
    treeWithLeaves.validate = .ok () ∧
      (∃ text, standard.renderType (.ofSchema treeWithLeaves .standard) "source" "Tree" = .ok text ∧
        standard.renderType (.ofSchema treeWithLeaves .standard) "dispatch" "Tree" = .ok text) ∧
      ∃ text, standard.renderType (.ofSchema treeWithLeaves .standard) "source" "Leaf" = .ok text ∧
        standard.renderType (.ofSchema treeWithLeaves .standard) "dispatch" "Leaf" = .ok text := by
  have accepted : treeWithLeaves.validate = .ok () := by decide +kernel
  obtain ⟨_, _, agree⟩ := source_eq_dispatch treeWithLeaves .standard accepted
  obtain ⟨tree, programTree, templateTree, _⟩ := agree treeWithLeaves.types[0] (List.getElem_mem _)
  obtain ⟨leaf, programLeaf, templateLeaf, _⟩ := agree treeWithLeaves.types[1] (List.getElem_mem _)
  exact ⟨accepted, ⟨tree, programTree, templateTree⟩, leaf, programLeaf, templateLeaf⟩

end FieldTypes.Catalog
