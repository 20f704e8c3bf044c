import FieldTypes.Catalog.Builtin
import FieldTypes.Proofs.Rendering
import FieldTypes.Proofs.SourceText

set_option autoImplicit false

namespace FieldTypes.Catalog.BuiltinTemplate

open Template Template.Render
open Dispatch
open Cpp.MemberDefinitions (branchText cascadeText sourceText unusedMark)

theorem display_natural (value : Nat) : display (.natural value) = toString value := by
  rw [Nat.toString_eq_ofList_toDigits]
  rfl

theorem display_string (text : String) : display (.string text) = text := by
  rw [display]

section Nodes

variable {scopes : List Template.Scope} {value : Json} {bindings : List (String × Json)}

theorem node_put (root : Json) (name : String) (keys : List String) {result : Json}
    (unnamed : Unnamed (⟨value, bindings, []⟩ :: scopes))
    (leads : descend value (name :: keys) = .ok (some result)) :
    node root (⟨value, bindings, []⟩ :: scopes) (put (name :: keys)) = .ok (display result) :=
  node_value_ok (by rw [find?_ofKeys unnamed, leads])

theorem node_each_keys (root : Json) (name : String) (keys : List String) (body : List Node) {items : List Json}
    (unnamed : Unnamed (⟨value, bindings, []⟩ :: scopes))
    (leads : descend value (name :: keys) = .ok (some (.array items))) :
    node root (⟨value, bindings, []⟩ :: scopes) (each (name :: keys) body) =
      repeated (fun scope => nodes root (scope :: ⟨value, bindings, []⟩ :: scopes) body)
        (itemScopes [] (items.length - 1) 0 items) :=
  node_each (by rw [find?_ofKeys unnamed, leads])

theorem node_whenNot_text {root : Json} {path : Path} {holds : Bool} (text : String)
    (found : find? root scopes path = .ok (some (.bool holds))) :
    node root scopes (whenNot (.path path) [.text text]) = .ok (if holds then "" else text) := by
  have shown : nodes root scopes [.text text] = .ok text := by
    rw [nodes_singleton, node]
  rw [whenNot, block, node_choose false none found, shown]
  cases holds <;> rfl

end Nodes

theorem nodes_argument {root : Json} {scopes : List Template.Scope} (unnamed : Unnamed scopes)
    (argument : Dispatch.Argument)
    (bindings : List (String × Json)) (last : Bool)
    (bound : bindings.lookup "last" = some (.bool last)) :
    nodes root (⟨argument.toJson, bindings, []⟩ :: scopes) BuiltinTemplate.argument =
      .ok (argument.expression ++ if last then "" else ", ") := by
  have inner : Unnamed (⟨argument.toJson, bindings, []⟩ :: scopes) := unnamed.cons _ _
  have extractor := node_put root "extractor" [] inner rfl
  have typeName := node_put root "type_name" [] inner rfl
  have index := node_put root "index" [] inner rfl
  have name := node_put root "name" [] inner rfl
  have isLast := find?_ofVariable root scopes argument.toJson bindings [] "last"
  rw [bound] at isLast
  have separator := node_whenNot_text ", " isLast
  simp only [BuiltinTemplate.argument, nodes, node_text, extractor, typeName, index, name, separator, bind,
    Except.bind]
  rw [Dispatch.Argument.expression_eq]
  simp only [display_string, display_natural, String.append_assoc, String.append_empty]

theorem nodes_branch {root : Json} {scopes : List Template.Scope} (unnamed : Unnamed scopes) (branch : Branch)
    (bindings : List (String × Json)) :
    nodes root (⟨branch.toJson, bindings, []⟩ :: scopes) BuiltinTemplate.branch = .ok (branchText branch) := by
  have inner : Unnamed (⟨branch.toJson, bindings, []⟩ :: scopes) := unnamed.cons _ _
  have member := node_put root "member" [] inner rfl
  have getter := node_put root "getter" [] inner rfl
  have arguments := node_each_keys root "arguments" [] BuiltinTemplate.argument inner rfl
  have separated := repeated_separated
    (fun turn => nodes root (turn :: ⟨branch.toJson, bindings, []⟩ :: scopes) BuiltinTemplate.argument)
    Argument.toJson Argument.expression ", "
    (fun argument (_ : argument ∈ branch.arguments) => nodes_argument inner argument) 0
  rw [Nat.zero_add] at separated
  rw [List.length_map, separated] at arguments
  have closing : ");\n    \x7d\n" = ")" ++ ";\n    \x7d\n" := by simp
  unfold branchText
  simp only [BuiltinTemplate.branch, nodes, node_text, member, getter, arguments, bind, Except.bind,
    display_string, Branch.callExpression_eq, closing, String.append_assoc, String.append_empty]

/-- A declared type takes params exactly when a branch of its dispatch table has arguments. -/
theorem usesParams_ofType (type : TypeDecl) : (Table.ofType type.resolve).usesParams = type.hasParams := by
  have same : ∀ field : Field, (Branch.ofField field.resolve).arguments.isEmpty = field.params.isEmpty := by
    intro field
    rw [Branch.ofField, Field.resolve, List.isEmpty_map, List.isEmpty_map]
  simp only [Table.usesParams, Table.ofType, TypeDecl.resolve, TypeDecl.hasParams, List.any_map,
    Function.comp_def, same]

/-- The template prints the text of the source of a type, if what the type says of its params agrees with
its dispatch table. -/
theorem nodes_dispatch (root : Json) (context : Context) (type : ResolvedType)
    (agrees : type.hasParams = (Table.ofType type).usesParams) :
    nodes root [⟨(context.withTarget type).data, [], []⟩] dispatch =
      .ok (Cpp.MemberDefinitions.text type context.options) := by
  have bare : Unnamed [⟨(context.withTarget type).data, [], []⟩] := by
    intro scope mem
    rw [List.mem_singleton.1 mem]
  have header := node_put root "files" ["header_include"] bare rfl
  have implHeader := node_put root "files" ["impl_header_include"] bare rfl
  have namespace_ := node_put root "cpp" ["namespace"] bare rfl
  have name := node_put root "type" ["name"] bare rfl
  have typeName := node_put root "dispatch" ["type_name"] bare rfl
  have branches := node_each_keys root "dispatch" ["branches"] BuiltinTemplate.branch bare rfl
  rw [repeated_itemScopes _ Branch.toJson branchText fun branch _ bindings => nodes_branch bare branch bindings]
    at branches
  have found : find? root [⟨(context.withTarget type).data, [], []⟩] (.ofKeys ["type", "has_params"]) =
      .ok (some (.bool (Table.ofType type).usesParams)) := by
    rw [find?_ofKeys bare, ← agrees]
    rfl
  have unused := node_whenNot_text "[[maybe_unused]] " found
  have sameOptions : (context.withTarget type).options = context.options := rfl
  have joint : "() noexcept = default;\n\nResult " = "() noexcept = default;\n\n" ++ "Result " := by simp
  have last : "\", member);\n\x7d\n\n\x7d // namespace " =
      "\", member);\n\x7d\n" ++ "\n\x7d // namespace " := by simp
  rw [Cpp.MemberDefinitions.text_eq_sourceText]
  unfold sourceText cascadeText unusedMark dispatch
  simp only [nodes, node_text, header, implHeader, namespace_, name, typeName, branches, path, unused, bind,
    Except.bind, display_string, sameOptions, joint, last, String.append_assoc, String.append_empty]

theorem render_dispatch (context : Context) (type : ResolvedType)
    (agrees : type.hasParams = (Table.ofType type).usesParams) (library : Library) (name : String) :
    Template.render library name dispatch (context.withTarget type).data =
      .ok (Cpp.MemberDefinitions.text type context.options) :=
  render_ok_of_plain rfl (nodes_dispatch _ context type agrees) library name

end FieldTypes.Catalog.BuiltinTemplate
