import FieldTypes.Proofs.DispatchTemplate
import FieldTypes.Proofs.TextLines

set_option autoImplicit false

namespace FieldTypes.Catalog.BuiltinTemplate

open Template Template.Render
open Text (unlines unlines_nil unlines_cons unlines_append)

def paramLine (param : ResolvedParam) : String :=
  "| `" ++ param.name ++ "` | " ++ toString param.index ++ " | `" ++ param.typeName ++ "` | " ++
    (if param.required then "yes" else "no") ++ " | " ++ param.defaultValueDoc.getD "" ++ " |"

def paramLines (params : List ResolvedParam) : List String :=
  if params = [] then []
  else "" :: "| Param | Index | Type | Required | Default |" :: "|-------|-------|------|----------|---------|" ::
    params.map paramLine

def returnLine (field : ResolvedField) : String :=
  "Returns " ++ (if field.returnList then "a list of " else "") ++ "`" ++ field.returnType ++ "`" ++
    (if field.nullable then ", possibly null" else "") ++ "."

def fieldLines (field : ResolvedField) : List String :=
  ["", "## `" ++ field.name ++ "`", "", returnLine field] ++ field.docLines ++ paramLines field.params

def pageLines (type : ResolvedType) : List String :=
  ["# " ++ type.name] ++ (if type.docLines = [] then [] else "" :: type.docLines) ++ type.fields.flatMap fieldLines

def registryLines (options : Cpp.Options) (headers : List String) (rootType : String) (types : List String) :
    List String :=
  [ "#ifndef " ++ options.guardPrefix ++ "_FIELD_REGISTRY_"
  , "#define " ++ options.guardPrefix ++ "_FIELD_REGISTRY_", "" ] ++
    headers.map (fun path => "#include \"" ++ path ++ "\"") ++
    [ "", "#include <string_view>", "", "namespace " ++ options.namespaceName ++ " \x7b", ""
    , "inline constexpr std::string_view ROOT_TYPE = \"" ++ rootType ++ "\";", ""
    , "inline constexpr std::string_view TYPE_NAMES[] = \x7b" ] ++
    types.map (fun name => "    \"" ++ name ++ "\",") ++
    [ "\x7d;", "", "\x7d // namespace " ++ options.namespaceName, ""
    , "#endif // " ++ options.guardPrefix ++ "_FIELD_REGISTRY_" ]

section Nodes

variable {scopes : List Template.Scope} {value : Json} {bindings : List (String × Json)}

theorem node_when (root : Json) (name : String) (keys : List String) (body : List Node) {subject : Json}
    (unnamed : Unnamed (⟨value, bindings, []⟩ :: scopes))
    (leads : descend value (name :: keys) = .ok (some subject)) :
    node root (⟨value, bindings, []⟩ :: scopes) (when (name :: keys) body) =
      if isTrue subject = true then nodes root (⟨value, bindings, []⟩ :: scopes) body else .ok "" := by
  rw [when, block, path, node_choose true none (by rw [find?_ofKeys unnamed, leads]), Render.optional]

theorem node_when_text (root : Json) (name : String) (keys : List String) (text : String) {holds : Bool}
    (unnamed : Unnamed (⟨value, bindings, []⟩ :: scopes))
    (leads : descend value (name :: keys) = .ok (some (.bool holds))) :
    node root (⟨value, bindings, []⟩ :: scopes) (when (name :: keys) [.text text]) =
      .ok (if holds then text else "") := by
  rw [node_when root name keys _ unnamed leads, nodes_singleton, node_text]
  cases holds <;> rfl

theorem node_each_line (root : Json) (name : String) (keys : List String) {lines : List String}
    (unnamed : Unnamed (⟨value, bindings, []⟩ :: scopes))
    (leads : descend value (name :: keys) = .ok (some (.strings lines))) :
    node root (⟨value, bindings, []⟩ :: scopes) (each (name :: keys) [putThis, .text "\n"]) =
      .ok (unlines lines) := by
  have line : ∀ text ∈ lines, ∀ turn, nodes root (⟨.string text, turn, []⟩ :: ⟨value, bindings, []⟩ :: scopes)
      [putThis, .text "\n"] = .ok (text ++ "\n") := by
    intro text _ turn
    have this : node root (⟨.string text, turn, []⟩ :: ⟨value, bindings, []⟩ :: scopes) putThis =
        .ok (display (.string text)) := node_value_ok rfl
    simp only [nodes, this, node_text, bind, Except.bind, display_string, String.append_empty]
  rw [node_each_keys root name keys _ unnamed leads, repeated_itemScopes _ Json.string (· ++ "\n") line, unlines]

end Nodes

theorem nodes_paramRow {root : Json} {scopes : List Template.Scope} (unnamed : Unnamed scopes) (param : ResolvedParam)
    (bindings : List (String × Json)) :
    nodes root (⟨param.toJson, bindings, []⟩ :: scopes) paramRow = .ok (paramLine param ++ "\n") := by
  have inner : Unnamed (⟨param.toJson, bindings, []⟩ :: scopes) := unnamed.cons _ _
  have name := node_put root "name" [] inner rfl
  have index := node_put root "index" [] inner rfl
  have typeName := node_put root "type_name" [] inner rfl
  have required : node root (⟨param.toJson, bindings, []⟩ :: scopes)
      (.block none (.choose true) [path ["required"]] [] [] [.text "yes"] (some [.text "no"])) =
        .ok (if param.required then "yes" else "no") := by
    have found : find? root (⟨param.toJson, bindings, []⟩ :: scopes) (.ofKeys ["required"]) =
        .ok (some (.bool param.required)) := by
      rw [find?_ofKeys inner]
      rfl
    rw [path, node_choose true _ found, Render.optional, nodes_singleton, nodes_singleton, node_text, node_text]
    cases param.required <;> rfl
  -- a default without text is printed like no default
  have defaultDoc : node root (⟨param.toJson, bindings, []⟩ :: scopes)
      (when ["default_value_doc"] [put ["default_value_doc"]]) = .ok (param.defaultValueDoc.getD "") := by
    have leads : descend param.toJson ["default_value_doc"] =
        .ok (some ((param.defaultValueDoc.map .string).getD .null)) := rfl
    rw [node_when root "default_value_doc" [] _ inner leads, nodes_singleton,
      node_put root "default_value_doc" [] inner leads]
    cases param.defaultValueDoc with
    | none => rfl
    | some text =>
      by_cases empty : text = ""
      · rw [empty]
        rfl
      · have holds : Template.isTrue (Json.string text) = true := bne_iff_ne.2 empty
        rw [Option.map_some, Option.getD_some, Option.getD_some, if_pos holds, display_string]
  unfold paramLine
  simp only [paramRow, nodes, node_text, name, index, typeName, required, defaultDoc, bind, Except.bind,
    display_string, display_natural, String.append_assoc, String.append_empty]
  rfl

theorem nodes_fieldSection {root : Json} {scopes : List Template.Scope} (unnamed : Unnamed scopes)
    (field : ResolvedField)
    (bindings : List (String × Json)) :
    nodes root (⟨field.toJson, bindings, []⟩ :: scopes) fieldSection = .ok (unlines (fieldLines field)) := by
  have inner : Unnamed (⟨field.toJson, bindings, []⟩ :: scopes) := unnamed.cons _ _
  have name := node_put root "name" [] inner rfl
  have list := node_when_text root "return_list" [] "a list of " inner rfl
  have returnType := node_put root "return_type" [] inner rfl
  have nullable := node_when_text root "nullable" [] ", possibly null" inner rfl
  have docs := node_each_line root "doc_lines" [] inner rfl
  have rows := node_each_keys root "params" [] paramRow inner rfl
  rw [repeated_itemScopes _ ResolvedParam.toJson (paramLine · ++ "\n")
    fun param _ turn => nodes_paramRow inner param turn] at rows
  have table : node root (⟨field.toJson, bindings, []⟩ :: scopes)
      (when ["params"]
        [ .text "\n| Param | Index | Type | Required | Default |\n"
        , .text "|-------|-------|------|----------|---------|\n"
        , each ["params"] paramRow ]) = .ok (unlines (paramLines field.params)) := by
    have items : descend field.toJson ["params"] = .ok (some (.array (field.params.map ResolvedParam.toJson))) := rfl
    have heading : "\n| Param | Index | Type | Required | Default |\n" =
        "\n" ++ ("| Param | Index | Type | Required | Default |" ++ "\n") := by simp
    have ruler : "|-------|-------|------|----------|---------|\n" =
        "|-------|-------|------|----------|---------|" ++ "\n" := by simp
    rw [node_when root "params" [] _ inner items]
    unfold paramLines
    by_cases empty : field.params = []
    · rw [empty]
      rfl
    · have holds : Template.isTrue (.array (field.params.map ResolvedParam.toJson)) = true := by
        rw [Template.isTrue, List.isEmpty_map, Bool.not_eq_true', List.isEmpty_eq_false_iff]
        exact empty
      rw [if_pos holds, if_neg empty]
      simp only [nodes, node_text, rows, bind, Except.bind, heading, ruler, unlines_cons, String.empty_append,
        String.append_assoc, String.append_empty]
      rw [unlines, List.map_map]
      rfl
  have start : "\n## `" = "\n" ++ "## `" := by simp
  have middle : "`\n\nReturns " = "`" ++ ("\n" ++ ("\n" ++ "Returns ")) := by simp
  have last : ".\n" = "." ++ "\n" := by simp
  unfold fieldLines returnLine
  simp only [fieldSection, nodes, node_text, name, list, returnType, nullable, docs, table, bind, Except.bind,
    display_string, unlines_append, unlines_cons, unlines_nil, start, middle, last, String.empty_append,
    String.append_assoc, String.append_empty]

theorem unlines_flatMap {α : Type} (lines : α → List String) (values : List α) :
    unlines (values.flatMap lines) = String.join (values.map fun value => unlines (lines value)) := by
  induction values with
  | nil => rfl
  | cons value values ih => rw [List.flatMap_cons, unlines_append, ih, List.map_cons, String.join_cons]

/-- The page's template prints the page of a type, whatever else is there to be printed. -/
theorem nodes_doc (root : Json) (context : Context) (type : ResolvedType) :
    nodes root [⟨(context.withTarget type).data, [], []⟩] doc = .ok (unlines (pageLines type)) := by
  have bare : Unnamed [⟨(context.withTarget type).data, [], []⟩] := by
    intro scope mem
    rw [List.mem_singleton.1 mem]
  have name := node_put root "type" ["name"] bare rfl
  have lines := node_each_line root "type" ["doc_lines"] bare rfl
  have fields := node_each_keys root "type" ["fields"] fieldSection bare rfl
  rw [repeated_itemScopes _ ResolvedField.toJson (fun field => unlines (fieldLines field))
    fun field _ turn => nodes_fieldSection bare field turn] at fields
  have docs : node root [⟨(context.withTarget type).data, [], []⟩]
      (when ["type", "doc_lines"] [.text "\n", each ["type", "doc_lines"] [putThis, .text "\n"]]) =
        .ok (unlines (if type.docLines = [] then [] else "" :: type.docLines)) := by
    have given : descend (context.withTarget type).data ["type", "doc_lines"] = .ok (some (.strings type.docLines)) :=
      rfl
    rw [node_when root "type" ["doc_lines"] _ bare given]
    by_cases empty : type.docLines = []
    · rw [empty]
      rfl
    · have holds : Template.isTrue (Json.strings type.docLines) = true := by
        rw [Json.strings, Template.isTrue, List.isEmpty_map, Bool.not_eq_true', List.isEmpty_eq_false_iff]
        exact empty
      rw [if_pos holds, if_neg empty]
      simp only [nodes, node_text, lines, bind, Except.bind, unlines_cons, String.empty_append, String.append_empty]
  unfold pageLines
  simp only [doc, nodes, node_text, name, docs, fields, bind, Except.bind, display_string, unlines_append,
    unlines_cons, unlines_nil, unlines_flatMap, String.append_assoc, String.append_empty]

theorem render_doc (context : Context) (type : ResolvedType) (library : Library) (name : String) :
    Template.render library name doc (context.withTarget type).data = .ok (unlines (pageLines type)) :=
  render_ok_of_plain rfl (nodes_doc _ context type) library name

/-- The registry's template prints the registry of a schema. -/
theorem nodes_registry (root : Json) (context : Context) :
    nodes root [⟨context.data, [], []⟩] registry =
      .ok (unlines (registryLines context.options context.headers context.resolved.rootType
        (context.resolved.types.map (·.name)))) := by
  have bare : Unnamed [⟨context.data, [], []⟩] := by
    intro scope mem
    rw [List.mem_singleton.1 mem]
  have guardPrefix : node root [⟨context.data, [], []⟩] (put ["cpp", "guard_prefix"]) =
      .ok (display (.string context.options.guardPrefix)) := node_put root "cpp" ["guard_prefix"] bare rfl
  have namespace_ : node root [⟨context.data, [], []⟩] (put ["cpp", "namespace"]) =
      .ok (display (.string context.options.namespaceName)) := node_put root "cpp" ["namespace"] bare rfl
  have rootType : node root [⟨context.data, [], []⟩] (put ["root_type"]) =
      .ok (display (.string context.resolved.rootType)) := node_put root "root_type" [] bare rfl
  have include_ : ∀ path ∈ context.headers, ∀ turn, nodes root [⟨.string path, turn, []⟩, ⟨context.data, [], []⟩]
      [.text "#include \"", putThis, .text "\"\n"] = .ok ("#include \"" ++ path ++ "\"" ++ "\n") := by
    intro path _ turn
    have this : node root [⟨.string path, turn, []⟩, ⟨context.data, [], []⟩] putThis = .ok (display (.string path)) :=
      node_value_ok rfl
    have ending : "\"\n" = "\"" ++ "\n" := by simp
    simp only [nodes, node_text, this, bind, Except.bind, display_string, ending, String.append_assoc,
      String.append_empty]
  have entry : ∀ type ∈ context.resolved.types, ∀ turn,
      nodes root [⟨type.toJson, turn, []⟩, ⟨context.data, [], []⟩] [.text "    \"", put ["name"], .text "\",\n"] =
        .ok ("    \"" ++ type.name ++ "\"," ++ "\n") := by
    intro type _ turn
    have name := node_put root "name" [] (bare.cons type.toJson turn) (show descend type.toJson ["name"] =
      .ok (some (.string type.name)) from rfl)
    have ending : "\",\n" = "\"," ++ "\n" := by simp
    simp only [nodes, node_text, name, bind, Except.bind, display_string, ending, String.append_assoc,
      String.append_empty]
  have headers : node root [⟨context.data, [], []⟩] (each ["headers"] [.text "#include \"", putThis, .text "\"\n"]) =
      .ok (unlines (context.headers.map fun path => "#include \"" ++ path ++ "\"")) := by
    rw [node_each_keys root "headers" [] _ bare rfl, repeated_itemScopes _ Json.string _ include_, unlines,
      List.map_map]
    rfl
  have types : node root [⟨context.data, [], []⟩] (each ["types"] [.text "    \"", put ["name"], .text "\",\n"]) =
      .ok (unlines ((context.resolved.types.map (·.name)).map fun name => "    \"" ++ name ++ "\",")) := by
    rw [node_each_keys root "types" [] _ bare rfl, repeated_itemScopes _ ResolvedType.toJson _ entry, unlines,
      List.map_map, List.map_map]
    rfl
  have second : "_FIELD_REGISTRY_\n#define " = "_FIELD_REGISTRY_" ++ ("\n" ++ "#define ") := by simp
  have third : "_FIELD_REGISTRY_\n\n" = "_FIELD_REGISTRY_" ++ ("\n" ++ "\n") := by simp
  have fourth : "\n#include <string_view>\n\nnamespace " =
      "\n" ++ ("#include <string_view>" ++ ("\n" ++ ("\n" ++ "namespace "))) := by simp
  have fifth : " \x7b\n\ninline constexpr std::string_view ROOT_TYPE = \"" =
      " \x7b" ++ ("\n" ++ ("\n" ++ "inline constexpr std::string_view ROOT_TYPE = \"")) := by simp
  have sixth : "\";\n\ninline constexpr std::string_view TYPE_NAMES[] = \x7b\n" =
      "\";" ++ ("\n" ++ ("\n" ++ ("inline constexpr std::string_view TYPE_NAMES[] = \x7b" ++ "\n"))) := by simp
  have seventh : "\x7d;\n\n\x7d // namespace " = "\x7d;" ++ ("\n" ++ ("\n" ++ "\x7d // namespace ")) := by simp
  have eighth : "\n\n#endif // " = "\n" ++ ("\n" ++ "#endif // ") := by simp
  have last : "_FIELD_REGISTRY_\n" = "_FIELD_REGISTRY_" ++ "\n" := by simp
  unfold registryLines
  simp only [registry, nodes, node_text, guardPrefix, namespace_, rootType, headers, types, bind, Except.bind,
    display_string, unlines_append, unlines_cons, unlines_nil, second, third, fourth, fifth, sixth, seventh, eighth,
    last, String.empty_append, String.append_assoc, String.append_empty]

theorem render_registry (context : Context) (library : Library) (name : String) :
    Template.render library name registry context.data =
      .ok (unlines (registryLines context.options context.headers context.resolved.rootType
        (context.resolved.types.map (·.name)))) :=
  render_ok_of_plain rfl (nodes_registry _ context) library name

end FieldTypes.Catalog.BuiltinTemplate
