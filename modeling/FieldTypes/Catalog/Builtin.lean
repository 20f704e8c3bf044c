import FieldTypes.Catalog.Context
import FieldTypes.Cpp.ClassDeclaration
import FieldTypes.Cpp.MemberDefinitions
import FieldTypes.Cpp.TemplateDefinitions
import FieldTypes.Generation.Error
import FieldTypes.Json.Printer
import FieldTypes.Template.Basic

set_option autoImplicit false

namespace FieldTypes.Catalog

/-- A rendering by program. -/
structure Strategy where
  scope : Scope
  render : Context → Except Generation.Error String

/-- The programs that every catalog starts with. -/
inductive Builtin where
  | header
  | inlineHeader
  | source
  | schemaJson
  deriving DecidableEq, Repr

namespace Builtin

def label : Builtin → String
  | .header => "header"
  | .inlineHeader => "inline_header"
  | .source => "source"
  | .schemaJson => "schema_json"

def scope : Builtin → Scope
  | .header => .type
  | .inlineHeader => .type
  | .source => .type
  | .schemaJson => .schema

/-- Renders for the bound type; a program reports its own name, whatever name it is registered under. -/
def forTarget (builtin : Builtin) (context : Context)
    (text : ResolvedType → Cpp.Options → String) : Except Generation.Error String :=
  match context.target with
  | some type => .ok (text type context.options)
  | none => .error (.render builtin.label context.label .noTypeBound)

def render (builtin : Builtin) (context : Context) : Except Generation.Error String :=
  match builtin with
  | .header => builtin.forTarget context Cpp.ClassDeclaration.text
  | .inlineHeader => builtin.forTarget context Cpp.TemplateDefinitions.text
  | .source => builtin.forTarget context Cpp.MemberDefinitions.text
  | .schemaJson => .ok (context.schema.toJson.indented ++ "\n")

def strategy (builtin : Builtin) : Strategy := ⟨builtin.scope, builtin.render⟩

end Builtin

namespace BuiltinTemplate

open Template

def path (keys : List String) : Operand := .path (.ofKeys keys)

def put (keys : List String) : Node := .value none (path keys)

def putThis : Node := .value none (.path .this)

def block (helper : Helper) (operand : Operand) (body : List Node) : Node :=
  .block none helper [operand] [] [] body none

def each (keys : List String) (body : List Node) : Node := block .each (path keys) body

def when (keys : List String) (body : List Node) : Node := block (.choose true) (path keys) body

def whenNot (operand : Operand) (body : List Node) : Node := block (.choose false) operand body

def argument : List Node :=
  [ .text "params.", put ["extractor"], .text "<", put ["type_name"], .text ">(", put ["index"]
  , .text ", \"", put ["name"], .text "\")"
  , whenNot (.path (.ofVariable "last")) [.text ", "] ]

def branch : List Node :=
  [ .text "    if (member == \"", put ["member"], .text "\")\n    \x7b\n        return ", put ["getter"]
  , .text "(", each ["arguments"] argument, .text ");\n    \x7d\n" ]

def dispatch : List Node :=
  [ .text "#include \"", put ["files", "header_include"]
  , .text "\"\n#include \"", put ["files", "impl_header_include"]
  , .text "\"\n\n#include \"field_types/InvalidFieldError.h\"\n\n#include <string_view>\n\nnamespace "
  , put ["cpp", "namespace"]
  , .text " \x7b\n\n"
  , put ["type", "name"], .text "::~", put ["type", "name"], .text "() noexcept = default;\n\nResult "
  , put ["dispatch", "type_name"]
  , .text "::get(std::string_view member, "
  , whenNot (path ["type", "has_params"]) [.text "[[maybe_unused]] "]
  , .text "const FieldCallParams& params) const\n\x7b\n"
  , each ["dispatch", "branches"] branch
  , .text "    throw InvalidFieldError(\"", put ["dispatch", "type_name"]
  , .text "\", member);\n\x7d\n\n\x7d // namespace ", put ["cpp", "namespace"], .text "\n" ]

def paramRow : List Node :=
  [ .text "| `", put ["name"], .text "` | ", put ["index"], .text " | `", put ["type_name"], .text "` | "
  , .block none (.choose true) [path ["required"]] [] [] [.text "yes"] (some [.text "no"])
  , .text " | ", when ["default_value_doc"] [put ["default_value_doc"]], .text " |\n" ]

def fieldSection : List Node :=
  [ .text "\n## `", put ["name"], .text "`\n\nReturns "
  , when ["return_list"] [.text "a list of "]
  , .text "`", put ["return_type"], .text "`"
  , when ["nullable"] [.text ", possibly null"]
  , .text ".\n"
  , each ["doc_lines"] [putThis, .text "\n"]
  , when ["params"]
      [ .text "\n| Param | Index | Type | Required | Default |\n"
      , .text "|-------|-------|------|----------|---------|\n"
      , each ["params"] paramRow ] ]

def doc : List Node :=
  [ .text "# ", put ["type", "name"], .text "\n"
  , when ["type", "doc_lines"] [.text "\n", each ["type", "doc_lines"] [putThis, .text "\n"]]
  , each ["type", "fields"] fieldSection ]

def registry : List Node :=
  [ .text "#ifndef ", put ["cpp", "guard_prefix"], .text "_FIELD_REGISTRY_\n#define "
  , put ["cpp", "guard_prefix"], .text "_FIELD_REGISTRY_\n\n"
  , each ["headers"] [.text "#include \"", putThis, .text "\"\n"]
  , .text "\n#include <string_view>\n\nnamespace ", put ["cpp", "namespace"]
  , .text " \x7b\n\ninline constexpr std::string_view ROOT_TYPE = \"", put ["root_type"]
  , .text "\";\n\ninline constexpr std::string_view TYPE_NAMES[] = \x7b\n"
  , each ["types"] [.text "    \"", put ["name"], .text "\",\n"]
  , .text "\x7d;\n\n\x7d // namespace ", put ["cpp", "namespace"]
  , .text "\n\n#endif // ", put ["cpp", "guard_prefix"], .text "_FIELD_REGISTRY_\n" ]

end BuiltinTemplate

end FieldTypes.Catalog
