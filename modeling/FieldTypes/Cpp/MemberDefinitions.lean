import FieldTypes.Cpp.Layout
import FieldTypes.Cpp.Naming
import FieldTypes.Dispatch.Table

set_option autoImplicit false

namespace FieldTypes.Cpp.MemberDefinitions

open FieldTypes.Dispatch

def branch (branch : Branch) : List Step :=
  [ .line ("if (member == \"" ++ branch.member ++ "\")")
  , .braced "\x7d" [.line s!"return {branch.callExpression};"] ]

def cascade (table : Table) : List Step :=
  let unused := if table.usesParams then "" else "[[maybe_unused]] "
  [ .line ("Result " ++ table.typeName ++ "::get(std::string_view member, " ++ unused ++
      "const FieldCallParams& params) const")
  , .braced "\x7d"
      (table.branches.flatMap branch ++
        [.line ("throw InvalidFieldError(\"" ++ table.typeName ++ "\", member);")]) ]

def steps (type : ResolvedType) (options : Options) : List Step :=
  let files := FileNames.ofType type options
  [ includeLine files.headerInclude
  , includeLine files.implHeaderInclude
  , .blank
  , includeLine invalidFieldErrorInclude
  , .blank
  , .line "#include <string_view>" ] ++
    inNamespace options.namespaceName
      ([.blank, .line s!"{type.name}::~{type.name}() noexcept = default;", .blank] ++
        cascade (Table.ofType type))

def text (type : ResolvedType) (options : Options) : String := layout (steps type options)

end FieldTypes.Cpp.MemberDefinitions
