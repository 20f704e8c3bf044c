import FieldTypes.Cpp.Layout
import FieldTypes.Cpp.Naming

set_option autoImplicit false

namespace FieldTypes.Cpp.ClassDeclaration

def getter (field : ResolvedField) : List Step :=
  docComment field.docLines ++
    [.line s!"[[nodiscard]] Result {field.getter}({field.parameterList}) const;"]

def construction (name implName : String) : List Step :=
  [ .outdent, .line "public:", .indent
  , .line s!"using ImplPtr = std::unique_ptr<{implName}>;"
  , .blank
  , .line "template <typename... Ts>"
  , .line s!"explicit {name}(Ts&&... args);"
  , .blank
  , .line "template <typename... Ts>"
  , .line "[[nodiscard]] static FieldPtr create(Ts&&... args);"
  , .blank
  , .line s!"{name}(const {name}&) = delete;"
  , .line s!"{name}({name}&&) = delete;"
  , .line s!"{name}& operator=(const {name}&) = delete;"
  , .line s!"{name}& operator=({name}&&) = delete;"
  , .line s!"~{name}() noexcept override;"
  , .blank ]

def access : List Step :=
  [ .line
      "[[nodiscard]] Result get(std::string_view member, const FieldCallParams& params) const override;"
  , .line "[[nodiscard]] Primitive to_primitive() const override;" ]

def state : List Step := [.blank, .outdent, .line "private:", .indent, .line "ImplPtr impl_;"]

def getters (fields : List ResolvedField) : List Step :=
  fields.flatMap fun field => .blank :: getter field

def classSteps (type : ResolvedType) : List Step :=
  docComment type.docLines ++
    [ .line s!"class {type.name}", .indent, .line ": public Field", .outdent
    , .braced "\x7d;"
        (construction type.name type.implName ++ access ++ getters type.fields ++ state) ]

def steps (type : ResolvedType) (options : Options) : List Step :=
  let files := FileNames.ofType type options
  guarded files.headerGuard
    ([.blank] ++ runtimeIncludes.map includeLine ++
      [.blank, .line "#include <memory>", .line "#include <string_view>"] ++
      inNamespace options.namespaceName
        ([.blank, .line s!"class {type.implName};", .blank] ++ classSteps type) ++
      [.blank, includeLine files.inlineHeaderInclude])

def text (type : ResolvedType) (options : Options) : String := layout (steps type options)

end FieldTypes.Cpp.ClassDeclaration
