import FieldTypes.Cpp.Layout
import FieldTypes.Cpp.Naming

set_option autoImplicit false

namespace FieldTypes.Cpp.TemplateDefinitions

def constructor (name implName : String) : List Step :=
  [ .line "template <typename... Ts>"
  , .line s!"{name}::{name}(Ts&&... args)"
  , .indent
  , .line (": impl_\x7bstd::make_unique<" ++ implName ++ ">(std::forward<Ts>(args)...)\x7d")
  , .outdent
  , .line "\x7b\x7d" ]

def factory (name : String) : List Step :=
  [ .line "template <typename... Ts>"
  , .line s!"FieldPtr {name}::create(Ts&&... args)"
  , .braced "\x7d" [.line s!"return std::make_unique<{name}>(std::forward<Ts>(args)...);"] ]

def steps (type : ResolvedType) (options : Options) : List Step :=
  let files := FileNames.ofType type options
  guarded files.inlineHeaderGuard
    ([ .blank
     , includeLine files.headerInclude
     , includeLine files.implHeaderInclude
     , .blank
     , .line "#include <memory>"
     , .line "#include <utility>" ] ++
      inNamespace options.namespaceName
        ([.blank] ++ constructor type.name type.implName ++ [.blank] ++ factory type.name))

def text (type : ResolvedType) (options : Options) : String := layout (steps type options)

end FieldTypes.Cpp.TemplateDefinitions
