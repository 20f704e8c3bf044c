import FieldTypes.Resolved

set_option autoImplicit false

namespace FieldTypes.Cpp

structure Options where
  /-- The namespace around the generated classes. -/
  namespaceName : String
  /-- The directory in front of generated includes. -/
  includePrefix : String
  /-- The start of include guard macros. -/
  guardPrefix : String
  deriving DecidableEq, Repr

def Options.standard : Options := ⟨"sq::field_types", "field_types", "SQ_INCLUDE_GUARD"⟩

namespace Options

def includePath (options : Options) (file : String) : String :=
  if options.includePrefix = "" then file else s!"{options.includePrefix}/{file}"

/-- A character of a macro name; whatever cannot stand in one becomes an underscore. -/
def guardChar (c : Char) : Char := if c.isAlphanum then c else '_'

/-- The include guard macro of a file. -/
def guard (options : Options) (file : String) : String :=
  s!"{options.guardPrefix}_{options.includePrefix}_{file}_".map guardChar

def toJson (options : Options) : Json :=
  .object
    [ ("namespace", .string options.namespaceName)
    , ("include_prefix", .string options.includePrefix)
    , ("guard_prefix", .string options.guardPrefix) ]

end Options

def headerFile (type : String) : String := s!"{type}.gen.h"

def inlineHeaderFile (type : String) : String := s!"{type}.gen.inl.h"

def sourceFile (type : String) : String := s!"{type}.gen.cpp"

def implHeaderFile (impl : String) : String := s!"{impl}.h"

structure FileNames where
  header : String
  inlineHeader : String
  source : String
  headerInclude : String
  inlineHeaderInclude : String
  implHeaderInclude : String
  headerGuard : String
  inlineHeaderGuard : String
  deriving DecidableEq, Repr

namespace FileNames

def ofNames (type impl : String) (options : Options) : FileNames :=
  { header := headerFile type
    inlineHeader := inlineHeaderFile type
    source := sourceFile type
    headerInclude := options.includePath (headerFile type)
    inlineHeaderInclude := options.includePath (inlineHeaderFile type)
    implHeaderInclude := options.includePath (implHeaderFile impl)
    headerGuard := options.guard (headerFile type)
    inlineHeaderGuard := options.guard (inlineHeaderFile type) }

def ofType (type : ResolvedType) (options : Options) : FileNames :=
  ofNames type.name type.implName options

def toJson (files : FileNames) : Json :=
  .object
    [ ("header", .string files.header)
    , ("inline_header", .string files.inlineHeader)
    , ("source", .string files.source)
    , ("header_include", .string files.headerInclude)
    , ("inline_header_include", .string files.inlineHeaderInclude)
    , ("impl_header_include", .string files.implHeaderInclude)
    , ("header_guard", .string files.headerGuard)
    , ("inline_header_guard", .string files.inlineHeaderGuard) ]

end FileNames

/-- Headers of the runtime library that every class declaration needs. -/
def runtimeIncludes : List String :=
  ["field_types/Field.h", "field_types/FieldCallParams.h", "field_types/Primitive.h"]

/-- The runtime header that declares the unknown-member error. -/
def invalidFieldErrorInclude : String := "field_types/InvalidFieldError.h"

end FieldTypes.Cpp
