import FieldTypes.CommandLine

set_option autoImplicit false

namespace FieldTypes.Program

def version : String := "sqgen 0.1.0"

def help : String :=
  "Usage: sqgen [OPTIONS] <COMMAND>\n\n" ++
  "Commands:\n" ++
  "  sources <HEADER_DIR> <SOURCE_DIR>  Write headers and sources for every type\n" ++
  "  template <NAME> <OUTPUT_FORMAT>    Render one template for every type or for the schema\n" ++
  "  help                               Print this text\n\n" ++
  "Options:\n" ++
  "  -s, --schema <SCHEMA>              Schema document (schema.json)\n" ++
  "      --template-dir <DIR>           Directory of additional *.hbs templates\n" ++
  "      --namespace <NAME>             Namespace of the generated classes\n" ++
  "      --include-prefix <PREFIX>      Include directory of generated headers\n" ++
  "  -v, --verbose                      Say more\n" ++
  "  -h, --help                         Print this text\n" ++
  "  -V, --version                      Print the version"

/-- The system's number and words for a failure. -/
def systemText : IO.Error → UInt32 × String
  | .alreadyExists _ code text | .invalidArgument _ code text | .permissionDenied _ code text
  | .resourceExhausted _ code text | .inappropriateType _ code text | .noSuchThing _ code text =>
    (code, text)
  | .noFileOrDirectory _ code text | .interrupted _ code text => (code, text)
  | .otherError code text | .resourceBusy code text | .resourceVanished code text
  | .unsupportedOperation code text | .hardwareFault code text | .unsatisfiedConstraints code text
  | .illegalOperation code text | .protocolError code text | .timeExpired code text => (code, text)
  | .unexpectedEof => (0, "unexpected end of file")
  | .userError text => (0, text)

/-- The fault that a failure is. Numbers are given either way round. -/
def faultOf (error : IO.Error) : Store.Fault :=
  let (code, text) := systemText error
  let number := if code < 0x80000000 then code else 0 - code
  if number = 2 then .notFound
  else if number = 17 then .alreadyExists
  else if number = 20 then .notADirectory
  else if number = 21 then .isADirectory
  else if number = 36 then .nameTooLong
  else if number = 0 then .other text
  else .other s!"{text} (os error {number})"

def attempt {α : Type} (path : String) (action : IO α) : IO (Except Store.Fault α) := do
  match Store.checkPath path with
  | .error fault => return .error fault
  | .ok () =>
    match ← action.toBaseIO with
    | .ok value => return .ok value
    | .error error => return .error (faultOf error)

def readText (path : String) : IO (Except Store.Fault String) := do
  return (← attempt path (IO.FS.readBinFile path)).bind Store.decodeText

def readTemplates (path : String) : IO Generation.TemplateDirectory := do
  match ← attempt path (System.mkFilePath [path]).readDir with
  | .error fault => return ⟨path, .error fault⟩
  | .ok entries =>
    let names := (entries.toList.map (·.fileName)).filter fun name =>
      Generation.TemplateFile.isTemplate (.text name)
    return ⟨path, .ok (← names.mapM fun name => return ⟨.text name, ← readText (Path.join path name)⟩)⟩

def readInputs (config : Generation.Config) : IO Generation.Inputs := do
  return ⟨← config.templateDirectory.mapM readTemplates, ← readText config.schemaPath⟩

/-- Actions on the files of the system; a place is the path that leads there. -/
def actions : Store.Actions IO String where
  start path := if path.startsWith "/" then "/" else ""
  enter := Path.join
  leave here := Path.join here ".."
  ensure here := do
    match ← attempt here (IO.FS.createDir here) with
    | .ok () => return .made
    | .error .alreadyExists => return if ← (System.mkFilePath [here]).isDir then .present else .blocked
    | .error fault => return .failed fault
  writeFile path text := attempt path (IO.FS.writeFile path text)

def generate (config : Generation.Config) : IO (Except Generation.Error (List String)) :=
  Generation.runBy actions (readInputs config) config

def outcome (words : List String) : IO CommandLine.Outcome := do
  match CommandLine.parse words with
  | .error fault =>
    IO.eprintln s!"error: {fault.message}\n\n{help}"
    return .usage fault
  | .ok .help =>
    IO.println help
    return .success
  | .ok .version =>
    IO.println version
    return .success
  | .ok (.generate settings command) =>
    match CommandLine.config settings command with
    | .error error => return .failed error
    | .ok config =>
      match ← generate config with
      | .error error => return .failed error
      | .ok _ => return .success

end FieldTypes.Program

def main (words : List String) : IO UInt32 := do
  let outcome ← FieldTypes.Program.outcome words
  if let some line := outcome.report? then IO.eprintln line
  return outcome.exitCode.toUInt32
