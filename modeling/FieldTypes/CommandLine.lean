import FieldTypes.Generation.Run

set_option autoImplicit false

namespace FieldTypes.CommandLine

/-- The options that take a value. -/
inductive Setting where
  | schema
  | templateDirectory
  | namespaceName
  | includePrefix
  deriving DecidableEq, Repr

/-- Paths may not be empty. -/
def Setting.isPath : Setting → Bool
  | .schema => true
  | .templateDirectory => true
  | .namespaceName => false
  | .includePrefix => false

inductive Command where
  | sources (headerDirectory sourceDirectory : String)
  | template (name pattern : String)
  deriving DecidableEq, Repr

inductive Request where
  | help
  | version
  | generate (settings : List (Setting × String)) (command : Command)
  deriving DecidableEq, Repr

/-- Why a command line cannot be read. -/
inductive UsageFault where
  | unknownOption (word : String)
  | missingValue (setting : Setting)
  | emptyPath
  | repeated (setting : Setting)
  | needlessValue (word : String)
  | unknownCommand (word : String)
  | missingCommand
  | missingOperand
  | extraOperand (word : String)
  deriving DecidableEq, Repr

def Setting.name : Setting → String
  | .schema => "--schema"
  | .templateDirectory => "--template-dir"
  | .namespaceName => "--namespace"
  | .includePrefix => "--include-prefix"

def UsageFault.message : UsageFault → String
  | .unknownOption word => s!"unexpected option '{word}'"
  | .missingValue setting => s!"option '{setting.name}' needs a value"
  | .emptyPath => "a path may not be empty"
  | .repeated setting => s!"option '{setting.name}' is given twice"
  | .needlessValue word => s!"option '--{word}' takes no value"
  | .unknownCommand word => s!"unknown command '{word}'"
  | .missingCommand => "a command is required"
  | .missingOperand => "an operand is missing"
  | .extraOperand word => s!"unexpected operand '{word}'"

/-- The settings so far, and one whose value is not settled yet. -/
structure Progress where
  settings : List (Setting × String)
  waiting : Option (Setting × String)

namespace Progress

def start : Progress := ⟨[], none⟩

def add (progress : Progress) (setting : Setting) (value : String) : Except UsageFault Progress :=
  if setting.isPath ∧ value = "" then .error .emptyPath
  else if (progress.settings.lookup setting).isSome then .error (.repeated setting)
  else .ok { progress with settings := progress.settings ++ [(setting, value)] }

def settle (progress : Progress) : Except UsageFault Progress :=
  match progress.waiting with
  | none => .ok progress
  | some (setting, value) => { progress with waiting := none }.add setting value

/-- Settles what waits and adds a value that stands with its option. -/
def addNow (progress : Progress) (setting : Setting) (value : String) : Except UsageFault Progress := do
  (← progress.settle).add setting value

/-- Settles what waits and lets a value wait. -/
def addLater (progress : Progress) (setting : Setting) (value : String) : Except UsageFault Progress := do
  .ok { ← progress.settle with waiting := some (setting, value) }

end Progress

/-- Whether a word starts an option; a lone dash is a value. -/
def isOption (word : String) : Bool :=
  match word.toList with
  | '-' :: _ :: _ => true
  | _ => false

/-- What an option asks for. -/
inductive Flag where
  | setting (setting : Setting)
  | verbose
  | help
  | version
  deriving DecidableEq, Repr

def longOption? (name : String) : Option Flag :=
  if name = "schema" then some (.setting .schema)
  else if name = "template-dir" then some (.setting .templateDirectory)
  else if name = "namespace" then some (.setting .namespaceName)
  else if name = "include-prefix" then some (.setting .includePrefix)
  else if name = "verbose" then some .verbose
  else if name = "help" then some .help
  else if name = "version" then some .version
  else none

def shortOption? (c : Char) : Option Flag :=
  if c = 's' then some (.setting .schema)
  else if c = 'v' then some .verbose
  else if c = 'h' then some .help
  else if c = 'V' then some .version
  else none

inductive Step where
  | more (progress : Progress)
  /-- The next word is the value of a setting. -/
  | value (progress : Progress) (setting : Setting)
  | done (request : Request)

def long (progress : Progress) (word : String) : Except UsageFault Step := do
  let characters := word.toList
  let name := String.ofList (characters.takeWhile (· != '='))
  let attached : Option String :=
    match characters.dropWhile (· != '=') with
    | [] => none
    | _ :: value => some (String.ofList value)
  match longOption? name, attached with
  | none, _ => .error (.unknownOption word)
  | some (.setting setting), some value => (progress.addNow setting value).map .more
  | some (.setting setting), none => .ok (.value progress setting)
  | some _, some _ => .error (.needlessValue word)
  | some .verbose, none => progress.settle.map .more
  | some .help, none => progress.settle.map fun _ => .done .help
  | some .version, none => progress.settle.map fun _ => .done .version

/-- Reads the letters of a word of short options. A setting takes the rest of the word as its value,
without an equals sign. -/
def short (progress : Progress) : List Char → Except UsageFault Step
  | [] => .ok (.more progress)
  | c :: rest => do
    match shortOption? c with
    | none => .error (.unknownOption (String.ofList (c :: rest)))
    | some .verbose => short (← progress.settle) rest
    | some .help => progress.settle.map fun _ => .done .help
    | some .version => progress.settle.map fun _ => .done .version
    | some (.setting setting) =>
      match rest with
      | [] => .ok (.value progress setting)
      | '=' :: value => (progress.addNow setting (String.ofList value)).map .more
      | value => (progress.addNow setting (String.ofList value)).map .more

def option (progress : Progress) (word : String) : Except UsageFault Step :=
  match word.toList with
  | '-' :: '-' :: name => long progress (String.ofList name)
  | '-' :: letters => short progress letters
  | _ => .error (.unknownOption word)

inductive Operands where
  | help
  | two (first second : String)

/-- Reads the operands of a command; after a double dash every word is one. -/
def operands (paths plain : Bool) (found : List String) : List String → Except UsageFault Operands
  | [] =>
    match found with
    | [first, second] => .ok (.two first second)
    | _ => .error .missingOperand
  | word :: rest =>
    if !plain && word == "--" then operands paths true found rest
    else if !plain && (word == "--help" || word.startsWith "-h") then .ok .help
    else if !plain && isOption word then .error (.unknownOption word)
    else if paths && word == "" then .error .emptyPath
    else if found.length = 2 then .error (.extraOperand word)
    else operands paths plain (found ++ [word]) rest

/-- The help command, which may name one command. -/
def helpCommand : List String → Except UsageFault Request
  | [] => .ok .help
  | word :: rest =>
    if (word = "sources" ∨ word = "template" ∨ word = "help") ∧ rest = [] then .ok .help
    else .error (.unknownCommand word)

/-- Reads a command's operands, and then settles what waits. -/
def withOperands (progress : Progress) (paths : Bool) (command : String → String → Command)
    (words : List String) : Except UsageFault Request := do
  match ← operands paths false [] words with
  | .help => .ok .help
  | .two first second =>
    let progress ← progress.settle
    .ok (.generate progress.settings (command first second))

def parseFrom (progress : Progress) : List String → Except UsageFault Request
  | [] => .error .missingCommand
  | word :: rest =>
    if isOption word then
      match option progress word with
      | .error fault => .error fault
      | .ok (.done request) => .ok request
      | .ok (.more progress) => parseFrom progress rest
      | .ok (.value progress setting) =>
        match rest with
        | [] => .error (.missingValue setting)
        | value :: rest =>
          if isOption value then .error (.missingValue setting)
          else
            match progress.addLater setting value with
            | .error fault => .error fault
            | .ok progress => parseFrom progress rest
    else if word = "sources" then withOperands progress true .sources rest
    else if word = "template" then withOperands progress false .template rest
    else if word = "help" then helpCommand rest
    else .error (.unknownCommand word)

def parse (words : List String) : Except UsageFault Request := parseFrom .start words

def config (settings : List (Setting × String)) (command : Command) :
    Except Generation.Error Generation.Config :=
  let base := Generation.Config.ofSchemaPath
    ((settings.lookup Setting.schema).getD Generation.Config.defaultSchemaPath)
  let base := match command with
    | .sources headerDirectory sourceDirectory => base.addSources headerDirectory sourceDirectory
    | .template name pattern => base.addArtifact ⟨name, pattern⟩
  let base := { base with templateDirectory := settings.lookup Setting.templateDirectory }
  let base := match settings.lookup Setting.namespaceName with
    | some name => base.setNamespace name
    | none => base
  let base := match settings.lookup Setting.includePrefix with
    | some path => base.setIncludePrefix path
    | none => base
  base.check

inductive Outcome where
  | success
  | failed (error : Generation.Error)
  | usage (fault : UsageFault)
  deriving DecidableEq, Repr

namespace Outcome

def exitCode : Outcome → Nat
  | .success => 0
  | .failed _ => 1
  | .usage _ => 2

def report? : Outcome → Option String
  | .failed error => some s!"sqgen: {error.message}"
  | _ => none

end Outcome

def invoke (store : Store) (words : List String) : Store × Outcome :=
  match parse words with
  | .error fault => (store, .usage fault)
  | .ok .help => (store, .success)
  | .ok .version => (store, .success)
  | .ok (.generate settings command) =>
    match config settings command with
    | .error error => (store, .failed error)
    | .ok config =>
      match Generation.run store config with
      | (store, .ok _) => (store, .success)
      | (store, .error error) => (store, .failed error)

end FieldTypes.CommandLine
