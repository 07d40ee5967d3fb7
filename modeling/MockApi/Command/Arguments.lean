import MockApi.Command.Generate

/-! # Command lines

A command line has two levels: the options of the program and, after the name of a command, those
of the command. An option with a value is written `--name value` or `--name=value`, a switch
`--name`; a value starts with a dash only after an equals sign, unless the dash is all of it.
Nothing may be given twice at one level. The configuration can be named at both levels, and the
command's own choice wins.

A question for help or for the version is answered where it stands, if all before it can be taken.
-/

namespace MockApi

/-- The commands. -/
inductive CommandName where
  | init
  | list
  | generate
deriving DecidableEq, Repr

namespace CommandName

/-- All commands, in the order in which they are told about. -/
def all : List CommandName := [.init, .list, .generate]

/-- The word for a command. -/
def word : CommandName → String
  | .init => "init"
  | .list => "list"
  | .generate => "generate"

/-- The command that a word stands for. -/
def ofWord? (w : String) : Option CommandName := List.find? (fun c => c.word == w) all

end CommandName

/-- The levels of a command line. -/
inductive CommandLevel where
  | program
  | command (name : CommandName)
deriving DecidableEq, Repr

/-- An option or switch. -/
structure ArgumentRule where
  name : String
  about : String
  /-- What a help page writes for the value; switches have none. -/
  valueName : Option String := none
  /-- The value that is taken when none is given. -/
  standard : Option String := none
  /-- The name of the variable of the environment that can hold the value. -/
  source : Option String := none
  isRequired : Bool := false
  accepts : String → Bool := fun _ => true

/-- A length as it is written on a command line: digits, with a plus sign or without. -/
def readLength? (text : String) : Option Nat :=
  let digits := match text.toList with
    | '+' :: rest => rest
    | cs => cs
  if digits.isEmpty || !digits.all Char.isDigit then none
  else
    let n := digits.foldl (fun n c => 10 * n + (c.toNat - '0'.toNat)) 0
    if n < twoTo 64 then some n else none

namespace ArgumentRule

/-- Where the configuration is. -/
def config : ArgumentRule where
  name := "config"
  about := "Config file location"
  valueName := some "CONFIG"
  standard := some settingsFileName
  source := some "OPENAPI_MOCKGEN_CONFIG"
  accepts path := !path.isEmpty

/-- Where the API document is. -/
def specPath : ArgumentRule where
  name := "spec-path"
  about := "Local path or http(s) URL of the OpenAPI spec"
  valueName := some "SPEC_PATH"
  isRequired := true

/-- Where modules are written. -/
def outputDir : ArgumentRule where
  name := "output-dir"
  about := "Directory receiving mock modules and the manifest"
  valueName := some "OUTPUT_DIR"
  standard := some ".mocks"

/-- The address that mocks are served at. -/
def baseUrl : ArgumentRule where
  name := "base-url"
  about := "Base URL served by the mock server"
  valueName := some "BASE_URL"

/-- How many items an array gets. -/
def arrayLength : ArgumentRule where
  name := "array-length"
  about := "Number of items generated for arrays"
  valueName := some "ARRAY_LENGTH"
  standard := some "5"
  accepts text := (readLength? text).isSome

/-- Whether values are made up when a module runs. -/
def dynamic : ArgumentRule where
  name := "dynamic"
  about := "Emit faker source instead of static values"

/-- Whether a configuration that is there may be replaced. -/
def force : ArgumentRule where
  name := "force"
  about := "Overwrite an existing config file"

/-- Whether the output folder is removed first. -/
def clean : ArgumentRule where
  name := "clean"
  about := "Remove the output directory first"

/-- Which groups are taken. -/
def group : ArgumentRule where
  name := "group"
  about := "Only groups whose label contains this"
  valueName := some "GROUP"

/-- Which paths are taken. -/
def path : ArgumentRule where
  name := "path"
  about := "Only endpoints whose path contains this"
  valueName := some "PATH"

end ArgumentRule

/-- The values of one level by name, as they were given; that of a switch is empty. -/
abbrev GivenArguments := List (String × String)

namespace CommandLevel

open ArgumentRule in
/-- The options and switches of a level, in the order of its help page. -/
def rules : CommandLevel → List ArgumentRule
  | .program => [config]
  | .command .init => [config, specPath, outputDir, baseUrl, arrayLength, dynamic, force]
  | .command .list => [config]
  | .command .generate => [clean, config, group, path]

/-- The rule for a name. -/
def rule? (level : CommandLevel) (name : String) : Option ArgumentRule :=
  List.find? (fun r => r.name == name) level.rules

/-- True when nothing is given twice and every value can be taken. -/
def isSound (level : CommandLevel) (given : GivenArguments) : Bool :=
  let names := given.map Prod.fst
  names.eraseDups.length == names.length &&
    given.all fun (name, value) => (level.rule? name).any fun r => r.accepts value

/-- True when a level's required options are given. -/
def isComplete (level : CommandLevel) (given : GivenArguments) : Bool :=
  level.rules.all fun r => !r.isRequired || (given.lookup r.name).isSome

end CommandLevel

/-- The forms of an argument. -/
inductive ArgumentForm where
  /-- Two dashes alone, after which there are no options. -/
  | stop
  | long (name : String) (value : Option String)
  /-- One dash with a letter; what follows the letter does not matter. -/
  | short (letter : Char)
  | word
deriving DecidableEq, Repr

/-- The form of an argument. -/
def ArgumentForm.ofText (text : String) : ArgumentForm :=
  match text.toList with
  | ['-', '-'] => .stop
  | '-' :: '-' :: rest =>
    let name := rest.takeWhile (· != '=')
    match rest.drop name.length with
    | _ :: value => .long (String.ofList name) (some (String.ofList value))
    | [] => .long (String.ofList name) none
  | '-' :: letter :: _ => .short letter
  | _ => .word

/-- How the reading of a level ends. -/
inductive LevelEnd where
  | finished (given : GivenArguments)
  /-- A word that is no option, and what follows it. -/
  | word (given : GivenArguments) (word : String) (rest : List String)
  | help
  | version
  | refused
deriving DecidableEq, Repr

/-- What an argument means for the level that it stands at. -/
inductive ArgumentMeaning where
  | ends (ending : LevelEnd)
  | gives (name value : String)
  /-- An option whose value is the next argument. -/
  | asks (name : String)
deriving DecidableEq, Repr

namespace CommandLevel

/-- How a question ends the reading; nothing for other arguments. -/
def question? (level : CommandLevel) : ArgumentForm → Option LevelEnd
  | .short 'h' | .long "help" none => some .help
  | .short 'V' | .long "version" none => if level = .program then some .version else none
  | _ => none

/-- What an argument means after the ones that are given. -/
def meaning (level : CommandLevel) (given : GivenArguments) (argument : String)
    (rest : List String) : ArgumentMeaning :=
  match ArgumentForm.ofText argument with
  | .word => .ends (.word given argument rest)
  | .stop => .ends (if rest.isEmpty then .finished given else .refused)
  | form =>
    if !level.isSound given then .ends .refused
    else match level.question? form with
      | some ending => .ends ending
      | none => match form with
        | .long name attached =>
          match level.rule? name, attached with
          | some r, some value => if r.valueName.isSome then .gives name value else .ends .refused
          | some r, none => if r.valueName.isSome then .asks name else .gives name ""
          | none, _ => .ends .refused
        | _ => .ends .refused

/-- Reads the arguments of a level. -/
def scan (level : CommandLevel) (given : GivenArguments) : List String → LevelEnd
  | [] => .finished given
  | argument :: rest =>
    match level.meaning given argument rest with
    | .ends ending => ending
    | .gives name value => scan level (given ++ [(name, value)]) rest
    | .asks name =>
      match rest with
      | next :: later =>
        if ArgumentForm.ofText next = .word then scan level (given ++ [(name, next)]) later
        else .refused
      | [] => .refused

end CommandLevel

/-- What a command is asked to do. -/
inductive CommandRequest where
  | init (options : InitOptions)
  | list
  | generate (options : GenerateOptions)
deriving DecidableEq, Repr

/-- The subjects of help pages. -/
inductive HelpTopic where
  | program
  | command (name : CommandName)
  | help
deriving DecidableEq, Repr

/-- What a command line asks for. -/
inductive CommandLine where
  | request (settingsPath : String) (request : CommandRequest)
  | help (topic : HelpTopic)
  | version
  | refused
deriving DecidableEq, Repr

/-- The request that the arguments of a command stand for. -/
def CommandName.request? (name : CommandName) (given : GivenArguments) : Option CommandRequest :=
  let value (r : ArgumentRule) : Option String := (given.lookup r.name).or r.standard
  let isOn (r : ArgumentRule) : Bool := (given.lookup r.name).isSome
  match name with
  | .init => do
    return .init {
      specPath := ← value .specPath
      outputDir := ← value .outputDir
      baseUrl := value .baseUrl
      arrayLength := ← (value .arrayLength).bind readLength?
      dynamic := isOn .dynamic
      force := isOn .force }
  | .list => some .list
  | .generate =>
    some (.generate { clean := isOn .clean, selection := ⟨value .group, value .path⟩ })

namespace CommandLine

/-- The path name of the configuration: the command's choice, else the program's, else the one
inherited from the environment, else the usual one. An empty one is refused wherever the environment
would be asked. -/
def settingsPath? (inherited : Option String) (outer inner : GivenArguments) : Option String :=
  let outer := outer.lookup ArgumentRule.config.name
  let inner := inner.lookup ArgumentRule.config.name
  if inherited = some "" && (outer.isNone || inner.isNone) then none
  else (inner.or (outer.or inherited)).or ArgumentRule.config.standard

/-- The help page that words after `help` ask for. -/
def helpOn : List String → CommandLine
  | [] => .help .program
  | ["help"] => .help .help
  | [w] => match CommandName.ofWord? w with
    | some name => .help (.command name)
    | none => .refused
  | _ => .refused

/-- What two levels that are read to their ends ask for. -/
def ofLevels? (inherited : Option String) (outer : GivenArguments) (name : CommandName)
    (inner : GivenArguments) : Option CommandLine := do
  let level := CommandLevel.command name
  if !CommandLevel.program.isSound outer then none
  if !level.isSound inner || !level.isComplete inner then none
  let path ← settingsPath? inherited outer inner
  return .request path (← name.request? inner)

/-- Reads a command line, with the configuration's path name inherited from the environment. -/
def read (inherited : Option String) (arguments : List String) : CommandLine :=
  match CommandLevel.program.scan [] arguments with
  | .word outer w rest =>
    if w = "help" then helpOn rest
    else match CommandName.ofWord? w with
      | none => .refused
      | some name =>
        match (CommandLevel.command name).scan [] rest with
        | .finished inner => (ofLevels? inherited outer name inner).getD .refused
        | .help => .help (.command name)
        | _ => .refused
  | .help => .help .program
  | .version => .version
  | _ => .refused

end CommandLine
end MockApi
