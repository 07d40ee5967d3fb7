import MockApi.Command.Web
import MockApi.Files.Tree
import MockApi.Log

/-! # Commands

A command changes a tree of files, writes log lines and ends with an answer or an error. It may ask
the web, which stays as it is. What it has done before an error stays done. The changes are kept in
order, so that they can be made on the files that the tree stands for.
-/

namespace MockApi

/-- How a configuration is written. -/
inductive SettingsFormat where
  | json
  | yaml
deriving DecidableEq, Repr

/-- What a command does to a file, a folder or a document when it fails with words of its own. -/
inductive FileAction where
  | write
  | read
  | create
  | remove
  | load
deriving DecidableEq, Repr

/-- The word for an action. -/
def FileAction.word : FileAction → String
  | .write => "write"
  | .read => "read"
  | .create => "create"
  | .remove => "remove"
  | .load => "load spec"

/-- Why a command ends without an answer. -/
inductive CommandError where
  | settingsMissing (path : String)
  /-- A configuration that cannot be read. -/
  | settingsUnreadable (format : SettingsFormat)
  | settingsPresent (path : String)
  /-- An action that the command tells about, with what lies below. -/
  | failed (action : FileAction) (path : String) (cause : String := "IO error")
  /-- An access to files that failed without further words. -/
  | files
  | spec (path : String) (cause : Spec.ParseError)
deriving DecidableEq, Repr

/-- The wording of an error, as far as it is fixed. -/
def CommandError.message? : CommandError → Option String
  | .settingsMissing path =>
    some ("Config file not found at " ++ path ++
      ", please run \x60openapi-mockgen init\x60 to create one")
  | .settingsUnreadable _ => none
  | .settingsPresent path => some (path ++ " already exists, pass --force to overwrite it")
  | .failed action path _ => some ("Failed to " ++ action.word ++ " " ++ path)
  | .files => none
  | .spec path _ => some ("Failed to load spec " ++ path)

/-- What commands work on. -/
structure World where
  tree : FileTree
  web : Web := .none
  log : List LogLine := []
  /-- The changes made to the tree so far. -/
  changes : List FileChange := []

/-- A computation of a command. -/
abbrev Command (α : Type) : Type := ExceptT CommandError (StateM World) α

namespace Command

/-- Writes lines to the log. -/
def say (lines : List LogLine) : Command Unit := modify fun w => { w with log := w.log ++ lines }

/-- True when a path name ends in a slash, which only folders may. -/
def asksFolder (path : String) : Bool := path.toList.getLast? = some '/'

/-- True when something is at a path name. Below a file there is nothing to ask for. -/
def isThere (path : String) : Command Bool := do
  let t := (← get).tree
  let place := t.locate path
  if path.isEmpty then return false
  else if asksFolder path && t.isFile place then throw .files
  else match t.holds? place with
    | some there => return there
    | none => throw .files

/-- The text of a file, if it can be read. -/
def text? (path : String) : Command (Option String) := do
  let t := (← get).tree
  return if path.isEmpty || asksFolder path then none else t.text? (t.locate path)

/-- The text of a file, or the error given. -/
def read (path : String) (error : CommandError) : Command String := do
  match ← text? path with
  | some text => return text
  | none => throw error

/-- Makes a change, or ends with the error given. -/
def change (error : CommandError) (c : FileChange) : Command Unit := do
  match (← get).tree.after? c with
  | some tree => modify fun w => { w with tree, changes := w.changes ++ [c] }
  | none => throw error

/-- Writes a file. -/
def write (path text : String) (error : CommandError) : Command Unit := do
  if path.isEmpty || asksFolder path then throw error
  change error (.write ((← get).tree.locate path) text)

/-- Writes a file by way of one beside it, which then takes its place. -/
def replace (path text : String) (error : CommandError) : Command Unit := do
  let beside := PathName.withExtension path "tmp"
  write beside text error
  let t := (← get).tree
  change error (.move (t.locate beside) (t.locate path))

/-- Makes a folder and those around it. -/
def makeFolders (path : String) (error : CommandError) : Command Unit := do
  change error (.makeFolders ((← get).tree.locate path))

/-- Runs a command on a tree of files, beside a web. -/
def runOn {α : Type} (c : Command α) (tree : FileTree) (web : Web := .none) :
    Except CommandError α × World :=
  (ExceptT.run c).run { tree, web }

end Command
end MockApi
