import MockApi.Command.HelpPage

/-! # The program

A command line is read and carried out on a tree of files beside a web. The program ends with lines
of output, with the error of a command, or by refusing the command line.
-/

namespace MockApi

/-- How the program ends. -/
inductive Outcome where
  | finished (lines : List String)
  | failed (error : CommandError)
  | refused
deriving DecidableEq, Repr

/-- The code that the program ends with. -/
def Outcome.code : Outcome → Nat
  | .finished _ => 0
  | .failed _ => 1
  | .refused => 2

/-- What lies below a problem with a document, in a few words. -/
def Spec.ParseError.words (e : Spec.ParseError) : String :=
  e.message?.getD (match e with
    | .json => "JSON parse error"
    | .yaml => "YAML parse error"
    | .invalidAddress => "Invalid URL"
    | _ => "IO error")

namespace CommandError

/-- The first words about an error. -/
def words (e : CommandError) : String :=
  e.message?.getD (match e with
    | .settingsUnreadable .json => "Serialization error"
    | .settingsUnreadable .yaml => "YAML error"
    | _ => "IO error")

/-- What lies below an error. -/
def cause? : CommandError → Option String
  | .failed _ _ cause => some cause
  | .spec _ cause => some cause.words
  | _ => none

/-- The lines about an error. -/
def lines (e : CommandError) : List String :=
  ("Error: " ++ e.words) :: match e.cause? with
    | some cause => ["", "Caused by:", "    " ++ cause]
    | none => []

end CommandError

namespace CommandRequest

/-- Carries out a request and gives the lines of its output. -/
def perform (now : Sample.Moment) (settingsPath : String) : CommandRequest → Command (List String)
  | .init options => do
    let _ ← Command.init settingsPath options
    return []
  | .list => do
    let groups ← Command.list settingsPath
    return groups.flatMap fun (label, titles) => label :: titles.map ("  " ++ ·)
  | .generate options => do
    let _ ← Command.generate now settingsPath options
    return []

end CommandRequest

namespace CommandLine

/-- Carries out what a command line asks for. -/
def perform (now : Sample.Moment) (inherited : Option String) (line : CommandLine)
    (tree : FileTree) (web : Web := .none) : Outcome × World :=
  match line with
  | .refused => (.refused, { tree, web })
  | .version => (.finished [programName ++ " " ++ programVersion], { tree, web })
  | .help topic => (.finished (HelpPage.lines inherited topic), { tree, web })
  | .request settingsPath work =>
    match (work.perform now settingsPath).runOn tree web with
    | (.ok lines, world) => (.finished lines, world)
    | (.error e, world) => (.failed e, world)

end CommandLine
end MockApi
