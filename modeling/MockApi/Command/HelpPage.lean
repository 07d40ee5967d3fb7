import MockApi.Command.Arguments

/-! # Help pages

A page tells what its subject is for, how it is called, and has tables of commands, words and
options. A line has at most 100 columns as long as words allow. A description stands beside what it
describes; where the left side of a table is wide and a description would have to be broken, all
descriptions of the table stand on lines of their own.
-/

namespace MockApi

/-- The name of the program. -/
def programName : String := "openapi-mockgen"

/-- The version of the program. -/
def programVersion : String := "0.1.0"

/-- The purpose of a command. -/
def CommandName.about : CommandName → String
  | .init => "Create the config file"
  | .list => "List endpoint groups of the configured spec"
  | .generate => "Generate mock modules and the manifest"

namespace ArgumentRule

/-- An option as its name and what stands for its value. -/
def form (r : ArgumentRule) : String :=
  "--" ++ r.name ++ (r.valueName.map fun v => " <" ++ v ++ ">").getD ""

/-- The description of an option, with the variable it can come from and its standard value. -/
def description (inherited : Option String) (r : ArgumentRule) : String :=
  let source := r.source.map fun name => " [env: " ++ name ++ "=" ++ inherited.getD "" ++ "]"
  let standard := r.standard.map fun v => " [default: " ++ v ++ "]"
  r.about ++ source.getD "" ++ standard.getD ""

end ArgumentRule

namespace HelpPage

/-- The columns of a line. -/
def width : Nat := 100

/-- Spaces. -/
def spaces (n : Nat) : String := String.ofList (List.replicate n ' ')

/-- Lines of at most a number of columns, as long as words allow. -/
def fill (columns : Nat) (text : String) : List String :=
  let step (lines : List String) (word : String) : List String :=
    match lines with
    | [] => [word]
    | line :: done =>
      if line.length + 1 + word.length ≤ columns then (line ++ " " ++ word) :: done
      else word :: lines
  ((Text.split ' ' text).foldl step []).reverse

/-- A table whose right side starts at the same column in all rows. -/
def beside (rows : List (String × String)) : List String :=
  let column := (rows.map fun r => r.1.length).foldl max 0 + 2
  rows.flatMap fun (left, right) =>
    match fill (width - column) right with
    | first :: rest =>
      (left ++ spaces (column - left.length) ++ first) :: rest.map (spaces column ++ ·)
    | [] => [left]

/-- A table whose right side stands below the left one. -/
def below (rows : List (String × String)) : List String :=
  rows.flatMap fun (left, right) => left :: (fill (width - 10) right).map (spaces 10 ++ ·)

/-- A table of options. -/
def options (rows : List (String × String)) : List String :=
  let taken := (rows.map fun r => r.1.length).foldl max 0 + 6
  let isBroken := rows.any fun r => width < taken + r.2.length
  if 40 < taken && isBroken then below rows else beside rows

/-- The tables of a page, each under its title. -/
def tables (inherited : Option String) : HelpTopic → List (String × List String)
  | .program =>
    let commands := CommandName.all.map fun c => ("  " ++ c.word, c.about)
    [("Commands:", beside (commands ++
        [("  help", "Print this message or the help of the given subcommand(s)")])),
      ("Options:", options (rows .program ++ [("  -V, --version", "Print version")]))]
  | .command name => [("Options:", options (rows (.command name)))]
  | .help => [("Arguments:", beside [("  [COMMAND]...", "Print help for the subcommand(s)")])]
where
  rows (level : CommandLevel) : List (String × String) :=
    (level.rules.map fun r => ("      " ++ r.form, r.description inherited)) ++
      [("  -h, --help", "Print help")]

/-- The purpose of a page's subject. -/
def about : HelpTopic → String
  | .program => "Generate mock data from OpenAPI v3 response schemas"
  | .command name => name.about
  | .help => "Print this message or the help of the given subcommand(s)"

/-- What follows the program's name in a call. -/
def usage : HelpTopic → String
  | .program => " [OPTIONS] <COMMAND>"
  | .command name =>
    let required := (CommandLevel.command name).rules.filter ArgumentRule.isRequired
    " " ++ name.word ++ " [OPTIONS]" ++ String.join (required.map fun r => " " ++ r.form)
  | .help => " help [COMMAND]..."

/-- The lines of a page, with the configuration's path name inherited from the environment. -/
def lines (inherited : Option String) (topic : HelpTopic) : List String :=
  [about topic, "", "Usage: " ++ programName ++ usage topic] ++
    (tables inherited topic).flatMap fun (title, table) => "" :: title :: table

end HelpPage
end MockApi
