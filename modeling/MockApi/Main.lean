import MockApi.Command.Program

/-! # Running the program

The outer layer. It brings the files that a request looks at into a tree, carries the request out
there, and makes the changes again on the files themselves. All decisions are made there. Nothing is
asked of the web from here: to this program no text is an address.
-/

namespace MockApi.Shell

/-- The path name of a place. -/
def pathName (place : Place) : String := "/" ++ "/".intercalate place

/-- True when a folder is at a place. -/
def isFolder (place : Place) : IO Bool :=
  try
    let _ ← IO.FS.realPath (pathName place ++ "/.")
    return true
  catch _ => return false

/-- True when anything is at a place. -/
def isThere (place : Place) : IO Bool :=
  try
    let _ ← IO.FS.realPath (pathName place)
    return true
  catch _ => return false

/-- The text of the file at a place, if it can be read as one. -/
def text? (place : Place) : IO (Option String) :=
  try return some (← IO.FS.readFile (pathName place))
  catch _ => return none

/-- Brings what is at a place into a tree, with the folders on the way. A file that cannot be read
as a text stands in the tree as a place that is there and has no text. Where no text is asked for, a
file has an empty one. -/
def look (tree : FileTree) (place : Place) (read : Bool := true) : IO FileTree := do
  let mut tree := tree
  for folder in FileTree.above place ++ [place] do
    if !tree.isFolder folder then
      if ← isFolder folder then tree := { tree with folders := tree.folders ++ [folder] }
  if !tree.isFolder place then
    if ← isThere place then
      match ← if read then text? place else pure (some "") with
      | some text => tree := tree.put place text
      | none => tree := { tree with folders := tree.folders ++ [place] }
  return tree

/-- True of requests that read files. -/
def readsFiles : CommandRequest → Bool
  | .init _ => false
  | _ => true

/-- The places that a request looks at, as far as a tree tells. -/
def placesOf (settingsPath : String) (request : CommandRequest) (tree : FileTree) : List Place :=
  match request, ((Settings.load settingsPath).runOn tree).1 with
  | .init _, _ | _, .error _ => []
  | _, .ok s =>
    let outputDir := besideSettings settingsPath s.outputDir
    [besideSettings settingsPath s.specPath, outputDir, PathName.join outputDir moduleFolder,
      PathName.join outputDir manifestFileName].map tree.locate

/-- The places that changes write to. -/
def writtenPlaces (changes : List FileChange) : List Place :=
  changes.filterMap fun
    | .write place _ => some place
    | _ => none

/-- A tree with all that a command line looks at. -/
def snapshot (now : Sample.Moment) (inherited : Option String) (line : CommandLine) :
    IO FileTree := do
  let home := PathName.segments (← IO.FS.realPath ".").toString
  let mut tree ← look { home } home
  if let .request settingsPath request := line then
    let read := readsFiles request
    tree ← look tree (tree.locate settingsPath) read
    for place in placesOf settingsPath request tree do tree ← look tree place
    for place in writtenPlaces (line.perform now inherited tree).2.changes do
      tree ← look tree place read
  return tree

/-- Makes a change on the files. -/
def make : FileChange → IO Unit
  | .write place text => IO.FS.writeFile (pathName place) text
  | .move source target => IO.FS.rename (pathName source) (pathName target)
  | .makeFolders place => IO.FS.createDirAll (pathName place)
  | .removeFolder place => IO.FS.removeDirAll (pathName place)

/-- The current moment, by the time stamp of a new file. -/
def now : IO Sample.Moment := do
  let (_, path) ← IO.FS.createTempFile
  let stamp := (← path.metadata).modified
  IO.FS.removeFile path
  return ⟨stamp.sec.toNat * 1000 + stamp.nsec.toNat / 1000000⟩

/-- Runs the program and gives the code that it ends with. -/
def run (arguments : List String) : IO UInt32 := do
  let inherited ← IO.getEnv "OPENAPI_MOCKGEN_CONFIG"
  let line := CommandLine.read inherited arguments
  let moment ← now
  let (outcome, world) := line.perform moment inherited (← snapshot moment inherited line)
  world.changes.forM make
  world.log.forM fun l => IO.eprintln l.render
  match outcome with
  | .finished lines => lines.forM fun l => IO.println l
  | .failed e => e.lines.forM fun l => IO.eprintln l
  | .refused =>
    IO.eprintln "error: the arguments are not understood\n\nFor more information, try '--help'."
  return outcome.code.toUInt32

end MockApi.Shell

/-- The program. -/
def main (arguments : List String) : IO UInt32 := MockApi.Shell.run arguments
