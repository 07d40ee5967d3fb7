import MockApi.Command.Listing
import MockApi.Output.ManifestFault
import MockApi.Pattern.Matcher
import MockApi.Reference.Response
import MockApi.Sample.Value

/-! # Generating mock modules

A run writes one module for each selected endpoint into the folder `api` of the output folder, and
the manifest beside it. A module whose file was written by hand, which shows by the missing marker,
is left alone. An output folder is removed before a clean run.
-/

namespace MockApi

/-- The folder of the modules. -/
def moduleFolder : String := "api"

/-- The name of the manifest's file. -/
def manifestFileName : String := "manifest.json"

/-- What a run takes besides the configuration. -/
structure GenerateOptions where
  /-- Whether the output folder is removed first. -/
  clean : Bool := false
  selection : Spec.Selection := {}
deriving DecidableEq, Repr

/-- True of texts that this tool has written. -/
def MockModule.isGenerated (text : String) : Bool := Text.contains marker.toList text.toList

/-- The path name of an endpoint's module. -/
def MockModule.path (outputDir : String) (m : EndpointMock) : String :=
  PathName.join (PathName.join outputDir moduleFolder)
    (moduleFileName m.endpoint.method.lower m.endpoint.path)

/-- The log line about problems with references: how many cannot be followed, and how many are
circular. -/
def Reference.summary (problems : List Problem) : List LogLine :=
  if problems.isEmpty then []
  else
    let circular := (problems.filter Problem.isWarning).length
    [.warn (toString (problems.length - circular) ++ " reference errors and " ++
      toString circular ++ " circular references while resolving schemas")]

/-- The run over endpoints at a moment, with the generator in its first state. -/
def Run.at (now : Sample.Moment) (settings : Settings) (endpoints : List ResolvedEndpoint) :
    Run × List LogLine :=
  let setup : Setup Sample.Seed :=
    ⟨settings, Pattern.searchEngine, now.date.year, Sample.generator now⟩
  let (run, log, _) := setup.run endpoints ⟨Capability.defaultSeed⟩
  (run, log)

namespace Command

/-- True when a file may be written: nothing is there, or this tool has written it. -/
def mayOverwrite (path : String) : Command Bool := do
  if !(← isThere path) then return true
  return MockModule.isGenerated (← read path (.failed .read path))

/-- Writes the module of an endpoint, unless its file was written by hand. True when it is
written. -/
def writeModule (outputDir : String) (m : EndpointMock) : Command Bool := do
  let path := MockModule.path outputDir m
  if ← mayOverwrite path then
    write path (MockModule.render m) (.failed .write path)
    return true
  else
    say [.warn ("Skipping " ++ path ++ ": not generated by openapi-mockgen")]
    return false

/-- Writes the modules of endpoints in order and counts them. -/
def writeEach (outputDir : String) : List EndpointMock → Command Nat
  | [] => return 0
  | m :: rest => do
    let written ← writeModule outputDir m
    let count ← writeEach outputDir rest
    return if written then count + 1 else count

/-- Writes the modules of a run and counts them. -/
def writeModules (outputDir : String) (run : Run) : Command Nat := do
  let folder := PathName.join outputDir moduleFolder
  makeFolders folder (.failed .create folder)
  writeEach outputDir run.endpoints

/-- The manifest that is there, if it can be read as one. -/
def earlierManifest (path : String) : Command (Option Manifest) := do
  if !(← isThere path) then return none
  match Manifest.ofText (← read path .files) with
  | .ok m => return some m
  | .error fault =>
    say [.warn ("The existing " ++ manifestFileName ++ " is corrupted (" ++ fault ++
      "), falling back to overwriting the old file content")]
    return none

/-- Writes the manifest of a run, which keeps the entries of endpoints that are not in the run. -/
def writeManifest (outputDir : String) (run : Run) : Command Manifest := do
  let path := PathName.join outputDir manifestFileName
  let earlier ← earlierManifest path
  let manifest := (Manifest.ofRun run).keeping (earlier.getD {})
  makeFolders outputDir .files
  replace path manifest.toJson.pretty .files
  return manifest

/-- Removes the output folder. -/
def cleanOutput (outputDir : String) : Command Unit := do
  if ← isThere outputDir then
    change (.failed .remove outputDir) (.removeFolder ((← get).tree.locate outputDir))
  else say [.warn (outputDir ++ " not found")]

/-- Generates the modules and the manifest of the configured document. -/
def generate (now : Sample.Moment) (settingsPath : String) (o : GenerateOptions) :
    Command Run := do
  let s ← Settings.load settingsPath
  let outputDir := besideSettings settingsPath s.outputDir
  if o.clean then cleanOutput outputDir
  let d ← documentOf settingsPath s
  let selected := o.selection.apply d.endpoints
  if selected.isEmpty then
    say [.warn "No endpoints matched, nothing to generate"]
    return {}
  let resolved := Reference.endpoints d.components selected
  say (resolved.findings.map Reference.Finding.line)
  say (Reference.summary resolved.problems)
  let (run, log) := Run.at now s resolved.value
  say log
  let _ ← writeModules outputDir run
  let _ ← writeManifest outputDir run
  say run.mismatches.report
  return run

end Command
end MockApi
