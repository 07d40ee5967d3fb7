import MockApi.Command.Basic
import MockApi.Mock.Settings
import MockApi.Yaml.Printer

/-! # Configuration files

A configuration is kept in one file, as YAML when its name ends in `.yaml` or `.yml` and as JSON
otherwise. The paths in it start from the folder that holds the file.
-/

namespace MockApi

/-- The name of the file where a configuration is looked for. -/
def settingsFileName : String := "openapi-mockgen.config.json"

/-- The format that the name of a file stands for. -/
def SettingsFormat.ofPath (path : String) : SettingsFormat :=
  match PathName.extension? path with
  | some "yaml" | some "yml" => .yaml
  | _ => .json

namespace Settings

/-- The text of a configuration. -/
def toText (s : Settings) : SettingsFormat → String
  | .json => s.toJson.pretty
  | .yaml => Yaml.print s.toJson

/-- The configuration of a text. -/
def ofText? (text : String) : SettingsFormat → Option Settings
  | .json => (Node.readJson text).toOption.bind ofDocument?
  | .yaml => (Yaml.read? text).bind ofDocument?

/-- Reads a configuration from its file. -/
def load (path : String) : Command Settings := do
  if !(← Command.isThere path) then throw (.settingsMissing path)
  let text ← Command.read path .files
  let format := SettingsFormat.ofPath path
  match ofText? text format with
  | some s => return s
  | none => throw (.settingsUnreadable format)

/-- Writes a configuration to a file. -/
def save (s : Settings) (path : String) (error : CommandError) : Command Unit :=
  Command.replace path (s.toText (.ofPath path)) error

end Settings

/-- True of addresses on the web. -/
def isWebAddress (path : String) : Bool :=
  "http://".toList.isPrefixOf path.toList || "https://".toList.isPrefixOf path.toList

/-- A path of a configuration as seen from where its file is seen from. Web addresses and absolute
paths stand for themselves. -/
def besideSettings (settingsPath path : String) : String :=
  if isWebAddress path || PathName.isAbsolute path then path
  else match PathName.parent? settingsPath with
    | some folder => if folder.isEmpty then path else PathName.join folder path
    | none => path

/-- What a new configuration is made from. -/
structure InitOptions where
  specPath : String
  outputDir : String := ".mocks"
  baseUrl : Option String := none
  arrayLength : Nat := 5
  dynamic : Bool := false
  /-- Whether a configuration that is there may be replaced. -/
  force : Bool := false
deriving DecidableEq, Repr

/-- The configuration that options ask for. -/
def InitOptions.settings (o : InitOptions) : Settings where
  specPath := o.specPath
  outputDir := o.outputDir
  baseUrl := o.baseUrl
  arrayLength := o.arrayLength
  dynamic := o.dynamic

/-- Writes a new configuration. -/
def Command.init (path : String) (o : InitOptions) : Command Settings := do
  if (← Command.isThere path) && !o.force then throw (.settingsPresent path)
  o.settings.save path (.failed .write path)
  return o.settings

end MockApi
