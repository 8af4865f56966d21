import StyleTokens.Config.Json
import StyleTokens.Config.Yaml
import StyleTokens.Log
import StyleTokens.Path
import StyleTokens.Text.Quoted

namespace StyleTokens

inductive FileContent where
  | notAFile
  | unreadable
  | text (content : String)
deriving DecidableEq, Repr

abbrev Files := String → FileContent

def FileContent.isFile : FileContent → Bool
  | .notAFile => false
  | .unreadable | .text _ => true

def FileContent.ofBytes (bytes : ByteArray) : FileContent :=
  match String.fromUTF8? bytes with
  | some content => .text content
  | none => .unreadable

inductive ConfigError where
  | io (context : Option String)
  | json
  | yaml
  | notFound (path : String)
deriving DecidableEq, Repr

def ConfigError.message : ConfigError → String
  | .io context => "IO error: " ++ context.getD "IO operation failed"
  | .json => "JSON error: JSON operation failed"
  | .yaml => "YAML error: YAML operation failed"
  | .notFound path => "Config file not found: " ++ Text.quote path

namespace Config

def defaultFile : String := "tokens.config.json"

-- A given path is taken from the project's directory unless it is absolute.
def pathFor (directory : String) (given : Option String) : String :=
  Path.join directory (given.getD defaultFile)

def isYaml (path : String) : Bool :=
  match Path.extension? path with
  | some extension =>
    let lower := extension.toList.map Char.toLower
    lower == "yaml".toList || lower == "yml".toList
  | none => false

def loadAt (files : Files) (path : String) : Except ConfigError Config :=
  match files path with
  | .notAFile => .error (.notFound path)
  | .unreadable => .error (.io (some ("Failed to read config file " ++ path)))
  | .text content =>
    if isYaml path then (ofYamlText? content).elim (.error .yaml) .ok
    else (ofJsonText? content).elim (.error .json) .ok

def loadProject (files : Files) (directory : String) (given : Option String) : Option Config × LogLine :=
  let path := pathFor directory given
  if (files path).isFile then
    match loadAt files path with
    | .ok config => (some config, .info ("Loaded token config from " ++ path))
    | .error problem =>
      (none, .error ("Failed to load token config " ++ path ++ ": " ++ problem.message ++
        ", token features are disabled"))
  else (none, .warn ("No token config found at " ++ path ++ ", token features are disabled"))

end Config

end StyleTokens
