import CallWire.Config.Document
import CallWire.Config.Environment
import CallWire.Files
/-!
This module contains the loading and saving of settings. The environment has the last word, then a
file that it names, then the defaults.
-/

namespace CallWire

inductive ConfigError where
  | file (path : Path) (fault : FileFault)
  | malformed (path : Path)
  | invalid (fault : SettingsFault)
  deriving DecidableEq, Repr, Inhabited

/-- The text of an error. Of a malformed file it says where, and what is wrong is left open. -/
def ConfigError.message : ConfigError → String
  | .file path fault => "failed to read config file '" ++ path.shown ++ "': " ++ fault.message
  | .malformed path => "failed to parse config file '" ++ path.shown ++ "': "
  | .invalid fault => "configuration validation failed: " ++ fault.message

def Mentions.ofFile (files : FileTree) (path : Path) : Except ConfigError Mentions :=
  match files.readText path with
  | .error fault => .error (.file path fault)
  | .ok text =>
    match Mentions.ofYaml? text with
    | none => .error (.malformed path)
    | some m => .ok m

namespace Settings

def ofFile (files : FileTree) (path : Path) : Except ConfigError Settings :=
  (Mentions.ofFile files path).map ({} : Settings).override

def load (env : Environment) (files : FileTree) : Except ConfigError Settings :=
  let base : Except ConfigError Settings :=
    match env.configPath? with
    | none => .ok {}
    | some path => ofFile files path
  base.map (·.override env.mentions)

def save (s : Settings) (files : FileTree) (path : Path) : Except ConfigError FileTree :=
  match s.toYaml? with
  | none => .error (.malformed path)
  | some text => (files.writeText path text).mapError (.file path)

end Settings
end CallWire
