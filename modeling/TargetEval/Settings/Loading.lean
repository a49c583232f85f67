import TargetEval.Settings.Document
import TargetEval.Settings.Basic

set_option autoImplicit false

namespace TargetEval

abbrev Files := String → Option String

namespace Settings

def readFile (files : Files) (path : String) : Except Error SettingsLayer :=
  match files path with
  | none => .error (.configuration ("Failed to read config file " ++ path))
  | some text =>
      match SettingsLayer.read? text with
      | none => .error (.configuration ("Failed to parse config file " ++ path))
      | some layer => .ok layer

def merge (file? : Option SettingsLayer) (env : Environment) : Settings :=
  (env.settings.above (file?.getD SettingsLayer.empty)).settings

def load (files : Files) (path? : Option String) (env : Environment) : Except Error Settings := do
  let file? ← path?.mapM (readFile files)
  return merge file? env

def loadValid (files : Files) (path? : Option String) (env : Environment) : Except Error Settings := do
  let settings ← load files path? env
  settings.check
  return settings

end Settings

end TargetEval
