import CryoRig.Settings.Rig
import CryoRig.Settings.Toml.Document
import CryoRig.Settings.Variables

/-!
# Loading settings

Settings come from a file, if there is one, and from environment variables, which are laid over it.

## Main definitions

* `CryoRig.Settings.Rig.load`: the settings in a file and variables.
-/

namespace CryoRig.Settings

/-- Where the settings are looked for. -/
def defaultPath : String := "config/rig.toml"

/-- The tree in the text of a file; a file that is not there has no settings. -/
def fileTree : Option String → Except Problem Node
  | none => .ok (.map [])
  | some text => (Toml.read? text).elim (problem .unreadable) .ok

/-- The settings in the text of a file and in variables. -/
def Rig.load (file : Option String) (environment : List (String × String)) :
    Except Problem Rig := do
  Rig.ofNode ((← fileTree file).merge (Variables.read environment))

end CryoRig.Settings
