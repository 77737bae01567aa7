import ImpactGraph.FileTree
import ImpactGraph.Lenient.Checked
import ImpactGraph.Number.Length
import ImpactGraph.Settings.Basic

/-!
# The library that makes settings

Settings are made by a constructor that is no part of this project. It is given arguments
by name, and what they leave open it takes from the environment and from wherever else it
looks. Arguments can be settings, sections of settings as tables, or parameters of the
constructor itself, which say how and where it looks: what the names of variables start
with, or which further file is read. Here the library is anything that has such a
constructor, and its parts are those that its documentation speaks of.
-/

namespace ImpactGraph

open Text

/-- The environment: names and values. -/
abbrev Environment := List (Text × Text)

/-- Why settings cannot be loaded. -/
inductive SettingsError where
  /-- There is no telling which directory is the home directory. -/
  | noHome
  | notToml (path : Text)
  /-- The file has an integer of so many digits. -/
  | longNumber (digits : Nat)
  | unreadable (file : Unreadable)
  | notUtf8 (fault : Text.Fault)
  | environment (name : Text)
  | faults (faults : List Lenient.Fault)

namespace SettingsError

/-- What is said about settings that cannot be loaded. -/
def message : SettingsError → Text
  | noHome => "Could not determine home directory.".toList
  | notToml path => "Invalid TOML in ".toList ++ path
  | longNumber digits => Number.tooLong digits
  | unreadable file => file.message
  | notUtf8 fault => fault.message
  | environment name =>
    "error parsing value for field \"".toList ++ name ++
      "\" from source \"EnvSettingsSource\"".toList
  | faults list =>
    ofNat list.length ++ (if list.length = 1 then " validation error" else
      " validation errors").toList

end SettingsError

namespace Settings

/-- What makes settings of data. -/
structure Library where
  /-- Whether a name is that of a parameter of the constructor itself, and of no
  setting. -/
  isParameter : Text → Bool
  /-- What the arguments of the constructor say about the settings. -/
  arguments : List (Text × Value) → List (Text × Value)
  /-- What the variables of an environment say about the settings, if no argument asks for
  another way to read them. -/
  ofEnvironment : Environment → Except SettingsError (List (Text × Value))
  /-- What the text of a setting's own variable stands for. -/
  decode : Setting → Text → Option Value
  /-- What a setting is made of a value. -/
  parse : (x : Setting) → Value → Option x.Kind
  /-- What all settings are made of data that hold the sections as tables. -/
  validate : List (Text × Value) → Except SettingsError Settings
  /-- What the constructor makes of its arguments, where there are such files and such an
  environment. -/
  construct : Workspace → Environment → List (Text × Value) →
    Except SettingsError Settings

end Settings

end ImpactGraph
