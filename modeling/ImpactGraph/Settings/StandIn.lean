import ImpactGraph.Settings.Check
import ImpactGraph.Settings.Environment

/-!
# A library to run with

What stands in for the library when the program runs. Of the parameters of the constructor
it heeds those that say how variables are read. The sections are named in any case of
letters, the fields of a section exactly as they are.
-/

namespace ImpactGraph.Settings

open Text

/-- What given data say about the settings. Of several spellings of a name that differ in
the case of letters the first counts. -/
def named (given : List (Text × Value)) : List (Text × Value) :=
  names.filterMap fun name =>
    (given.find? (lower ·.1 = name)).map fun field => (name, field.2)

/-- The settings of given data on top of the environment and the defaults. -/
def ofData (env : Environment) (given : List (Text × Value)) :
    Except SettingsError Settings := do
  let below ← (Environment.settings (.ofFields given) env).mapError .environment
  (Settings.check (Environment.mergeFields (named given) below)).mapError .faults

/-- The library that the program runs with. -/
def standIn : Library where
  isParameter key := key.head? = some '_'
  arguments := named
  ofEnvironment env := (Environment.settings {} env).mapError .environment
  decode := Setting.ofVariable? {}
  parse x v := (x.check v).toOption
  validate data := (Settings.check data).mapError .faults
  construct _ env given := ofData env given

end ImpactGraph.Settings
