import ImpactGraph.Settings.Library
import ImpactGraph.Toml.Reader

/-!
# Loading settings

Each setting comes from the settings file if the file gives it, else from the environment,
else it has its default. The file is the first that exists of the one that was named, the
one of the working directory and the one of the home directory; the others are not read.
All that stands at the top of the file becomes an argument of the constructor that makes
the settings, whatever its name is.
-/

namespace ImpactGraph

open Text

namespace Settings

/-- The home directory of a user: the top when nothing is left without the slashes at the
end; none when the place is said in terms of a home directory itself. -/
def homeDirectory? (home : Text) : Option Text :=
  match dropWhileEnd (· = '/') home with
  | [] => some ['/']
  | '~' :: _ => none
  | path => some path

/-- The settings files that may exist, the preferred one first. -/
def locations (cwd home : Text) (named : Option Text) : List Text :=
  (named.map Path.tidy).toList ++
    [Path.tidy (Path.join cwd Path.settingsName),
      Path.tidy (Path.join home Path.settingsName)]

/-- The version of the program's own table counts when there is none at the top. -/
def withVersion (fields : List (Text × Value)) : List (Text × Value) :=
  let rest := fields.filter (·.1 ≠ "depscope".toList)
  match fields.lookup "depscope".toList with
  | some (.table own) =>
    match own.lookup "version".toList, rest.lookup "version".toList with
    | some v, none => rest ++ [("version".toList, v)]
    | _, _ => rest
  | _ => rest

/-- The data of a settings file. -/
def readFile (w : Workspace) (path : Text) : Except SettingsError (List (Text × Value)) :=
  match w.read path with
  | .error cause => .error (.unreadable ⟨path, cause⟩)
  | .ok bytes =>
    match decode bytes with
    | .error fault => .error (.notUtf8 fault)
    | .ok text =>
      match Toml.read text with
      | .ok fields => .ok (withVersion fields)
      | .error .rules => .error (.notToml path)
      | .error (.longNumber digits) => .error (.longNumber digits)

/-- Whether something exists at a path. -/
def exists? (w : Workspace) (path : Text) : Bool :=
  match w.lookup path with
  | .ok _ => true
  | .error _ => false

/-- The settings of a workspace. -/
def load (lib : Library) (w : Workspace) (home : Text) (env : Environment)
    (named : Option Text) : Except SettingsError Settings :=
  match homeDirectory? home with
  | none => .error .noHome
  | some home =>
    match (locations w.cwd home named).find? (exists? w) with
    | none => lib.construct w env []
    | some path =>
      match readFile w path with
      | .ok fields => lib.construct w env fields
      | .error e => .error e

/-- The text of a new settings file. -/
def template : Text :=
  "# depscope configuration

[depscope]
version = \"1.0\"

[analyzer]
# Extensions picked up when a directory is scanned
include_patterns = [\".ts\", \".tsx\", \".js\", \".jsx\", \".py\", \".go\", \".rs\", \".java\"]
# \"*.x.*\" style patterns match file names; other patterns match the full path
exclude_patterns = [\"node_modules\", \".git\", \"dist\", \"build\", \"__tests__\", \"*.test.*\"]
max_depth = 5  # Accepted but not enforced yet
analyze_internal = true  # Record same-file call edges

[indexer]
enabled = false  # Use the external indexer when reachable
base_url = \"http://localhost:8080\"
timeout_seconds = 30
concurrency = 8

[visualizer]
max_nodes = 20
direction = \"TD\"  # TD | TB | BT | LR | RL
".toList

end Settings

end ImpactGraph
