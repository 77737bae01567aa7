import ImpactGraph.Path.Basic

/-!
# Paths relative to a root

How an id is shown to people: relative to the root when it lies below it component by
component, unchanged when it does not. Names of external packages go the other way, to a
conventional place below the root.
-/

namespace ImpactGraph.Path

open Text

/-- The non-empty components between the slashes of a path. -/
def names (path : Text) : List Text := (path.split '/').filter (· ≠ [])

/-- What is left of two lists when their longest common beginning is gone. -/
def dropCommon : List Text → List Text → List Text × List Text
  | a :: as, b :: bs => if a = b then dropCommon as bs else (a :: as, b :: bs)
  | as, bs => (as, bs)

/-- Steps from a directory written as a path; without a step it is the directory
itself. -/
def writeSteps (steps : List Text) : Text := if steps = [] then ['.'] else
    Text.join ['/'] steps

/-- The way from a directory to another place: up to the last directory that both are
below, and from there down. -/
def way (cwd start path : Text) : Text :=
  let parts := dropCommon (names (absolute cwd start)) (names (absolute cwd path))
  writeSteps (parts.1.map (fun _ => ['.', '.']) ++ parts.2)

/-- Whether a relative path leads up before it leads anywhere else. -/
def leadsUp (path : Text) : Bool := path = ['.', '.'] || startsWith path ['.', '.', '/']

/-- An id relative to the root, or unchanged when the way to it leads up. -/
def relativeTo (cwd root file : Text) : Text :=
  if file = [] then file
  else
    let relative := way cwd (canonical cwd root ['.']) file
    if leadsUp relative then file else relative

/-- The place below `location` where a package named by slash-separated components is
kept. -/
def external (cwd root location target : Text) : Text :=
  canonical cwd root (joinAll location (target.split '/'))

/-- A path without doubled slashes, `.` components and a slash at its end; `..` stays. -/
def tidy (path : Text) : Text :=
  let kept := (path.split '/').filter fun c => c ≠ [] && c ≠ ['.']
  let start := if isAbsolute path then leadingSlashes path else []
  if start = [] && kept = [] then ['.'] else start ++ Text.join ['/'] kept

/-- The name of the settings file. -/
def settingsName : Text := ".depscope.toml".toList

/-- The settings file of a directory. The directory's path is made absolute with one
leading slash. -/
def settingsFile (cwd directory : Text) : Text :=
  joinAll ['/'] (components (join cwd directory) ++ [settingsName])

end ImpactGraph.Path
