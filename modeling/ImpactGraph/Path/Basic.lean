import ImpactGraph.Text.Basic

/-!
# Paths

A path is a text of components between slashes. Joining, cutting and normalising are
lexical: no file is looked at. The normal form of an absolute path drops empty and `.`
components, lets `..` take back the component before it (and nothing at the top), and
keeps one leading slash, or two where the path has exactly two.

`Path.canonical` is the procedure that gives a file its id. It is used when a graph is
built and when it is asked, so all spellings of a file that differ in these ways meet in
one id.
-/

namespace ImpactGraph.Path

open Text

/-- A path from the top of the file system. -/
def isAbsolute (path : Text) : Bool := path.head? = some '/'

/-- A path read from the directory `base`; an absolute path discards the base. -/
def join (base path : Text) : Text :=
  if isAbsolute path then path
  else if base = [] || base.getLast? = some '/' then base ++ path
  else base ++ '/' :: path

/-- Components read one after another from a base. -/
def joinAll (base : Text) (components : List Text) : Text := components.foldl join base

/-- What follows the last slash. -/
def baseName (path : Text) : Text := (path.reverse.takeWhile (· ≠ '/')).reverse

/-- What stands before the last slash, without the slashes at its end unless there is
nothing else. -/
def parent (path : Text) : Text :=
  let head := (path.reverse.dropWhile (· ≠ '/')).reverse
  if head.all (· = '/') then head else dropWhileEnd (· = '/') head

/-- Stem and extension of a file name. Dots that lead the name do not start an
extension. -/
def splitName (name : Text) : Text × Text :=
  let dots := name.takeWhile (· = '.')
  let body := name.dropWhile (· = '.')
  match cutLast ['.'] body with
  | some (stem, ext) => (dots ++ stem, '.' :: ext)
  | none => (name, [])

/-- The extension of the last component, with its dot; empty when there is none. -/
def extension (path : Text) : Text := (splitName (baseName path)).2

/-- A file name without its extension. -/
def stem (name : Text) : Text := (splitName name).1

/-- One component walked from a list of components, the deepest first. -/
def step (deeper : List Text) (component : Text) : List Text :=
  if component = [] || component = ['.'] then deeper
  else if component = ['.', '.'] then deeper.tail
  else component :: deeper

/-- The components of an absolute path that are left when `.`, `..` and doubled slashes
are gone. -/
def components (path : Text) : List Text := ((path.split '/').foldl step []).reverse

/-- The slashes an absolute path keeps in front: two where it has exactly two, else
one. -/
def leadingSlashes (path : Text) : Text :=
  match path.takeWhile (· = '/') with
  | ['/', '/'] => ['/', '/']
  | _ => ['/']

/-- The normal form of an absolute path. -/
def normal (path : Text) : Text :=
  leadingSlashes path ++ Text.join ['/'] (components path)

/-- The normal form of a path read from the absolute directory `cwd`. -/
def absolute (cwd path : Text) : Text := normal (join cwd path)

/-- The id of a file named by `path`, which is read from `root` when it is relative; a
relative root is read from `cwd`. -/
def canonical (cwd root path : Text) : Text :=
  normal (if isAbsolute path then path else join (absolute cwd root) path)

end ImpactGraph.Path
