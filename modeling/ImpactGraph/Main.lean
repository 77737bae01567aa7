import ImpactGraph.CommandLine.Run
import ImpactGraph.Settings.StandIn

/-!
# The program on a real file system

Reads the files that a run may look at into a workspace, runs the program on it, and then
writes what the run has written. Only this module touches the world.
-/

namespace ImpactGraph.Main

open CommandLine

/-- The tree at a path: a directory with all that is below it, or a file. A file that
cannot be read is closed, and what is no file is not opened. -/
partial def readTree (path : String) : IO FileTree := do
  match ← (do (← IO.FS.realPath path).readDir).toBaseIO with
  | .ok entries =>
    let mut found : List (Text × FileTree) := []
    for entry in entries do
      found := found ++ [(entry.fileName.toList, ← readTree entry.path.toString)]
    return .directory found
  | .error _ =>
    match ← (do return (← (← IO.FS.realPath path).metadata).type).toBaseIO with
    | .ok .other => return .special none
    | _ =>
      match ← (IO.FS.readBinFile path).toBaseIO with
      | .ok bytes => return .file bytes.toList
      | .error _ => return .closed

/-- Whether something is at a path. -/
def isThere (path : String) : IO Bool := do
  match ← (IO.FS.realPath path).toBaseIO with
  | .ok _ => return true
  | .error _ => return false

/-- The workspace with what is at a path. -/
def withPath (w : Workspace) (path : Text) : IO Workspace := do
  let name := String.ofList (Path.absolute w.cwd path)
  if ← isThere name then return w.put path (← readTree name) else return w

/-- The paths outside the working directory that words of a command line name. -/
def outside (cwd : Text) (words : List Text) : List Text :=
  (words.map fun word =>
    Path.absolute cwd ((Text.cutLast ['='] word).map (·.2) |>.getD word)).filter
    fun path => !Text.startsWith path cwd

/-- The settings among the variables of the environment. -/
def settingsVariables : IO Environment :=
  (Environment.names {}).filterMapM fun name => do
    let name := String.ofList (name.map Char.toUpper)
    return (← IO.getEnv name).map fun value => (name.toList, value.toList)

/-- The columns of the terminal. -/
def terminalColumns : IO Nat := do
  return ((← IO.getEnv "COLUMNS").bind (·.toNat?)).getD 80

/-- No connection: every request fails. -/
def noService (_ : Text) : StateM Unit Indexer.Reply :=
  pure (.unreachable "no connection".toList)

end ImpactGraph.Main

open ImpactGraph ImpactGraph.Main ImpactGraph.CommandLine

/-- Runs the program for the words of its command line. -/
def main (arguments : List String) : IO UInt32 := do
  let words := arguments.map String.toList
  let cwd := (← IO.currentDir).toString.toList
  let home := ((← IO.getEnv "HOME").getD "/").toList
  let mut w : Workspace := { tree := .directory [], cwd := cwd }
  w ← withPath (w.put cwd (.directory [])) cwd
  for path in Path.join home Path.settingsName :: outside cwd words do
    w ← withPath w path
  let surroundings : Surroundings Unit :=
    ⟨← terminalColumns, home, ← settingsVariables, Settings.standIn, noService⟩
  let (code, session) := run surroundings words { workspace := w, service := () }
  for (path, text) in session.saved do
    IO.FS.writeFile (String.ofList path) (String.ofList text)
  IO.print (String.ofList session.out)
  IO.eprint (String.ofList session.err)
  return code.toUInt32
