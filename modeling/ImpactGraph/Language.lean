import ImpactGraph.Path.Basic
import ImpactGraph.Text.LowerCase

/-!
# Languages

The languages whose declarations can be read, and how a file name shows which one it
holds.
-/

namespace ImpactGraph

/-- A language with rules for its imports and exports. -/
inductive Language where
  | typescript
  | javascript
  | python
  | go
  | java
  | rust
  deriving DecidableEq, Repr

namespace Language

/-- The name a language is reported under. -/
def name : Language → Text
  | typescript => "typescript".toList
  | javascript => "javascript".toList
  | python => "python".toList
  | go => "go".toList
  | java => "java".toList
  | rust => "rust".toList

/-- All languages. -/
def all : List Language := [typescript, javascript, python, go, java, rust]

/-- The language of a name. -/
def ofName? (text : Text) : Option Language := all.find? (·.name = text)

/-- The file extensions of a language, in lower case. -/
def extensions : Language → List Text
  | typescript => [".ts".toList, ".tsx".toList, ".mts".toList, ".cts".toList]
  | javascript => [".js".toList, ".jsx".toList, ".mjs".toList, ".cjs".toList]
  | python => [".py".toList, ".pyi".toList]
  | go => [".go".toList]
  | java => [".java".toList]
  | rust => [".rs".toList]

/-- The language a file's extension stands for, in any case of letters. -/
def ofPath? (path : Text) : Option Language :=
  all.find? fun language => (Path.extension path).lower ∈ language.extensions

end Language

end ImpactGraph
