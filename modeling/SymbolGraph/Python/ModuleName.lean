import SymbolGraph.Path
import SymbolGraph.Text.Blank

/-!
# Python module names

A Python file has a dotted module name made of its directories and its stem, where the file
`__init__` stands for its directory (`ofPath`). A relative import names its module from the
importing file's package (`package`, `absolute?`). `candidates` lists the files in which an
imported name may be declared.
-/

set_option autoImplicit false

namespace SymbolGraph.Python.ModuleName

/-- The stem of the files that stand for their directory. -/
def initStem : String := "__init__"

/-- A component of a path as a part of a module name. -/
def part : PathComponent String → String
  | .root => "/"
  | .here => "."
  | .up => ".."
  | .name text => text

/-- The dotted module name of a file. -/
def ofPath (path : String) : String :=
  let parts := (Path.components path).map part
  let file := parts.getLast?.getD ""
  let stem := (Path.stem? file).getD file
  let names := if stem = initStem then parts.dropLast else parts.dropLast ++ [stem]
  match names with
  | [] => initStem
  | _ => Text.join "." names

/-- The last part of a dotted name. -/
def leaf (name : String) : String :=
  match Text.splitLast? '.' name with
  | some (_, last) => last
  | none => name

/-- The package that relative imports of a file start from: its module name, without the last part
unless the file stands for its directory. -/
def package (path moduleName : String) : List String :=
  let parts := (Text.split '.' moduleName).filter fun part ↦ part ≠ "" ∧ part ≠ initStem
  let isInit := (Path.fileName? path).any fun name ↦
    name == initStem ++ ".py" || name == initStem ++ ".pyi"
  if isInit then parts else parts.dropLast

/-- The number of dots a text begins with. -/
def leadingDots (text : List Char) : Nat :=
  (text.takeWhile (· = '.')).length

/-- A relative module written from the root, given the parts of the importing file's package. One
dot is the package itself and every further dot climbs one part; nothing is left when the climb
leaves the package, or ends above all parts. Other modules are as they are written. -/
def absolute? (written : String) (base : List String) : Option String :=
  match Text.trim written.toList with
  | [] => none
  | text =>
    let dots := leadingDots text
    if dots = 0 then some (String.ofList text)
    else if base.length < dots - 1 then none
    else
      let kept := base.take (base.length - (dots - 1))
      let below := (Text.split '.' (String.ofList (text.drop dots))).filter (· ≠ "")
      match kept ++ below with
      | [] => none
      | parts => some (Text.join "." parts)

/-- The files that may declare `name` when it is imported from `moduleName`, most likely first. -/
def candidates (moduleName name : String) : List String :=
  match moduleName.toList with
  | [] => []
  | '.' :: _ => []
  | text =>
    let base := String.ofList (text.map fun character ↦ if character = '.' then '/' else character)
    let own := [base ++ ".py", base ++ ".pyi", base ++ "/__init__.py"]
    if name = "" ∨ name = "*" then own
    else own ++ [base ++ "/" ++ name ++ ".py", base ++ "/" ++ name ++ "/__init__.py"]

end SymbolGraph.Python.ModuleName
