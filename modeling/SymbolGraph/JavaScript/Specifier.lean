import SymbolGraph.Language
import SymbolGraph.Path.Relative

/-!
# JavaScript module specifiers

A relative specifier names a file from the directory of the importing file, with or without its
extension, or a directory that holds an `index.js`. `candidates` lists the files it may mean; other
specifiers name packages, whose files are never read. `stem` is the name by which a module is known
when an import gives it none.
-/

set_option autoImplicit false

namespace SymbolGraph.JavaScript.Specifier

/-- The files that a specifier may mean in an importing file, most likely first. -/
def candidates (importingFile specifier : String) : List String :=
  match specifier.toList with
  | '.' :: _ =>
    match Path.join? (Path.parent importingFile) specifier with
    | none => []
    | some base =>
      let extensions := Language.javaScript.extensions
      if (Path.extension? base).any extensions.contains then [base]
      else extensions.map (fun extension ↦ base ++ "." ++ extension) ++ [base ++ "/index.js"]
  | _ => []

/-- A text without the slashes it ends with. -/
def dropTrailingSlashes (text : List Char) : List Char :=
  (text.reverse.dropWhile (· = '/')).reverse

/-- The last segment of a specifier without its extension. -/
def stem (specifier : String) : String :=
  let trimmed := String.ofList (dropTrailingSlashes specifier.toList)
  (Path.stem? trimmed).getD trimmed

end SymbolGraph.JavaScript.Specifier
