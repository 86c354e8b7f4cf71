import SymbolGraph.Error
import SymbolGraph.Extraction
import SymbolGraph.JavaScript.Parser
import SymbolGraph.JavaScript.Tree.Extraction
import SymbolGraph.Language
import SymbolGraph.Python.Parser
import SymbolGraph.Python.Tree.Extraction

/-!
# Reading a source file

`SourceFile.extract` reads a file in the language of its path.
-/

set_option autoImplicit false

namespace SymbolGraph.SourceFile

/-- What a file declares and mentions. -/
def extract (path source : String) : Except GraphError Extraction :=
  match Language.ofPath? path with
  | none => .error (.unsupported path)
  | some .python =>
    match Python.parse? source with
    | some program => .ok (Python.extraction path source program)
    | none => .error (.syntaxError path)
  | some .javaScript =>
    match JavaScript.parse? source with
    | some program => .ok (JavaScript.extraction path source program)
    | none => .error (.syntaxError path)

end SymbolGraph.SourceFile
