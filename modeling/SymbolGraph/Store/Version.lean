import SymbolGraph.Error
import SymbolGraph.Text.Decimal

/-!
# The version of a stored graph

A stored graph says which version of its layout it was written in. One that is newer than the
supported version is refused; a version that cannot be read counts as the oldest.
-/

set_option autoImplicit false

namespace SymbolGraph.Store

/-- The version of the layout that is read and written. -/
def supportedVersion : Int := 1

/-- Refuses a version newer than the supported one. -/
def checkVersion (text : String) : Except GraphError Unit :=
  let version := (Text.signed? 64 text.toList).getD 0
  if supportedVersion < version then
    .error (.other ("database schema version " ++ toString version ++
      " is newer than supported version " ++ toString supportedVersion))
  else .ok ()

end SymbolGraph.Store
