/-!
# Sorting by an order

Reports list rows in stated orders, compared key by key. `sortBy` sorts stably by a comparison, so
rows that compare equal keep the order they came in. Texts compare character by character, which is
also the order of their UTF-8 bytes.
-/

set_option autoImplicit false

namespace SymbolGraph

/-- The rows sorted by a comparison; equal rows keep their order. -/
def sortBy {α : Type} (order : α → α → Ordering) (rows : List α) : List α :=
  rows.mergeSort fun left right ↦ (order left right).isLE

end SymbolGraph
