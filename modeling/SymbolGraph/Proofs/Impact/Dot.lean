import Mathlib
import SymbolGraph.Impact.Graph

/-!
# Drawings are read back from their text

The text that `ImpactGraph.toDot` writes of a graph is that of a list of statements
(`DotStatement`), one for each node and each edge, and they can be read back from it
(`Dot.read?_toDot`). So different drawings have different texts (`ImpactGraph.toDot_eq_iff`).

A quoted label is read up to the first quote that no backslash marks, and a marked `n` begins a line
(`Dot.readLabel?`). In a text that is escaped every quote and every backslash is marked, so it is
read as it was, and a label ends at the quote that was written after it (`Dot.readLabel?_label`).
Line breaks of the text itself are not marked and begin no line, and a name that looks like a line
of the drawing is read as a name.
-/

set_option autoImplicit false
set_option relaxedAutoImplicit false

namespace SymbolGraph

/-- What is drawn of a node: of its rank only whether it is the analysed symbol. -/
structure DrawnNode where
  id : Int
  label : String
  filePath : String
  isTarget : Bool
  deriving DecidableEq, Repr

/-- The drawing of a node. -/
def GraphNode.drawn (node : GraphNode) : DrawnNode where
  id := node.id
  label := node.label
  filePath := node.filePath
  isTarget := node.rank = 0

/-- What one line of a drawing states. -/
inductive DotStatement where
  | node (node : DrawnNode)
  | edge (edge : GraphEdge)
  deriving DecidableEq, Repr

namespace DotStatement

/-- The line of a statement. -/
def text : DotStatement → String
  | .node drawn =>
    "  n" ++ toString drawn.id ++ " [label=\"" ++ ImpactGraph.escaped drawn.label ++ "\\n" ++
      ImpactGraph.escaped drawn.filePath ++ "\"" ++
      (if drawn.isTarget then ", style=bold" else "") ++ "];\n"
  | .edge call => ImpactGraph.edgeLine call

/-- The node that is stated. -/
def node? : DotStatement → Option DrawnNode
  | .node drawn => some drawn
  | .edge _ => none

/-- The edge that is stated. -/
def edge? : DotStatement → Option GraphEdge
  | .node _ => none
  | .edge call => some call

end DotStatement

namespace ImpactGraph

/-- What the drawing of a graph states. -/
def statements (graph : ImpactGraph) : List DotStatement :=
  graph.nodes.map (fun node ↦ .node node.drawn) ++ graph.edges.map .edge

/-- Drawings state the same when they draw the same nodes and the same edges. -/
theorem statements_eq_iff {first second : ImpactGraph} :
    first.statements = second.statements ↔
      first.nodes.map GraphNode.drawn = second.nodes.map GraphNode.drawn ∧
        first.edges = second.edges := by
  have hnodes : ∀ graph : ImpactGraph, graph.statements.filterMap DotStatement.node? =
      graph.nodes.map GraphNode.drawn := by
    intro graph
    simp [statements, List.filterMap_map, Function.comp_def, DotStatement.node?]
  have hedges : ∀ graph : ImpactGraph, graph.statements.filterMap DotStatement.edge? =
      graph.edges := by
    intro graph
    simp [statements, List.filterMap_map, Function.comp_def, DotStatement.edge?]
  constructor
  · intro hsame
    rw [← hnodes, ← hnodes, ← hedges, ← hedges, hsame]
    exact ⟨rfl, rfl⟩
  · rintro ⟨hdrawn, hsame⟩
    have hmap : ∀ graph : ImpactGraph, graph.statements =
        (graph.nodes.map GraphNode.drawn).map .node ++ graph.edges.map .edge := by
      intro graph
      rw [List.map_map]
      rfl
    rw [hmap, hmap, hdrawn, hsame]

/-- What a drawing begins with. -/
def header : String :=
  "digraph impact \x7b\n  rankdir=LR;\n  node [shape=box];\n"

/-- What a drawing ends with. -/
def footer : String :=
  "\x7d\n"

theorem text_drawn (node : GraphNode) : (DotStatement.node node.drawn).text = nodeLine node := by
  by_cases htarget : node.rank = 0 <;> simp [nodeLine, DotStatement.text, GraphNode.drawn, htarget]

theorem text_edge (edge : GraphEdge) : (DotStatement.edge edge).text = edgeLine edge :=
  rfl

/-- The text of a drawing is that of its statements. -/
theorem toList_toDot (graph : ImpactGraph) :
    graph.toDot.toList = header.toList ++
      (graph.statements.flatMap (·.text.toList) ++ footer.toList) := by
  have htext : graph.toDot = header ++ String.join (graph.nodes.map nodeLine) ++
      String.join (graph.edges.map edgeLine) ++ footer := rfl
  simp only [htext, statements, String.toList_append, String.toList_join, List.flatMap_append,
    List.flatMap_map, List.append_assoc, text_drawn, text_edge]

/-- How a character is written inside a label. -/
def escape (character : Char) : List Char :=
  if character = '\\' ∨ character = '"' then ['\\', character] else [character]

/-- The mark of a backslash is not marked again with the quotes: every character is marked once. -/
theorem toList_escaped (text : String) : (escaped text).toList = text.toList.flatMap escape := by
  rw [escaped, String.toList_ofList, marked, marked, List.flatMap_assoc]
  refine List.flatMap_congr fun character _ ↦ ?_
  by_cases hbackslash : character = '\\'
  · rw [if_pos hbackslash, hbackslash]
    rfl
  · rw [if_neg hbackslash, List.flatMap_singleton, escape]
    by_cases hquote : character = '"'
    · rw [if_pos hquote, if_pos (Or.inr hquote)]
    · rw [if_neg hquote, if_neg (not_or.mpr ⟨hbackslash, hquote⟩)]

end ImpactGraph

namespace Dot

/-! ### Labels -/

/-- Reads the lines of a quoted label, up to the quote at its end, and what follows. A backslash
marks a quote or a backslash of the label, or begins a line. -/
def readLabel? : List Char → Option (List (List Char) × List Char)
  | [] => none
  | '"' :: rest => some ([[]], rest)
  | '\\' :: 'n' :: rest => (readLabel? rest).map (Prod.map ([] :: ·) id)
  | '\\' :: '\\' :: rest => (readLabel? rest).map (Prod.map (List.modifyHead ('\\' :: ·)) id)
  | '\\' :: '"' :: rest => (readLabel? rest).map (Prod.map (List.modifyHead ('"' :: ·)) id)
  | '\\' :: _ => none
  | first :: rest => (readLabel? rest).map (Prod.map (List.modifyHead (first :: ·)) id)

/-- An escaped character is read as the character. -/
theorem readLabel?_escape (character : Char) (rest : List Char) :
    readLabel? (ImpactGraph.escape character ++ rest) =
      (readLabel? rest).map (Prod.map (List.modifyHead (character :: ·)) id) := by
  by_cases hmarked : character = '\\' ∨ character = '"'
  · rw [ImpactGraph.escape, if_pos hmarked]
    rcases hmarked with rfl | rfl
    · rfl
    · rfl
  · rw [ImpactGraph.escape, if_neg hmarked, List.singleton_append]
    rw [not_or] at hmarked
    rw [readLabel?] <;> simp [hmarked]

/-- An escaped text is read as the text. -/
theorem readLabel?_escaped (text rest : List Char) :
    readLabel? (text.flatMap ImpactGraph.escape ++ rest) =
      (readLabel? rest).map (Prod.map (List.modifyHead (text ++ ·)) id) := by
  induction text with
  | nil =>
    have hnothing : (List.modifyHead fun line : List Char ↦ [] ++ line) = id := List.modifyHead_id
    rw [List.flatMap_nil, List.nil_append, hnothing, Prod.map_id]
    exact Option.map_id_apply.symm
  | cons character text ih =>
    have hboth : (List.modifyHead fun line ↦ character :: line) ∘ List.modifyHead (text ++ ·) =
        List.modifyHead (character :: text ++ ·) := funext fun _ ↦ List.modifyHead_modifyHead
    rw [List.flatMap_cons, List.append_assoc, readLabel?_escape, ih, Option.map_map, ← hboth]
    rfl

/-- A label of one line ends at its quote. -/
theorem readLabel?_line (line rest : List Char) :
    readLabel? (line.flatMap ImpactGraph.escape ++ '"' :: rest) = some ([line], rest) := by
  rw [readLabel?_escaped, readLabel?]
  simp

/-- The label of a node ends at its quote, and has the two texts in its lines. -/
theorem readLabel?_label (label filePath : String) (rest : List Char) :
    readLabel? ((ImpactGraph.escaped label ++ "\\n" ++ ImpactGraph.escaped filePath ++
      "\"").toList ++ rest) = some ([label.toList, filePath.toList], rest) := by
  have htext : (ImpactGraph.escaped label ++ "\\n" ++ ImpactGraph.escaped filePath ++
      "\"").toList ++ rest = label.toList.flatMap ImpactGraph.escape ++
        '\\' :: 'n' :: (filePath.toList.flatMap ImpactGraph.escape ++ '"' :: rest) := by
    simp [ImpactGraph.toList_escaped]
  rw [htext, readLabel?_escaped, readLabel?, readLabel?_line]
  simp

/-! ### Numbers -/

/-- Reads the number before the next blank. -/
def readNumber? (text : List Char) : Option (Int × List Char) :=
  (String.ofList (text.takeWhile (· != ' '))).toInt?.map (·, text.dropWhile (· != ' '))

/-- The text of a number has digits and signs only. -/
theorem isDigit_or_eq_of_mem_toString {number : Int} {character : Char}
    (hmem : character ∈ (toString number).toList) : character.isDigit = true ∨ character = '-' := by
  rw [Int.toString_eq_repr, Int.repr_eq_if] at hmem
  split at hmem
  · rw [Nat.toList_repr] at hmem
    exact .inl (Nat.isDigit_of_mem_toDigits (by decide) (by decide) hmem)
  · rw [String.toList_append, List.mem_append, Nat.toList_repr] at hmem
    refine hmem.symm.imp (Nat.isDigit_of_mem_toDigits (by decide) (by decide)) fun hsign ↦ ?_
    exact List.mem_singleton.mp hsign

theorem toInt?_toString (number : Int) : (toString number).toInt? = some number := by
  rw [Int.toString_eq_repr, Int.toInt?_repr]

/-- A number that is written before a blank is read. -/
theorem readNumber?_toString (number : Int) {rest : List Char} (hrest : rest.head? = some ' ') :
    readNumber? ((toString number).toList ++ rest) = some (number, rest) := by
  obtain ⟨others, rfl⟩ := List.head?_eq_some_iff.mp hrest
  have hblank : ∀ character ∈ (toString number).toList, (character != ' ') = true := by
    intro character hmem
    rw [bne_iff_ne]
    rintro rfl
    exact absurd (isDigit_or_eq_of_mem_toString hmem) (by decide)
  have hword : (' ' :: others).takeWhile (· != ' ') = [] := rfl
  rw [readNumber?, List.takeWhile_append_of_pos hblank, List.dropWhile_append_of_pos hblank, hword,
    List.append_nil, String.ofList_toList, toInt?_toString]
  rfl

/-- A number needs no escapes. -/
theorem flatMap_escape_toString (number : Int) :
    (toString number).toList.flatMap ImpactGraph.escape = (toString number).toList := by
  have hplain : ∀ character ∈ (toString number).toList,
      ImpactGraph.escape character = [character] := by
    intro character hmem
    refine if_neg ?_
    rintro (rfl | rfl)
    · exact absurd (isDigit_or_eq_of_mem_toString hmem) (by decide)
    · exact absurd (isDigit_or_eq_of_mem_toString hmem) (by decide)
  rw [List.flatMap_congr hplain, List.flatMap_singleton']

/-- The label of an edge ends at its quote. -/
theorem readLabel?_toString (number : Int) (rest : List Char) :
    readLabel? ((toString number ++ "\"").toList ++ rest) =
      some ([(toString number).toList], rest) := by
  have hline := readLabel?_line (toString number).toList rest
  rw [flatMap_escape_toString] at hline
  rw [String.toList_append, List.append_assoc]
  exact hline

/-! ### Statements -/

/-- What follows a text that is expected. -/
theorem dropPrefix?_append (expected rest : List Char) :
    (expected ++ rest).dropPrefix? expected = some rest :=
  List.dropPrefix?_eq_some_iff.mpr ⟨expected, rfl, BEq.rfl⟩

/-- Whether the style of the analysed symbol is next, and what follows. -/
def readStyle (text : List Char) : Bool × List Char :=
  match text.dropPrefix? ", style=bold".toList with
  | some rest => (true, rest)
  | none => (false, text)

/-- Reads the rest of a node's line, after its number. -/
def readNode? (id : Int) (text : List Char) : Option (DotStatement × List Char) := do
  let (lines, rest) ← readLabel? text
  let [label, filePath] := lines | none
  let (isTarget, rest) := readStyle rest
  let rest ← rest.dropPrefix? "];\n".toList
  some (.node ⟨id, String.ofList label, String.ofList filePath, isTarget⟩, rest)

/-- Reads the rest of an edge's line, after the number of its source. -/
def readEdge? (source : Int) (text : List Char) : Option (DotStatement × List Char) := do
  let rest ← text.dropPrefix? " -> n".toList
  let (target, rest) ← readNumber? rest
  let rest ← rest.dropPrefix? " [label=\"".toList
  let (lines, rest) ← readLabel? rest
  let [line] := lines | none
  let line ← (String.ofList line).toInt?
  let rest ← rest.dropPrefix? "];\n".toList
  some (.edge ⟨source, target, line⟩, rest)

/-- Reads the line of a statement, and gives what follows. -/
def readStatement? (text : List Char) : Option (DotStatement × List Char) := do
  let rest ← text.dropPrefix? "  n".toList
  let (id, rest) ← readNumber? rest
  match rest.dropPrefix? " [label=\"".toList with
  | some rest => readNode? id rest
  | none => readEdge? id rest

theorem readStyle_append (isTarget : Bool) (rest : List Char) :
    readStyle ((if isTarget then ", style=bold" else "").toList ++ ("];\n".toList ++ rest)) =
      (isTarget, "];\n".toList ++ rest) := by
  cases isTarget with
  | false => rfl
  | true => rfl

theorem readNode?_append (drawn : DrawnNode) (rest : List Char) :
    readNode? drawn.id ((ImpactGraph.escaped drawn.label ++ "\\n" ++
      ImpactGraph.escaped drawn.filePath ++ "\"").toList ++
        ((if drawn.isTarget then ", style=bold" else "").toList ++ ("];\n".toList ++ rest))) =
          some (.node drawn, rest) := by
  simp only [readNode?, readLabel?_label, readStyle_append, dropPrefix?_append, Option.bind_eq_bind,
    Option.bind_some, String.ofList_toList]

theorem readEdge?_append (call : GraphEdge) (rest : List Char) :
    readEdge? call.source (" -> n".toList ++ ((toString call.target).toList ++
      (" [label=\"".toList ++ ((toString call.line ++ "\"").toList ++ ("];\n".toList ++ rest))))) =
        some (.edge call, rest) := by
  have htarget : readNumber? ((toString call.target).toList ++ (" [label=\"".toList ++
      ((toString call.line ++ "\"").toList ++ ("];\n".toList ++ rest)))) =
        some (call.target, " [label=\"".toList ++
          ((toString call.line ++ "\"").toList ++ ("];\n".toList ++ rest))) :=
    readNumber?_toString call.target rfl
  simp only [readEdge?, dropPrefix?_append, htarget, readLabel?_toString, Option.bind_eq_bind,
    Option.bind_some, String.ofList_toList, toInt?_toString]

/-- The line of a statement is read as the statement. -/
theorem readStatement?_text (statement : DotStatement) (rest : List Char) :
    readStatement? (statement.text.toList ++ rest) = some (statement, rest) := by
  cases statement with
  | node drawn =>
    have hnode := readNode?_append drawn rest
    simp only [DotStatement.text, String.toList_append, List.append_assoc] at hnode ⊢
    rw [readStatement?, dropPrefix?_append, Option.bind_eq_bind, Option.bind_some,
      readNumber?_toString drawn.id rfl, Option.bind_eq_bind, Option.bind_some]
    dsimp only
    rw [dropPrefix?_append]
    exact hnode
  | edge call =>
    have hedge := readEdge?_append call rest
    have hend : "\"];\n".toList ++ rest = "\"".toList ++ ("];\n".toList ++ rest) := rfl
    simp only [DotStatement.text, ImpactGraph.edgeLine, String.toList_append, List.append_assoc,
      hend] at hedge ⊢
    rw [readStatement?, dropPrefix?_append, Option.bind_eq_bind, Option.bind_some,
      readNumber?_toString call.source rfl, Option.bind_eq_bind, Option.bind_some]
    exact hedge

/-- Reads the lines of statements to the end of the drawing, as many as the steps. -/
def readStatements? : (steps : Nat) → List Char → Option (List DotStatement)
  | 0, _ => none
  | steps + 1, text =>
    match readStatement? text with
    | some (statement, rest) => (readStatements? steps rest).map (statement :: ·)
    | none => if text = ImpactGraph.footer.toList then some [] else none

/-- The lines of statements are read as the statements, when the steps are more. -/
theorem readStatements?_flatMap {steps : Nat} {statements : List DotStatement}
    (hsteps : statements.length < steps) :
    readStatements? steps (statements.flatMap (·.text.toList) ++ ImpactGraph.footer.toList) =
      some statements := by
  obtain ⟨steps, rfl⟩ := Nat.exists_eq_succ_of_ne_zero (Nat.ne_zero_of_lt hsteps)
  induction statements generalizing steps with
  | nil => rfl
  | cons statement others ih =>
    obtain ⟨steps, rfl⟩ := Nat.exists_eq_succ_of_ne_zero
      (Nat.ne_zero_of_lt (Nat.lt_of_succ_lt_succ hsteps))
    rw [List.flatMap_cons, List.append_assoc, readStatements?, readStatement?_text]
    dsimp only
    rw [ih steps (Nat.lt_of_succ_lt_succ hsteps), Option.map_some]

/-- No line of a statement is empty, so there are no more statements than characters. -/
theorem length_le_length_flatMap (statements : List DotStatement) :
    statements.length ≤ (statements.flatMap (·.text.toList)).length := by
  induction statements with
  | nil => exact Nat.le_refl 0
  | cons statement others ih =>
    have hnonempty : statement.text.toList ≠ [] := by
      intro hempty
      have hread := readStatement?_text statement []
      rw [hempty] at hread
      cases hread
    have hpositive := List.length_pos_iff.mpr hnonempty
    rw [List.flatMap_cons, List.length_append, List.length_cons]
    omega

/-- Reads what a drawing states. -/
def read? (text : String) : Option (List DotStatement) := do
  let rest ← text.toList.dropPrefix? ImpactGraph.header.toList
  readStatements? rest.length rest

/-- The text of a drawing is read as its statements. -/
theorem read?_toDot (graph : ImpactGraph) : read? graph.toDot = some graph.statements := by
  rw [read?, ImpactGraph.toList_toDot, dropPrefix?_append, Option.bind_eq_bind, Option.bind_some]
  refine readStatements?_flatMap ?_
  have hfooter : 0 < ImpactGraph.footer.toList.length := by decide
  have hlength := length_le_length_flatMap graph.statements
  rw [List.length_append]
  omega

end Dot

/-- Two graphs have the same text exactly when they have the same nodes, but for what their ranks
say beyond whether they are zero, and the same edges, in the same order. The label of a node ends at
its own quote, whatever it holds and whatever follows, and its name and its file path are told
apart; and the label of an edge ends at its own quote. -/
theorem ImpactGraph.toDot_eq_iff (first second : ImpactGraph) :
    (first.toDot = second.toDot ↔
      first.nodes.map GraphNode.drawn = second.nodes.map GraphNode.drawn ∧
        first.edges = second.edges) ∧
    (∀ (label filePath : String) (rest : List Char),
      Dot.readLabel? ((escaped label ++ "\\n" ++ escaped filePath ++ "\"").toList ++ rest) =
        some ([label.toList, filePath.toList], rest)) ∧
    ∀ (line : Int) (rest : List Char),
      Dot.readLabel? ((toString line ++ "\"").toList ++ rest) =
        some ([(toString line).toList], rest) := by
  refine ⟨?_, Dot.readLabel?_label, Dot.readLabel?_toString⟩
  rw [← statements_eq_iff]
  constructor
  · intro hsame
    have hread := Dot.read?_toDot first
    rw [hsame, Dot.read?_toDot second] at hread
    exact (Option.some.inj hread).symm
  · intro hsame
    rw [← String.toList_inj, toList_toDot, toList_toDot, hsame]

end SymbolGraph
