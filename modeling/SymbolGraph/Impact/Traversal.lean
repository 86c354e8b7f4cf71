import SymbolGraph.Store.Query

/-!
# Who is affected by a change

`Impact.analyze` follows resolved calls backwards from a symbol, level by level: the callers of the
symbol, the callers of those, and so on down to a depth. A call site (caller, file and line) is
reported once, at the level where it is first met, and a symbol is expanded once, so cycles of calls
end by themselves. Two budgets can stop the traversal early: a number of reported sites, and a time
budget that is consulted before each level. The report then says that it is incomplete.
`Impact.analyzeBy` is the same over any look-up of call sites.
-/

set_option autoImplicit false

namespace SymbolGraph

/-- Which symbol to start from, and how many levels of callers to follow. -/
structure ImpactQuery where
  symbol : String
  /-- Narrows the name to the files that this path names. -/
  file : Option String
  maxDepth : Nat
  deriving DecidableEq, Repr

/-- What can stop a traversal before its depth is reached. -/
structure ImpactLimits where
  /-- The time budget is spent before the level of this depth is begun. -/
  isTimeUp : Nat → Bool
  /-- The number of call sites after which the traversal stops. -/
  maxResults : Nat

/-- A call site met by the traversal. -/
structure ImpactEntry where
  caller : SymbolSummary
  /-- The file of the call. -/
  filePath : String
  line : Int
  /-- One for the callers of the symbol itself. -/
  depth : Nat
  /-- The symbol that is called at this site. -/
  calleeId : Int
  deriving DecidableEq, Repr

/-- How many call sites lie at one depth. -/
structure DepthSummary where
  depth : Nat
  callers : Nat
  deriving DecidableEq, Repr

/-- What a traversal found. -/
structure ImpactReport where
  target : SymbolSummary
  /-- How many other symbols the query names. -/
  ambiguousWith : Nat
  maxDepth : Nat
  entries : List ImpactEntry
  direct : Nat
  ripple : Nat
  byDepth : List DepthSummary
  /-- A budget stopped the traversal. -/
  truncated : Bool
  deriving DecidableEq, Repr

/-- The answer to a query. -/
inductive ImpactOutcome where
  | notFound (symbol : String)
  | found (report : ImpactReport)
  deriving DecidableEq, Repr

/-- The entry is a caller of the symbol itself. -/
def ImpactEntry.isDirect (entry : ImpactEntry) : Bool :=
  entry.depth == 1

/-- The edge is the call site of the entry. -/
def ImpactEntry.isSiteOf (entry : ImpactEntry) (edge : CallerEdge) : Bool :=
  entry.caller.id == edge.caller.id && entry.filePath == edge.filePath && entry.line == edge.line

/-- By depth, then file, caller's name, line and caller. -/
def ImpactEntry.order (left right : ImpactEntry) : Ordering :=
  (compare left.depth right.depth).then <|
  (compare left.filePath right.filePath).then <|
  (compare left.caller.name right.caller.name).then <|
  (compare left.line right.line).then <|
  compare left.caller.id right.caller.id

/-- The report of an outcome, where a missing symbol is an error. -/
def ImpactOutcome.report : ImpactOutcome → Except GraphError ImpactReport
  | .found report => .ok report
  | .notFound symbol => .error (.notFound symbol)

namespace ImpactLimits

/-- A budget in milliseconds: no time at all stops before the first level, and any other time is
taken to suffice. -/
def ofMilliseconds (time maxResults : Nat) : ImpactLimits where
  isTimeUp := fun _ ↦ time == 0
  maxResults := maxResults

end ImpactLimits

namespace Impact

/-- How far one level has got. -/
structure Level where
  /-- All sites met so far, in the order they were met. -/
  entries : List ImpactEntry
  /-- The callers to expand at the next level. -/
  next : List Int
  /-- The result budget stopped the level. -/
  stopped : Bool
  deriving DecidableEq, Repr

/-- The symbol has been expanded, or will be at the next level. -/
def isReached (targetId : Int) (entries : List ImpactEntry) (id : Int) : Bool :=
  id == targetId || entries.any fun entry ↦ entry.caller.id == id

/-- Takes a call site into the level. -/
def Level.add (targetId : Int) (depth : Nat) (level : Level) (edge : CallerEdge) : Level where
  entries := level.entries ++
    [{ caller := edge.caller, filePath := edge.filePath, line := edge.line, depth,
       calleeId := edge.calleeId }]
  next := if isReached targetId level.entries edge.caller.id then level.next
    else level.next ++ [edge.caller.id]
  stopped := level.stopped

/-- Goes through the call sites of a level; sites met before are passed over, and an edge met when
the result budget is spent stops the level. -/
def visit (maxResults : Nat) (targetId : Int) (depth : Nat) : List CallerEdge → Level → Level
  | [], level => level
  | edge :: rest, level =>
    if maxResults ≤ level.entries.length then { level with stopped := true }
    else if level.entries.any fun entry ↦ entry.isSiteOf edge then
      visit maxResults targetId depth rest level
    else visit maxResults targetId depth rest (level.add targetId depth edge)

/-- What a traversal came to. -/
structure Traversal where
  /-- The sites met, in the order they were met. -/
  entries : List ImpactEntry
  /-- A budget stopped the traversal. -/
  stopped : Bool
  /-- The frontiers, in order, but for an empty one at the end: those with which levels began, and
  the one that is left when the depth or a budget ended the traversal. -/
  frontiers : List (List Int)
  deriving DecidableEq, Repr

/-- The traversal that begins with a frontier and goes on as another one. -/
def Traversal.after (frontier : List Int) (later : Traversal) : Traversal :=
  { later with frontiers := frontier :: later.frontiers }

/-- Follows the callers for the remaining levels, beginning at `depth` with the symbols of
`frontier`. The call sites of a frontier are looked up by `callers`. -/
def traverse (callers : List Int → List CallerEdge) (limits : ImpactLimits) (targetId : Int) :
    (remaining depth : Nat) → (frontier : List Int) → List ImpactEntry → Traversal
  | 0, _, frontier, entries => ⟨entries, false, if frontier.isEmpty then [] else [frontier]⟩
  | remaining + 1, depth, frontier, entries =>
    if frontier.isEmpty then ⟨entries, false, []⟩
    else if limits.isTimeUp depth then ⟨entries, true, [frontier]⟩
    else
      let level := visit limits.maxResults targetId depth (callers frontier) ⟨entries, [], false⟩
      if level.stopped then ⟨level.entries, true, [frontier]⟩
      else
        (traverse callers limits targetId remaining (depth + 1) level.next level.entries).after
          frontier

/-- The sites that a traversal meets, and whether a budget stops it. -/
def follow (callers : List Int → List CallerEdge) (limits : ImpactLimits) (targetId : Int)
    (remaining depth : Nat) (frontier : List Int) (entries : List ImpactEntry) :
    List ImpactEntry × Bool :=
  let traversal := traverse callers limits targetId remaining depth frontier entries
  (traversal.entries, traversal.stopped)

/-- The number of sites at each depth that occurs, in the order of the entries. -/
def summarize (entries : List ImpactEntry) : List DepthSummary :=
  (entries.map (·.depth)).eraseDups.map fun depth ↦
    { depth, callers := entries.countP fun entry ↦ entry.depth == depth }

/-- The report on the sites that a traversal met. -/
def report (target : SymbolSummary) (ambiguousWith maxDepth : Nat) (met : List ImpactEntry)
    (truncated : Bool) : ImpactReport :=
  let entries := sortBy ImpactEntry.order met
  let direct := entries.countP ImpactEntry.isDirect
  { target, ambiguousWith, maxDepth, entries, direct, ripple := entries.length - direct,
    byDepth := summarize entries, truncated }

/-- The callers of the first symbol that a query names, where `callers` looks up call sites. -/
def analyzeBy (callers : List Int → List CallerEdge) (store : Store) (projectId : Int)
    (query : ImpactQuery) (limits : ImpactLimits) : ImpactOutcome :=
  match store.findSymbols projectId query.symbol query.file with
  | [] => .notFound query.symbol
  | target :: others =>
    let (met, truncated) := follow callers limits target.id query.maxDepth 1 [target.id] []
    .found (report target.summary others.length query.maxDepth met truncated)

/-- The callers of the first symbol that a query names. -/
def analyze (store : Store) (projectId : Int) (query : ImpactQuery) (limits : ImpactLimits) :
    ImpactOutcome :=
  analyzeBy (store.callersOf projectId) store projectId query limits

end Impact

end SymbolGraph
