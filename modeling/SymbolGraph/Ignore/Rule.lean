import SymbolGraph.Pattern.Glob
import SymbolGraph.Text.Blank
import SymbolGraph.Text.Lines

/-!
# Rules of an ignore file

An ignore file has one rule a line. A rule describes paths seen from the directory of its file, by a
glob whose `?` and `*` stop at a separator:

* blanks at the end do not count, unless the last one follows a backslash; an empty line and a line
  that begins with `#` hold no rule;
* a leading `!` keeps what the rule describes, where other rules ignore it; `\!` and `\#` begin a
  glob with that character;
* a trailing `/` restricts the rule to directories;
* a glob with no other `/` describes the entries of that name at any depth.

Of several rules that describe a path, the last one decides (`IgnoreRule.verdict?`). A line that is
no glob is passed over.
-/

set_option autoImplicit false

namespace SymbolGraph

/-- What is decided about a path. -/
inductive IgnoreVerdict where
  | ignored
  | kept
  deriving DecidableEq, Repr

/-- A rule of an ignore file. -/
structure IgnoreRule where
  glob : Glob
  verdict : IgnoreVerdict
  /-- The rule does not describe files. -/
  directoriesOnly : Bool

namespace IgnoreRule

/-- A pattern without the `/` it may end with, whether or not that is escaped, and whether there was
one. -/
def cutDirectoryMark (pattern : List Char) : List Char × Bool :=
  match pattern.reverse with
  | '/' :: '\\' :: before => (before.reverse, true)
  | '/' :: before => (before.reverse, true)
  | _ => (pattern, false)

/-- The glob of a pattern. A pattern that is bound to the directory of its file is taken as it is;
any other without a separator is looked for at every depth. A glob that covers all that is below a
directory does not cover the directory itself. -/
def globText (isBound : Bool) (pattern : List Char) : List Char :=
  let atDepths := if isBound || pattern.contains '/' || pattern == ['*', '*'] then pattern
    else '*' :: '*' :: '/' :: pattern
  if ['/', '*', '*'].isSuffixOf atDepths then atDepths ++ ['/', '*'] else atDepths

/-- The rule of a pattern, whose marks at the front have been read. -/
def ofPattern? (verdict : IgnoreVerdict) (isBound : Bool) (pattern : List Char) :
    Option IgnoreRule :=
  let (body, directoriesOnly) := cutDirectoryMark pattern
  match Glob.parse true (String.ofList (globText isBound body)) with
  | .ok glob => some { glob, verdict, directoriesOnly }
  | .error _ => none

/-- The rule of a line. -/
def ofLine? (line : List Char) : Option IgnoreRule :=
  match if ['\\', ' '].isSuffixOf line then line else Text.trimEnd line with
  | [] => none
  | '#' :: _ => none
  | '\\' :: '!' :: rest => ofPattern? .ignored false ('!' :: rest)
  | '\\' :: '#' :: rest => ofPattern? .ignored false ('#' :: rest)
  | '!' :: '/' :: rest => ofPattern? .kept true rest
  | '!' :: rest => ofPattern? .kept false rest
  | '/' :: rest => ofPattern? .ignored true rest
  | pattern => ofPattern? .ignored false pattern

/-- The rules of a file's lines, the first of which may follow byte order marks. -/
def ofLines : List (List Char) → List IgnoreRule
  | [] => []
  | first :: rest => ((first.dropWhile (· = '\uFEFF')) :: rest).filterMap ofLine?

/-- The lines of bytes, each with its line feed. -/
def byteLines : List UInt8 → List (List UInt8)
  | [] => []
  | byte :: rest =>
    if byte = 10 then [byte] :: byteLines rest
    else
      match byteLines rest with
      | [] => [[byte]]
      | line :: others => (byte :: line) :: others

/-- The text of a file up to the first line that is not valid text. -/
def readableText (content : ByteArray) : List Char :=
  let lines := (byteLines content.toList).map fun line ↦ String.fromUTF8? ⟨line.toArray⟩
  (lines.takeWhile Option.isSome).flatMap fun line ↦ (line.getD "").toList

/-- The rules of a file. -/
def ofContent (content : ByteArray) : List IgnoreRule :=
  ofLines (Text.lines (readableText content))

/-- The rule describes a path. -/
def describes (rule : IgnoreRule) (path : String) (isDirectory : Bool) : Bool :=
  (isDirectory || !rule.directoriesOnly) && rule.glob.matchesPath path

/-- What a list of rules decides about a path, if any of them describes it. -/
def verdict? (rules : List IgnoreRule) (path : String) (isDirectory : Bool) :
    Option IgnoreVerdict :=
  (rules.reverse.find? fun rule ↦ rule.describes path isDirectory).map (·.verdict)

end IgnoreRule

end SymbolGraph
