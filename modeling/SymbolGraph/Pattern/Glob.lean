import SymbolGraph.Pattern.Basic

/-!
# Path globs

A glob describes whole file paths: `?` is one byte, `*` any stretch, `[...]` one byte of a class
(negated by `!` or `^`), `{...,...}` a choice, and a backslash takes the next character as it is. A
`**` that fills a whole component stands for any number of components. `Glob.parse` reads the
pattern and `Glob.matchesPath` compares a path with it.

A glob may be read so that `?` and `*` stop at a separator (`separatorIsSpecial`), which is what
ignore files ask for. Empty alternatives of a choice are dropped.
-/

set_option autoImplicit false

namespace SymbolGraph

/-- An element of a glob. -/
inductive GlobToken where
  /-- A character that stands for itself. -/
  | literal (character : Char)
  /-- `?` -/
  | any
  /-- `*` -/
  | stretch
  /-- `**` followed by a separator at the beginning. -/
  | leadingComponents
  /-- `**` after a separator at the end. -/
  | trailingComponents
  /-- `**` between separators. -/
  | innerComponents
  | oneOf (negated : Bool) (ranges : List (Char × Char))
  | choice (branches : List (List GlobToken))

/-- Why a glob cannot be read. -/
inductive GlobFault where
  | unclosedClass
  | reversedRange (low high : Char)
  | unopenedChoice
  | unclosedChoice
  | danglingEscape
  deriving DecidableEq, Repr

/-- The wording of a fault. -/
def GlobFault.message : GlobFault → String
  | .unclosedClass => "unclosed character class; missing ']'"
  | .reversedRange low high =>
    "invalid range; '" ++ String.ofList [low] ++ "' > '" ++ String.ofList [high] ++ "'"
  | .unopenedChoice =>
    "unopened alternate group; missing '\x7b' (maybe escape '\x7d' with '[\x7d]'?)"
  | .unclosedChoice =>
    "unclosed alternate group; missing '\x7d' (maybe escape '\x7b' with '[\x7b]'?)"
  | .danglingEscape => "dangling '\\'"

/-- A glob that has been read. -/
structure Glob where
  /-- The paths it describes, byte by byte. -/
  pattern : Pattern UInt8

namespace Glob

/-- Where the reading of a glob stands. -/
structure Reading where
  /-- The tokens of the open branch, last first. -/
  tokens : List GlobToken
  /-- The open choices, innermost first: the finished branches of each, last first, and the tokens
  before it, last first. -/
  choices : List (List (List GlobToken) × List GlobToken)
  /-- The character read last. -/
  previous : Option Char

/-- Adds a token to the open branch. -/
def Reading.push (reading : Reading) (token : GlobToken) : Reading :=
  { reading with tokens := token :: reading.tokens }

/-- Widens the last range of a class to end with a character. -/
def endRange (high : Char) :
    List (Char × Char) → Except GlobFault (List (Char × Char))
  | [] => .ok [(high, high)]
  | (low, _) :: others =>
    if high < low then .error (.reversedRange low high) else .ok ((low, high) :: others)

/-- The ranges of a class and what follows it. The class may begin with `]` or `-`, which then
stand for themselves, and a `-` after a character begins a range unless the class ends there. The
arguments say whether nothing has been read yet and whether a range is open; `ranges` are those
read so far, last first. -/
def readClass (isFirst inRange : Bool) (ranges : List (Char × Char)) :
    List Char → Except GlobFault (List (Char × Char) × List Char)
  | [] => .error .unclosedClass
  | ']' :: rest =>
    if isFirst then readClass false false ((']', ']') :: ranges) rest
    else .ok ((if inRange then ('-', '-') :: ranges else ranges).reverse, rest)
  | '-' :: rest =>
    if isFirst then readClass false false (('-', '-') :: ranges) rest
    else if inRange then do
      let ended ← endRange '-' ranges
      readClass false false ended rest
    else readClass false true ranges rest
  | character :: rest =>
    if inRange then do
      let ended ← endRange character ranges
      readClass false false ended rest
    else readClass false false ((character, character) :: ranges) rest

/-- The token of a class whose opening bracket has been read, and what follows it. -/
def readClassToken (text : List Char) : Except GlobFault (GlobToken × List Char) :=
  let (negated, body) := match text with
    | '!' :: rest => (true, rest)
    | '^' :: rest => (true, rest)
    | _ => (false, text)
  (readClass true false [] body).map fun (ranges, after) ↦ (.oneOf negated ranges, after)

/-- A `**` that does not fill a component. -/
def Reading.twoStretches (reading : Reading) : Reading :=
  { (reading.push .stretch).push .stretch with previous := some '*' }

/-- Takes a `**` that fills a component in place of the separator before it. -/
def Reading.components (reading : Reading) (token : GlobToken) (previous : Char) : Reading :=
  match reading.tokens with
  | .leadingComponents :: _ => { reading with previous := some previous }
  | .trailingComponents :: _ => { reading with previous := some previous }
  | _ :: before => { reading with tokens := token :: before, previous := some previous }
  | [] => { reading with tokens := [token], previous := some previous }

/-- Takes a `**`, whose second star has been read; gives what is left to read. -/
def readComponents (reading : Reading) (rest : List Char) : Reading × List Char :=
  if reading.tokens.isEmpty then
    match rest with
    | [] => ({ reading.push .leadingComponents with previous := some '*' }, [])
    | '/' :: after => ({ reading.push .leadingComponents with previous := some '/' }, after)
    | _ => (reading.twoStretches, rest)
  else if reading.previous = some '/' then
    match rest with
    | [] => (reading.components .trailingComponents '*', [])
    | '/' :: after => (reading.components .innerComponents '/', after)
    | character :: _ =>
      if (character = ',' ∨ character = '\x7d') ∧ !reading.choices.isEmpty then
        (reading.components .trailingComponents '*', rest)
      else (reading.twoStretches, rest)
  else (reading.twoStretches, rest)

/-- Reads the first part of a text that is left. -/
def readNext (reading : Reading) (character : Char) (rest : List Char) :
    Except GlobFault (Reading × List Char) :=
  let later := { reading with previous := some character }
  match character with
  | '?' => .ok (later.push .any, rest)
  | '*' =>
    match rest with
    | '*' :: after => .ok (readComponents reading after)
    | _ => .ok (later.push .stretch, rest)
  | '[' =>
    (readClassToken rest).map fun (token, after) ↦
      ({ reading.push token with previous := some ']' }, after)
  | '\x7b' =>
    .ok ({ later with tokens := [], choices := ([], reading.tokens) :: reading.choices }, rest)
  | '\x7d' =>
    match reading.choices with
    | [] => .error .unopenedChoice
    | (branches, before) :: outer =>
      let choice := GlobToken.choice ((reading.tokens.reverse :: branches).reverse)
      .ok ({ later with tokens := choice :: before, choices := outer }, rest)
  | ',' =>
    match reading.choices with
    | [] => .ok (later.push (.literal ','), rest)
    | (branches, before) :: outer =>
      .ok ({ later with
        tokens := [], choices := (reading.tokens.reverse :: branches, before) :: outer }, rest)
  | '\\' =>
    match rest with
    | [] => .error .danglingEscape
    | escaped :: after =>
      .ok ({ reading.push (.literal escaped) with previous := some escaped }, after)
  | _ => .ok (later.push (.literal character), rest)

/-- Reads a text of at most `fuel` characters to its end. -/
def readAll : Nat → Reading → List Char → Except GlobFault (List GlobToken)
  | 0, reading, _ =>
    if reading.choices.isEmpty then .ok reading.tokens.reverse else .error .unclosedChoice
  | _ + 1, reading, [] =>
    if reading.choices.isEmpty then .ok reading.tokens.reverse else .error .unclosedChoice
  | fuel + 1, reading, character :: rest => do
    let (next, after) ← readNext reading character rest
    readAll fuel next after

/-- The tokens of a glob. -/
def tokens (text : String) : Except GlobFault (List GlobToken) :=
  readAll text.length ⟨[], [], none⟩ text.toList

/-- The bytes of a character. -/
def bytesOf (character : Char) : List UInt8 :=
  (String.ofList [character]).toUTF8.toList

/-- The ranges of bytes of a range of characters. A character of several bytes contributes each of
them, and the range runs from the last byte of its first character to the first byte of its last. -/
def byteRanges (range : Char × Char) : List (UInt8 × UInt8) :=
  let single := fun byte : UInt8 ↦ (byte, byte)
  if range.1 = range.2 then (bytesOf range.1).map single
  else
    match (bytesOf range.1).reverse, bytesOf range.2 with
    | low :: before, high :: after => (low, high) :: (before ++ after).map single
    | _, _ => []

/-- The separator of components. -/
def separator : UInt8 := 47

/-- Any byte. -/
def anyByte : Pattern UInt8 :=
  .letter fun _ ↦ true

mutual

/-- The pattern of a token; nothing for a choice all of whose branches are empty. -/
def tokenPattern (separatorIsSpecial : Bool) : GlobToken → Option (Pattern UInt8)
  | .literal character => some (.sequenceOf ((bytesOf character).map .exactly))
  | .any => some (.letter fun byte ↦ !separatorIsSpecial || byte != separator)
  | .stretch => some (.many (.letter fun byte ↦ !separatorIsSpecial || byte != separator))
  | .leadingComponents =>
    some (.either (.optional (.exactly separator)) (.sequence (.many anyByte) (.exactly separator)))
  | .trailingComponents => some (.sequence (.exactly separator) (.many anyByte))
  | .innerComponents =>
    some (.either (.exactly separator)
      (.sequence (.exactly separator) (.sequence (.many anyByte) (.exactly separator))))
  | .oneOf negated ranges =>
    let bytes := ranges.flatMap byteRanges
    some (.letter fun byte ↦ (bytes.any fun range ↦ range.1 ≤ byte && byte ≤ range.2) != negated)
  | .choice branches =>
    match branchPatterns separatorIsSpecial branches with
    | [] => none
    | patterns => some (.eitherOf patterns)

/-- The pattern of a list of tokens; nothing when none of them has one. -/
def tokensPattern (separatorIsSpecial : Bool) : List GlobToken → Option (Pattern UInt8)
  | [] => none
  | token :: rest =>
    match tokenPattern separatorIsSpecial token, tokensPattern separatorIsSpecial rest with
    | none, others => others
    | some first, none => some first
    | some first, some others => some (.sequence first others)

/-- The patterns of the branches that are not empty. -/
def branchPatterns (separatorIsSpecial : Bool) : List (List GlobToken) → List (Pattern UInt8)
  | [] => []
  | branch :: rest =>
    match tokensPattern separatorIsSpecial branch with
    | none => branchPatterns separatorIsSpecial rest
    | some first => first :: branchPatterns separatorIsSpecial rest

end

/-- The pattern of a whole glob. A glob that is nothing but `**` covers every path. -/
def ofTokens (separatorIsSpecial : Bool) (tokens : List GlobToken) : Glob :=
  match tokens with
  | [.leadingComponents] => ⟨.many anyByte⟩
  | _ => ⟨(tokensPattern separatorIsSpecial tokens).getD .empty⟩

/-- Reads a glob. It is at fault when a class or choice is not closed or not opened, a range runs
backwards, or a backslash ends the text. -/
def parse (separatorIsSpecial : Bool) (text : String) : Except GlobFault Glob :=
  (tokens text).map (ofTokens separatorIsSpecial)

/-- The glob describes the whole path. -/
def matchesPath (glob : Glob) (path : String) : Bool :=
  glob.pattern.matchesWhole path.toUTF8.toList

end Glob

end SymbolGraph
