import SymbolGraph.Pattern.Basic
import SymbolGraph.Text.Blank
import SymbolGraph.Text.Decimal
import SymbolGraph.Text.Fold
import SymbolGraph.Text.Identifier

/-!
# Regular expressions

`Regex.parse?` reads a regular expression into a pattern over characters, and `Regex.isMatch` looks
for it anywhere in a text. The expression may use literals and escapes, `.`, the anchors `^` and `$`
and the assertions `\b`, `\B`, `\A`, `\z`, character classes with ranges, negation, nesting, named
ASCII classes and set operations, groups with or without a name, the flags `i`, `m`, `s`, `x`, `U`
and `u`, alternatives, and the repetitions `*`, `+`, `?` and counted ones. Whether a repetition is
greedy does not matter for the question asked. Property classes (`\p`) are not read.
-/

set_option autoImplicit false

namespace SymbolGraph

/-- How the next part of an expression is to be read. -/
structure RegexFlags where
  ignoreCase : Bool
  /-- `^` and `$` also hold at line feeds. -/
  multiLine : Bool
  /-- `.` includes the line feed. -/
  dotAll : Bool
  /-- Blanks and comments are passed over. -/
  extended : Bool

/-- What an escape stands for. -/
inductive RegexEscape where
  | literal (character : Char)
  | oneOf (accepts : Char → Bool)
  | assertion (holds : Option Char → Option Char → Bool)

/-- How two sides of a class are combined. -/
inductive ClassOperation where
  | intersection
  | difference
  | symmetricDifference

namespace Regex

/-- The flags an expression begins with. -/
def initialFlags : RegexFlags where
  ignoreCase := false
  multiLine := false
  dotAll := false
  extended := false

/-- Letters, digits, marks and connecting punctuation. -/
def isWord (character : Char) : Bool :=
  Text.isIdentifierContinue character

/-- Decimal digits; beyond ASCII, the code points at which a run of ten digits begins. -/
def digitRuns : List Nat :=
  [0x30, 0x660, 0x6F0, 0x7C0, 0x966, 0x9E6, 0xA66, 0xAE6, 0xB66, 0xBE6, 0xC66, 0xCE6, 0xD66, 0xDE6,
   0xE50, 0xED0, 0xF20, 0x1040, 0x1090, 0x17E0, 0x1810, 0x1946, 0x19D0, 0x1A80, 0x1A90, 0x1B50,
   0x1BB0, 0x1C40, 0x1C50, 0xA620, 0xA8D0, 0xA900, 0xA9D0, 0xA9F0, 0xAA50, 0xABF0, 0xFF10, 0x104A0,
   0x11066, 0x110F0, 0x11136, 0x111D0, 0x112F0, 0x11450, 0x114D0, 0x11650, 0x116C0, 0x11730,
   0x118E0, 0x11950, 0x11C50, 0x11D50, 0x11DA0, 0x11F50, 0x16A60, 0x16AC0, 0x16B50, 0x1D7CE,
   0x1D7D8, 0x1D7E2, 0x1D7EC, 0x1D7F6, 0x1E140, 0x1E2F0, 0x1E4F0, 0x1E950, 0x1FBF0]

/-- A decimal digit of any script. -/
def isDigit (character : Char) : Bool :=
  digitRuns.any fun first ↦ first ≤ character.toNat && character.toNat < first + 10

/-- The place lies between a word character and another one or the end. -/
def isWordBoundary (before after : Option Char) : Bool :=
  before.any isWord != after.any isWord

/-- Characters that an escape takes as they are. -/
def isEscapable (character : Char) : Bool :=
  character.toNat < 0x80 && !character.isAlphanum

/-- The value of hexadecimal digits. -/
def hexValue? : List Char → Option Nat
  | [] => none
  | digits =>
    digits.foldl (fun value digit ↦ value.bind fun sum ↦
      if digit.isDigit then some (16 * sum + (digit.toNat - 48))
      else if 'a' ≤ digit ∧ digit ≤ 'f' then some (16 * sum + (digit.toNat - 87))
      else if 'A' ≤ digit ∧ digit ≤ 'F' then some (16 * sum + (digit.toNat - 55))
      else none) (some 0)

/-- The character with a code point given by hexadecimal digits. -/
def hexCharacter? (digits : List Char) : Option Char :=
  (hexValue? digits).bind fun point ↦
    if point.isValidChar then some (Char.ofNat point) else none

/-- The escape for a code point of `count` digits, or of any number of digits in braces. -/
def readHex (count : Nat) (text : List Char) : Option (RegexEscape × List Char) :=
  match text with
  | '\x7b' :: rest =>
    let digits := rest.takeWhile (· ≠ '\x7d')
    match rest.drop digits.length with
    | _ :: after => (hexCharacter? digits).map fun character ↦ (.literal character, after)
    | [] => none
  | _ =>
    if (text.take count).length = count then
      (hexCharacter? (text.take count)).map fun character ↦ (.literal character, text.drop count)
    else none

/-- The escape after a backslash. -/
def readEscape : List Char → Option (RegexEscape × List Char)
  | [] => none
  | 'x' :: rest => readHex 2 rest
  | 'u' :: rest => readHex 4 rest
  | 'U' :: rest => readHex 8 rest
  | 'd' :: rest => some (.oneOf isDigit, rest)
  | 'D' :: rest => some (.oneOf fun character ↦ !isDigit character, rest)
  | 's' :: rest => some (.oneOf Text.isBlank, rest)
  | 'S' :: rest => some (.oneOf fun character ↦ !Text.isBlank character, rest)
  | 'w' :: rest => some (.oneOf isWord, rest)
  | 'W' :: rest => some (.oneOf fun character ↦ !isWord character, rest)
  | 'a' :: rest => some (.literal '\x07', rest)
  | 'f' :: rest => some (.literal '\x0c', rest)
  | 't' :: rest => some (.literal '\t', rest)
  | 'n' :: rest => some (.literal '\n', rest)
  | 'r' :: rest => some (.literal '\r', rest)
  | 'v' :: rest => some (.literal '\x0b', rest)
  | 'A' :: rest => some (.assertion fun before _ ↦ before.isNone, rest)
  | 'z' :: rest => some (.assertion fun _ after ↦ after.isNone, rest)
  | 'b' :: rest => some (.assertion isWordBoundary, rest)
  | 'B' :: rest => some (.assertion fun before after ↦ !isWordBoundary before after, rest)
  | '<' :: rest => some (.assertion fun before after ↦ !before.any isWord && after.any isWord, rest)
  | '>' :: rest => some (.assertion fun before after ↦ before.any isWord && !after.any isWord, rest)
  | character :: rest =>
    if isEscapable character then some (.literal character, rest) else none

/-- The class extended by all case variants, when case is ignored. -/
def withVariants (flags : RegexFlags) (accepts : Char → Bool) : Char → Bool :=
  if flags.ignoreCase then
    fun character ↦ (Text.variants character).any accepts || accepts character
  else accepts

/-- The named classes, which hold ASCII characters only. -/
def namedClass? (name : String) : Option (Char → Bool) :=
  let ascii := fun accepts : Char → Bool ↦ fun character : Char ↦
    character.toNat < 0x80 && accepts character
  match name with
  | "alnum" => some (ascii Char.isAlphanum)
  | "alpha" => some (ascii Char.isAlpha)
  | "ascii" => some (ascii fun _ ↦ true)
  | "blank" => some fun character ↦ character = ' ' || character = '\t'
  | "cntrl" => some (ascii fun character ↦ character.toNat < 0x20 || character.toNat = 0x7F)
  | "digit" => some Char.isDigit
  | "graph" => some fun character ↦ 0x20 < character.toNat && character.toNat < 0x7F
  | "lower" => some Char.isLower
  | "print" => some fun character ↦ 0x20 ≤ character.toNat && character.toNat < 0x7F
  | "punct" =>
    some fun character ↦ 0x20 < character.toNat && character.toNat < 0x7F && !character.isAlphanum
  | "space" => some (ascii Text.isBlank)
  | "upper" => some Char.isUpper
  | "word" => some (ascii fun character ↦ character.isAlphanum || character = '_')
  | "xdigit" =>
    some fun character ↦ character.isDigit || ('a' ≤ character && character ≤ 'f') ||
      ('A' ≤ character && character ≤ 'F')
  | _ => none

/-- A named class such as `[:alpha:]`, whose `[:` has been read. -/
def readNamedClass (text : List Char) : Option ((Char → Bool) × List Char) :=
  let (negated, body) := match text with
    | '^' :: rest => (true, rest)
    | _ => (false, text)
  let name := body.takeWhile Char.isAlpha
  match body.drop name.length with
  | ':' :: ']' :: rest =>
    (namedClass? (String.ofList name)).map fun accepts ↦
      (fun character ↦ accepts character != negated, rest)
  | _ => none

/-- One member of a class: a character, or a class of its own. -/
def readMember : List Char → Option (RegexEscape × List Char)
  | [] => none
  | '\\' :: rest =>
    match readEscape rest with
    | some (.assertion _, _) => none
    | other => other
  | character :: rest => some (.literal character, rest)

/-- The members added to a class by a single character or a range, and what follows. -/
def readRange (text : List Char) : Option ((Char → Bool) × List Char) :=
  match readMember text with
  | none => none
  | some (.assertion _, _) => none
  | some (.oneOf accepts, rest) =>
    match rest with
    | '-' :: next :: _ => if next = ']' ∨ next = '-' then some (accepts, rest) else none
    | _ => some (accepts, rest)
  | some (.literal low, rest) =>
    let single := some ((· == low), rest)
    match rest with
    | '-' :: next :: after =>
      if next = ']' ∨ next = '-' then single
      else
        match readMember (next :: after) with
        | some (.literal high, remaining) =>
          if high < low then none
          else some (fun character ↦ low ≤ character && character ≤ high, remaining)
        | _ => none
    | _ => single

/-- Two sides of a class combined; no operation stands before the first. -/
def combine : Option (ClassOperation × (Char → Bool)) → (Char → Bool) → Char → Bool
  | none, right => right
  | some (.intersection, left), right => fun character ↦ left character && right character
  | some (.difference, left), right => fun character ↦ left character && !right character
  | some (.symmetricDifference, left), right => fun character ↦ left character != right character

/-- The members a class begins with: dashes, or a closing bracket, stand for themselves there. -/
def readClassStart : List Char → (Char → Bool) × List Char
  | '-' :: rest => (fun character ↦ character == '-', (rest.dropWhile (· == '-')))
  | ']' :: rest => (fun character ↦ character == ']', rest)
  | text => (fun _ ↦ false, text)

/-- The rest of a class after its opening bracket and its first members, within a number of
steps. -/
def readClass (flags : RegexFlags) :
    Nat → Option (ClassOperation × (Char → Bool)) → (Char → Bool) → List Char →
      Option ((Char → Bool) × List Char)
  | 0, _, _, _ => none
  | _ + 1, _, _, [] => none
  | _ + 1, pending, members, ']' :: rest => some (combine pending members, rest)
  | fuel + 1, pending, members, '&' :: '&' :: rest =>
    readClass flags fuel (some (.intersection, combine pending members)) (fun _ ↦ false) rest
  | fuel + 1, pending, members, '-' :: '-' :: rest =>
    readClass flags fuel (some (.difference, combine pending members)) (fun _ ↦ false) rest
  | fuel + 1, pending, members, '~' :: '~' :: rest =>
    readClass flags fuel (some (.symmetricDifference, combine pending members)) (fun _ ↦ false) rest
  | fuel + 1, pending, members, '[' :: rest =>
    let named := match rest with
      | ':' :: body => readNamedClass body
      | _ => none
    let nested := match named with
      | some found => some found
      | none =>
        let (negated, body) := match rest with
          | '^' :: after => (true, after)
          | _ => (false, rest)
        let (first, after) := readClassStart body
        (readClass flags fuel none first after).map fun (accepts, remaining) ↦
          (fun character ↦ withVariants flags accepts character != negated, remaining)
    match nested with
    | none => none
    | some (accepts, remaining) =>
      let grown := fun character ↦ members character || accepts character
      readClass flags fuel pending grown remaining
  | fuel + 1, pending, members, text@(character :: rest) =>
    if flags.extended && Text.isBlank character then readClass flags fuel pending members rest
    else
      match readRange text with
      | none => none
      | some (accepts, remaining) =>
        readClass flags fuel pending (fun next ↦ members next || accepts next) remaining

/-- A number with blanks around it. -/
def readNumber (text : List Char) : Option (Nat × List Char) :=
  let body := Text.trimStart text
  let digits := body.takeWhile Char.isDigit
  match digits with
  | [] => none
  | _ =>
    let value := Text.digitsValue digits
    if value < Nat.pow 2 32 then some (value, Text.trimStart (body.drop digits.length)) else none

/-- The bounds of a counted repetition whose opening brace has been read. -/
def readBounds (text : List Char) : Option (Nat × Option Nat × List Char) :=
  match readNumber text with
  | none => none
  | some (least, '\x7d' :: rest) => some (least, some least, rest)
  | some (least, ',' :: rest) =>
    match Text.trimStart rest with
    | '\x7d' :: after => some (least, none, after)
    | _ =>
      match readNumber rest with
      | some (most, '\x7d' :: after) =>
        if most < least then none else some (least, some most, after)
      | _ => none
  | some _ => none

/-- Flag letters up to the `:` or `)` that ends them; tells which it was. -/
def readFlags (isOn : Bool) (flags : RegexFlags) :
    List Char → Option (RegexFlags × Bool × List Char)
  | [] => none
  | ':' :: rest => some (flags, true, rest)
  | ')' :: rest => some (flags, false, rest)
  | '-' :: rest => if isOn then readFlags false flags rest else none
  | 'i' :: rest => readFlags isOn { flags with ignoreCase := isOn } rest
  | 'm' :: rest => readFlags isOn { flags with multiLine := isOn } rest
  | 's' :: rest => readFlags isOn { flags with dotAll := isOn } rest
  | 'x' :: rest => readFlags isOn { flags with extended := isOn } rest
  | 'U' :: rest => readFlags isOn flags rest
  | 'u' :: rest => readFlags isOn flags rest
  | _ => none

/-- What follows the name of a group, which ends with `>`. -/
def dropGroupName (text : List Char) : Option (List Char) :=
  let name := text.takeWhile (· ≠ '>')
  match name, text.drop name.length with
  | first :: others, _ :: rest =>
    if (Text.isIdentifierStart first || first = '_') &&
        others.all fun character ↦ Text.isIdentifierContinue character || character = '.' ||
          character = '[' || character = ']' then some rest else none
  | _, _ => none

/-- The character itself, or any case variant when case is ignored. -/
def literal (flags : RegexFlags) (wanted : Char) : Pattern Char :=
  if flags.ignoreCase then
    let folded := Text.fold wanted
    .letter fun character ↦ Text.fold character == folded
  else .exactly wanted

/-- An opened group: the flags and the parts it was opened with. -/
structure Frame where
  flags : RegexFlags
  /-- The finished alternatives, last first. -/
  alternatives : List (Pattern Char)
  /-- The parts of the open alternative, last first; a change of flags is a part that cannot be
  repeated. -/
  parts : List (Option (Pattern Char))

/-- The pattern of everything in a frame. -/
def Frame.pattern (frame : Frame) : Pattern Char :=
  .eitherOf ((.sequenceOf (frame.parts.reverse.filterMap id) :: frame.alternatives).reverse)

/-- Adds a part that can be repeated. -/
def Frame.push (frame : Frame) (part : Pattern Char) : Frame :=
  { frame with parts := some part :: frame.parts }

/-- An empty group read with the given flags. -/
def Frame.opened (flags : RegexFlags) : Frame where
  flags := flags
  alternatives := []
  parts := []

/-- Repeats the last part. -/
def Frame.repeatLast (frame : Frame) (least : Nat) (most : Option Nat) : Option Frame :=
  match frame.parts with
  | some part :: before => some { frame with parts := some (part.repeated least most) :: before }
  | _ => none

/-- Leaves out the question mark that makes a repetition lazy. -/
def dropLazy : List Char → List Char
  | '?' :: rest => rest
  | text => text

/-- Reads an expression within a number of steps; `outer` are the groups around the open one. -/
def read : Nat → Frame → List Frame → List Char → Option (Pattern Char)
  | _, frame, outer, [] => if outer.isEmpty then some frame.pattern else none
  | 0, _, _, _ :: _ => none
  | fuel + 1, frame, outer, '|' :: rest =>
    read fuel { frame with
      alternatives := .sequenceOf (frame.parts.reverse.filterMap id) :: frame.alternatives,
      parts := [] } outer rest
  | fuel + 1, frame, outer, '(' :: '?' :: rest =>
    let named := match rest with
      | 'P' :: '<' :: name => some (dropGroupName name)
      | '<' :: name => some (dropGroupName name)
      | _ => none
    match named with
    | some none => none
    | some (some after) => read fuel (.opened frame.flags) (frame :: outer) after
    | none =>
      match readFlags true frame.flags rest with
      | none => none
      | some (flags, true, after) => read fuel (.opened flags) (frame :: outer) after
      | some (flags, false, after) =>
        if rest.head? = some ')' then none
        else read fuel { frame with flags, parts := none :: frame.parts } outer after
  | fuel + 1, frame, outer, '(' :: rest => read fuel (.opened frame.flags) (frame :: outer) rest
  | fuel + 1, frame, outer, ')' :: rest =>
    match outer with
    | [] => none
    | around :: others => read fuel (around.push frame.pattern) others rest
  | fuel + 1, frame, outer, '*' :: rest =>
    (frame.repeatLast 0 none).bind fun next ↦ read fuel next outer (dropLazy rest)
  | fuel + 1, frame, outer, '+' :: rest =>
    (frame.repeatLast 1 none).bind fun next ↦ read fuel next outer (dropLazy rest)
  | fuel + 1, frame, outer, '?' :: rest =>
    (frame.repeatLast 0 (some 1)).bind fun next ↦ read fuel next outer (dropLazy rest)
  | fuel + 1, frame, outer, '\x7b' :: rest =>
    (readBounds rest).bind fun (least, most, after) ↦
      (frame.repeatLast least most).bind fun next ↦ read fuel next outer (dropLazy after)
  | fuel + 1, frame, outer, '[' :: rest =>
    let (negated, body) := match rest with
      | '^' :: after => (true, after)
      | _ => (false, rest)
    let (first, after) := readClassStart body
    (readClass frame.flags (after.length + 1) none first after).bind fun (accepts, remaining) ↦
      let members := withVariants frame.flags accepts
      read fuel (frame.push (.letter fun character ↦ members character != negated)) outer remaining
  | fuel + 1, frame, outer, '\\' :: rest =>
    (readEscape rest).bind fun (escape, after) ↦
      let part := match escape with
        | .literal character => literal frame.flags character
        | .oneOf accepts => .letter accepts
        | .assertion holds => .boundary holds
      read fuel (frame.push part) outer after
  | fuel + 1, frame, outer, '.' :: rest =>
    let accepts := if frame.flags.dotAll then fun _ ↦ true else fun character ↦ character != '\n'
    read fuel (frame.push (.letter accepts)) outer rest
  | fuel + 1, frame, outer, '^' :: rest =>
    let isMultiLine := frame.flags.multiLine
    let holds := fun (before _ : Option Char) ↦
      before.isNone || (isMultiLine && before == some '\n')
    read fuel (frame.push (.boundary holds)) outer rest
  | fuel + 1, frame, outer, '$' :: rest =>
    let isMultiLine := frame.flags.multiLine
    let holds := fun (_ after : Option Char) ↦
      after.isNone || (isMultiLine && after == some '\n')
    read fuel (frame.push (.boundary holds)) outer rest
  | fuel + 1, frame, outer, character :: rest =>
    if frame.flags.extended && Text.isBlank character then read fuel frame outer rest
    else if frame.flags.extended && character == '#' then
      read fuel frame outer (rest.dropWhile (· ≠ '\n'))
    else read fuel (frame.push (literal frame.flags character)) outer rest

/-- Reads a regular expression; nothing when it is malformed. -/
def parse? (text : String) : Option (Pattern Char) :=
  read text.length (.opened initialFlags) [] text.toList

/-- The expression is found somewhere in the text. -/
def isMatch (pattern : Pattern Char) (text : String) : Bool :=
  pattern.occursIn text.toList

end Regex

end SymbolGraph
