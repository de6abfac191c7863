import Switchboard.Pattern.Basic
import Switchboard.Text.Blank
import Switchboard.Text.Letters

/-!
# Reading patterns

A pattern is read from its first character on, and the first fault ends it. Readers take characters
from the front and answer what they read with the characters after it. Flags hold from where they
are given to the end of the group.
-/

namespace Switchboard.Pattern

/-- What a pattern can be told about its characters. Whether repetitions are reluctant is no matter
to whether a match exists. -/
structure Flags where
  ignoreCase : Bool := false
  multiLine : Bool := false
  dotMatchesAll : Bool := false
  swapGreed : Bool := false
  crlf : Bool := false
  verbose : Bool := false
  deriving DecidableEq, Repr

/-- What stands for one character or one place. -/
inductive Atom where
  | char (c : Char)
  | set (s : CharSet)
  | look (l : Look)

/-- The expression of an atom. -/
def Atom.toExpr : Atom → Expr
  | .char c => .char c
  | .set s => .set s
  | .look l => .look l

/-! ## Blanks -/

/-- Passes over white space and comments. -/
def skipVerbose : (inComment : Bool) → List Char → List Char
  | _, [] => []
  | true, c :: rest => skipVerbose (c != '\n') rest
  | false, c :: rest =>
    if Text.isBlank c then skipVerbose false rest
    else if c == '#' then skipVerbose true rest
    else c :: rest

namespace Flags

/-- Passes over what does not count between parts. -/
def space (flags : Flags) (cs : List Char) : List Char :=
  if flags.verbose then skipVerbose false cs else cs

/-- Passes over a character and what does not count after it. -/
def advance (flags : Flags) (cs : List Char) : List Char := flags.space (cs.drop 1)

/-- The atom of a character. -/
def atom (flags : Flags) (c : Char) : Atom :=
  let r := Range.single c
  match (if flags.ignoreCase then r.otherCase? else none) with
  | some other => .set (.ofRanges [r, other])
  | none => .char c

/-- What the dot matches. -/
def dot (flags : Flags) : Expr :=
  let excluded : List Range :=
    if flags.dotMatchesAll then []
    else if flags.crlf then [.single '\n', .single '\r']
    else [.single '\n']
  .set ⟨excluded, true⟩

/-- What the caret asserts. -/
def start (flags : Flags) : Look := if flags.multiLine then .lineStart flags.crlf else .textStart

/-- What the dollar asserts. -/
def stop (flags : Flags) : Look := if flags.multiLine then .lineEnd flags.crlf else .textEnd

end Flags

/-! ## Numbers -/

/-- The value of a hexadecimal digit. -/
def hexValue? (c : Char) : Option Nat :=
  if c.isDigit then some (c.toNat - 48)
  else if 'a' ≤ c ∧ c ≤ 'f' then some (c.toNat - 87)
  else if 'A' ≤ c ∧ c ≤ 'F' then some (c.toNat - 55)
  else none

/-- The character of a number. -/
def character (number : Nat) (fault : Fault) : Except Fault Char :=
  if number.isValidChar then .ok (Char.ofNat number) else .error fault

/-- The rest of a number of fixed length, of which a digit must come next. -/
def fixedHex (flags : Flags) : (count number : Nat) → List Char →
    Except Fault (Char × List Char)
  | 0, number, cs => do return (← character number .fixedInvalid, cs)
  | count + 1, number, cs =>
    match cs with
    | [] => .error .fixedOpen
    | c :: _ =>
      match hexValue? c with
      | none => .error .fixedNonHex
      | some d => fixedHex flags count (number * 16 + d) (flags.advance cs)

/-- The rest of a number in braces; `left` bounds its digits and `some` says that it has one. -/
def bracedHex (flags : Flags) : (left : Nat) → (digits : Option Nat) → List Char →
    Except Fault (Char × List Char)
  | 0, _, _ => .error .bracedOpen
  | left + 1, digits, cs =>
    match cs with
    | [] => .error .bracedOpen
    | '}' :: _ =>
      match digits with
      | none => .error .bracedEmpty
      | some number => do return (← character number .bracedInvalid, flags.advance cs)
    | c :: _ =>
      match hexValue? c with
      | none => .error .bracedNonHex
      | some d => bracedHex flags left (some (digits.getD 0 * 16 + d)) (flags.advance cs)

/-- A character by its number, after the letter of the escape. -/
def hexEscape (flags : Flags) (length : Nat) (cs : List Char) : Except Fault (Atom × List Char) := do
  let (c, rest) ← match flags.space cs with
    | [] => .error .hexOpen
    | '{' :: rest => bracedHex flags (cs.length + 1) none (flags.space rest)
    | digits => fixedHex flags length 0 digits
  return (flags.atom c, rest)

/-- Digits with what does not count after each; `left` bounds them. -/
def decimalDigits (flags : Flags) : (left : Nat) → (digits : Option Nat) → List Char →
    Option Nat × List Char
  | left + 1, digits, c :: rest =>
    if c.isDigit then
      decimalDigits flags left (some (digits.getD 0 * 10 + (c.toNat - 48))) (flags.space rest)
    else (digits, c :: rest)
  | _, digits, cs => (digits, cs)

/-- White space, with what does not count after each character of it; `left` bounds them. -/
def blanks (flags : Flags) : (left : Nat) → List Char → List Char
  | left + 1, c :: rest => if Text.isBlank c then blanks flags left (flags.space rest) else c :: rest
  | _, cs => cs

/-- A count of 32 bits with white space around it. -/
def readCount (flags : Flags) (cs : List Char) : Except Fault (Nat × List Char) :=
  let cs := cs.dropWhile Text.isBlank
  let (digits, rest) := decimalDigits flags (cs.length + 1) none cs
  match digits with
  | none => .error .noDigits
  | some n =>
    if n < 0x100000000 then .ok (n, blanks flags (rest.length + 1) rest) else .error .invalidDecimal

/-! ## Named sets -/

/-- The ranges of pairs of characters. -/
def ranges (pairs : List (Char × Char)) : List Range := pairs.map fun p => ⟨p.1, p.2⟩

/-- The set of a name that stands between colons in a class. -/
def namedSet? (name : String) : Option CharSet :=
  (match name with
  | "alnum" => some [('0', '9'), ('A', 'Z'), ('a', 'z')]
  | "alpha" => some [('A', 'Z'), ('a', 'z')]
  | "ascii" => some [(Char.ofNat 0, Char.ofNat 0x7F)]
  | "blank" => some [('\t', '\t'), (' ', ' ')]
  | "cntrl" => some [(Char.ofNat 0, Char.ofNat 0x1F), (Char.ofNat 0x7F, Char.ofNat 0x7F)]
  | "digit" => some [('0', '9')]
  | "graph" => some [('!', '~')]
  | "lower" => some [('a', 'z')]
  | "print" => some [(' ', '~')]
  | "punct" => some [('!', '/'), (':', '@'), ('[', Char.ofNat 0x60), (Char.ofNat 0x7B, '~')]
  | "space" => some [('\t', '\r'), (' ', ' ')]
  | "upper" => some [('A', 'Z')]
  | "word" => some [('0', '9'), ('A', 'Z'), ('_', '_'), ('a', 'z')]
  | "xdigit" => some [('0', '9'), ('A', 'F'), ('a', 'f')]
  | _ => none).map fun pairs => .ofRanges (ranges pairs)

/-- The set of the letter of an escape; a capital letter means all other characters. -/
def letterSet? (c : Char) : Option CharSet :=
  let small := match c.toLower with
    | 'd' => namedSet? "digit"
    | 's' => namedSet? "space"
    | 'w' => namedSet? "word"
    | _ => none
  if c.isUpper then small.map CharSet.complement else small

/-! ## Escapes -/

/-- Whether an escaped character stands for itself: all of ASCII but letters, digits and angle
brackets. -/
def escapesItself (c : Char) : Bool :=
  c.toNat < 0x80 && !c.isAlphanum && c != '<' && c != '>'

/-- A character of the name of a boundary. -/
def isBoundaryChar (c : Char) : Bool := c.isAlpha || c == '-'

/-- The name of a boundary, with what does not count after each character; `left` bounds them. -/
def boundaryName (flags : Flags) : (left : Nat) → (done : List Char) → List Char →
    String × List Char
  | left + 1, done, c :: rest =>
    if isBoundaryChar c then boundaryName flags left (c :: done) (flags.space rest)
    else (String.ofList done.reverse, c :: rest)
  | _, done, cs => (String.ofList done.reverse, cs)

/-- A boundary in braces, if what comes next is one and not a count. -/
def readBoundary (flags : Flags) (cs : List Char) : Except Fault (Look × List Char) :=
  match cs with
  | '{' :: rest =>
    match flags.space rest with
    | [] => .error .boundaryEmpty
    | c :: more =>
      if !isBoundaryChar c then .ok (.word, cs)
      else
        match boundaryName flags (rest.length + 1) [] (c :: more) with
        | (name, '}' :: after) =>
          match name with
          | "start" => .ok (.wordStart, after)
          | "end" => .ok (.wordEnd, after)
          | "start-half" => .ok (.wordStartHalf, after)
          | "end-half" => .ok (.wordEndHalf, after)
          | _ => .error .boundaryUnknown
        | _ => .error .boundaryOpen
  | _ => .ok (.word, cs)

/-- An escape, after its backslash. -/
def readEscape (flags : Flags) : List Char → Except Fault (Atom × List Char)
  | [] => .error .escapeOpen
  | c :: rest =>
    if c.isDigit then .error .backreference
    else if c == 'p' || c == 'P' then .error .unicodeClass
    else if c == 'x' then hexEscape flags 2 rest
    else if c == 'u' then hexEscape flags 4 rest
    else if c == 'U' then hexEscape flags 8 rest
    else if escapesItself c then .ok (flags.atom c, rest)
    else
      match letterSet? c with
      | some s => .ok (.set s, rest)
      | none =>
        match c with
        | 'a' => .ok (flags.atom (Char.ofNat 0x07), rest)
        | 'f' => .ok (flags.atom (Char.ofNat 0x0C), rest)
        | 't' => .ok (flags.atom '\t', rest)
        | 'n' => .ok (flags.atom '\n', rest)
        | 'r' => .ok (flags.atom '\r', rest)
        | 'v' => .ok (flags.atom (Char.ofNat 0x0B), rest)
        | 'A' => .ok (.look .textStart, rest)
        | 'z' => .ok (.look .textEnd, rest)
        | 'b' => (readBoundary flags rest).map fun (l, rest) => (.look l, rest)
        | 'B' => .ok (.look .notWord, rest)
        | '<' => .ok (.look .wordStart, rest)
        | '>' => .ok (.look .wordEnd, rest)
        | _ => .error .unknownEscape

/-! ## Classes -/

/-- An item of a class. -/
def readItem (flags : Flags) : List Char → Except Fault (Atom × List Char)
  | '\\' :: rest => readEscape flags rest
  | c :: rest => .ok (.char c, rest)
  | [] => .error .classOpen

/-- The ranges of an item of a class. -/
def Atom.ranges : Atom → Except Fault (List Range)
  | .char c => .ok [.single c]
  | .set s => .ok s.toRanges
  | .look _ => .error .classInvalidItem

/-- An item of a class as an end of a range. -/
def Atom.endOfRange : Atom → Except Fault Char
  | .char c => .ok c
  | _ => .error .rangeOfClass

/-- The character that follows a dash, as far as it decides whether a range goes on: in a verbose
pattern white space does not count, and of a comment only its mark and the white space after it. -/
def peekAfterDash (flags : Flags) (cs : List Char) : Option Char :=
  if flags.verbose then
    let after := cs.dropWhile Text.isBlank
    let shown := match after with
      | '#' :: more => more.dropWhile Text.isBlank
      | more => more
    match shown with
    | c :: _ => some c
    | [] => cs.head?
  else cs.head?

/-- An item of a class, or a range of two. -/
def readClassRange (flags : Flags) (cs : List Char) : Except Fault (List Range × List Char) := do
  let (first, rest) ← readItem flags cs
  match flags.space rest with
  | [] => throw .classOpenAfterItem
  | '-' :: more =>
    let peeked := peekAfterDash flags more
    if peeked == some ']' || peeked == some '-' then
      return (← first.ranges, '-' :: more)
    match flags.space more with
    | [] => throw .classOpenAfterDash
    | last =>
      let (last, rest) ← readItem flags last
      let low ← first.endOfRange
      let high ← last.endOfRange
      if high < low then throw .rangeReversed
      return ([⟨low, high⟩], rest)
  | rest => return (← first.ranges, rest)

/-- A named set in a class, if one comes next. -/
def readNamedSet? (cs : List Char) : Option (CharSet × List Char) :=
  match cs with
  | '[' :: ':' :: rest =>
    let (negated, rest) := match rest with
      | '^' :: more => (true, more)
      | more => (false, more)
    let name := rest.takeWhile (· != ':')
    match rest.drop name.length with
    | ':' :: ']' :: after =>
      (namedSet? (String.ofList name)).map fun s => (if negated then s.complement else s, after)
    | _ => none
  | _ => none

/-- The items of a class, up to and with its end; `left` bounds them. -/
def readClassItems (flags : Flags) (negated : Bool) : (left : Nat) → (done : List Range) →
    List Char → Except Fault (CharSet × List Char)
  | 0, _, _ => .error .classOpen
  | left + 1, done, cs => do
    match flags.space cs with
    | [] => throw .classOpen
    | '[' :: rest =>
      match readNamedSet? ('[' :: rest) with
      | some (s, rest) => readClassItems flags negated left (done ++ s.toRanges) rest
      | none => throw .classNested
    | ']' :: rest =>
      let s := if flags.ignoreCase then CharSet.foldCase done else .ofRanges done
      return (if negated then s.complement else s, rest)
    | '&' :: '&' :: _ => throw .classIntersection
    | '-' :: '-' :: _ => throw .classDifference
    | '~' :: '~' :: _ => throw .classSymmetricDifference
    | cs =>
      let (more, rest) ← readClassRange flags cs
      readClassItems flags negated left (done ++ more) rest

/-- The dashes at the beginning of a class, which stand for themselves; `left` bounds them. -/
def leadingDashes (flags : Flags) : (left : Nat) → (done : List Range) → List Char →
    Except Fault (List Range × List Char)
  | left + 1, done, '-' :: rest =>
    match flags.space rest with
    | [] => .error .classOpenAfterDash
    | more => leadingDashes flags left (.single '-' :: done) more
  | _, done, cs => .ok (done, cs)

/-- A class, after its opening bracket. -/
def readClass (flags : Flags) (cs : List Char) : Except Fault (CharSet × List Char) := do
  let cs := flags.space cs
  if cs.isEmpty then throw .classOpen
  let negated := cs.head? == some '^'
  let cs := if negated then flags.advance cs else cs
  if cs.isEmpty then throw .classOpenAfterNegation
  let bound := cs.length + 1
  let (dashes, cs) ← leadingDashes flags bound [] cs
  match dashes, cs with
  | [], ']' :: rest =>
    match flags.space rest with
    | [] => throw .classOpenAfterBracket
    | more => readClassItems flags negated bound [.single ']'] more
  | dashes, cs => readClassItems flags negated bound dashes cs

/-! ## Repetitions -/

/-- Passes over the mark of a reluctant repetition. -/
def skipReluctant : List Char → List Char
  | '?' :: rest => rest
  | cs => cs

/-- The greatest count after a comma; none if the count ends there. -/
def readMaximum (flags : Flags) (cs : List Char) : Except Fault (Option Nat × List Char) := do
  match flags.space cs with
  | [] => throw .countOpenAfterComma
  | '}' :: rest => return (none, '}' :: rest)
  | cs =>
    let (max, rest) ← readCount flags cs
    if rest.isEmpty then throw .countOpenAfterMax
    return (some max, rest)

/-- A count, after its opening brace. -/
def readCounts (flags : Flags) (cs : List Char) :
    Except Fault (Nat × Option Nat × List Char) := do
  let cs := flags.space cs
  if cs.isEmpty then throw .countOpen
  let (min, rest) ← readCount flags cs
  let (max, rest) ← match rest with
    | [] => throw .countOpenAfterMin
    | ',' :: rest => readMaximum flags rest
    | rest => pure (some min, rest)
  match rest with
  | '}' :: rest =>
    if max.any (· < min) then throw .countReversed
    return (min, max, skipReluctant (flags.space rest))
  | _ => throw .countInvalid

/-! ## Groups -/

/-- The end of the name of a group; `first` says that no character of it has been read. -/
def readName (first : Bool) (done : List Char) : List Char → Except Fault (String × List Char)
  | [] => .error (if first then .missingName else .openName)
  | c :: rest =>
    if c == '>' then
      if first then .error .emptyName else .ok (String.ofList done.reverse, rest)
    else if c == '_' || Text.isLetter c
        || (!first && (c == '.' || c == '[' || c == ']' || Text.isNumber c)) then
      readName false (c :: done) rest
    else .error .invalidName

/-- The flags with one of them set. -/
def Flags.set? (flags : Flags) (enabled : Bool) : Char → Option Flags
  | 'i' => some { flags with ignoreCase := enabled }
  | 'm' => some { flags with multiLine := enabled }
  | 's' => some { flags with dotMatchesAll := enabled }
  | 'U' => some { flags with swapGreed := enabled }
  | 'R' => some { flags with crlf := enabled }
  | 'x' => some { flags with verbose := enabled }
  | 'u' => some flags
  | _ => none

/-- Flags up to the colon or the bracket that ends them. White space between them counts, even in a
verbose pattern. -/
def readFlags (flags : Flags) (negate dangling : Bool) (seen : List Char) :
    List Char → Except Fault (Flags × List Char)
  | [] => .error .openFlags
  | c :: rest =>
    if c == ':' || c == ')' then
      if dangling then .error .danglingNegation else .ok (flags, c :: rest)
    else if c == '-' then
      if negate then .error .repeatedNegation else readFlags flags true true seen rest
    else
      match flags.set? (!negate) c with
      | none => .error .unknownFlag
      | some flags =>
        if seen.contains c then .error .duplicateFlag
        else readFlags flags negate false (c :: seen) rest

/-- What a group begins with. -/
inductive Opening where
  | capture
  | plain (flags : Flags)
  | directive (flags : Flags)

/-- Whether a group looks around. -/
def isLookAround : List Char → Bool
  | '?' :: '=' :: _ => true
  | '?' :: '!' :: _ => true
  | '?' :: '<' :: '=' :: _ => true
  | '?' :: '<' :: '!' :: _ => true
  | _ => false

/-- The characters after the mark of a named group. -/
def namedGroup? : List Char → Option (List Char)
  | '?' :: 'P' :: '<' :: rest => some rest
  | '?' :: '<' :: rest => some rest
  | _ => none

/-- The beginning of a group, after its bracket. A directive leaves its closing bracket. -/
def readOpening (flags : Flags) (names : List String) (cs : List Char) :
    Except Fault (Opening × List String × List Char) := do
  let cs := flags.space cs
  if isLookAround cs then throw .lookAround
  match namedGroup? cs with
  | some rest =>
    let (name, rest) ← readName true [] rest
    if names.contains name then throw .duplicateName
    return (.capture, name :: names, rest)
  | none =>
    match cs with
    | '?' :: rest =>
      if rest.isEmpty then throw .openGroupQuestion
      let (inner, after) ← readFlags flags false false [] rest
      match after with
      | ')' :: _ =>
        if after.length == rest.length then throw .emptyFlags
        return (.directive inner, names, after)
      | after => return (.plain inner, names, after.drop 1)
    | cs => return (.capture, names, cs)

/-! ## Expressions -/

/-- What has been read of a group. Alternatives and parts are kept last first. -/
structure Draft where
  flags : Flags := {}
  names : List String := []
  choices : List Expr := []
  parts : List Expr := []

namespace Draft

/-- The draft with one more part. -/
def push (d : Draft) (part : Expr) : Draft := { d with parts := part :: d.parts }

/-- The draft at the beginning of its next alternative. -/
def nextChoice (d : Draft) : Draft :=
  { d with choices := .inSequence d.parts.reverse :: d.choices, parts := [] }

/-- The expression of the draft. -/
def toExpr (d : Draft) : Expr := .oneOf d.nextChoice.choices.reverse

end Draft

/-- What a group holds, up to its end, which is left. `group` reads what stands inside a group in
it, `isOuter` says that it is no group but the whole pattern, and `left` bounds its parts. -/
def readParts (group : Draft → List Char → Except Fault (Draft × List Char)) (isOuter : Bool) :
    (left : Nat) → Draft → List Char → Except Fault (Draft × List Char)
  | 0, d, cs => .ok (d, cs)
  | left + 1, d, cs => do
    match d.flags.space cs with
    | [] => return (d, [])
    | '(' :: rest =>
      let (opening, names, rest) ← readOpening d.flags d.names rest
      let d := { d with names := names }
      let (d, rest) ← match opening with
        | .directive flags => pure ({ d with flags := flags }, rest)
        | .capture => do
          let (inner, rest) ← group { flags := d.flags, names := names } rest
          pure ({ d with names := inner.names }.push (.group inner.toExpr), rest)
        | .plain flags => do
          let (inner, rest) ← group { flags := flags, names := names } rest
          pure ({ d with names := inner.names }.push inner.toExpr, rest)
      match rest with
      | ')' :: rest => readParts group isOuter left d rest
      | _ => throw .openGroup
    | ')' :: rest =>
      if isOuter then throw .unopenedGroup
      return (d, ')' :: rest)
    | '|' :: rest => readParts group isOuter left d.nextChoice rest
    | '[' :: rest =>
      let (s, rest) ← readClass d.flags rest
      readParts group isOuter left (d.push (.set s)) rest
    | '{' :: rest =>
      match d.parts with
      | [] => throw .nothingToCount
      | part :: parts =>
        let (min, max, rest) ← readCounts d.flags rest
        readParts group isOuter left { d with parts := .times min max part :: parts } rest
    | c :: rest =>
      let counts : Option (Nat × Option Nat) := match c with
        | '?' => some (0, some 1)
        | '*' => some (0, none)
        | '+' => some (1, none)
        | _ => none
      match counts with
      | some (min, max) =>
        match d.parts with
        | [] => throw .nothingToRepeat
        | part :: parts =>
          readParts group isOuter left { d with parts := .times min max part :: parts }
            (skipReluctant rest)
      | none =>
        let (part, rest) ← match c with
          | '\\' => (readEscape d.flags rest).map fun (a, rest) => (a.toExpr, rest)
          | '.' => pure (d.flags.dot, rest)
          | '^' => pure (.look d.flags.start, rest)
          | '$' => pure (.look d.flags.stop, rest)
          | c => pure ((d.flags.atom c).toExpr, rest)
        readParts group isOuter left (d.push part) rest

/-- What a group holds, inside which `depth` groups may stand. -/
def readGroup (bound : Nat) : (depth : Nat) → Draft → List Char → Except Fault (Draft × List Char)
  | 0 => fun _ _ => .error .tooDeep
  | depth + 1 => readParts (readGroup bound depth) false bound

/-- How deep groups, and parts of an expression, may stand inside each other. -/
def maxDepth : Nat := 50

/-- The most bytes that a matcher may take. -/
def maxMemory : Nat := 10 * 0x100000

/-- The expression of a pattern's text. -/
def Expr.ofText (pattern : String) : Except Fault Expr := do
  let cs := pattern.toList
  let bound := cs.length + 1
  let (d, _) ← readParts (readGroup bound maxDepth) true bound {} cs
  let e := d.toExpr
  if maxDepth < e.depth then throw .tooDeep
  if maxMemory < e.memory then throw .tooLarge
  return e

end Switchboard.Pattern
