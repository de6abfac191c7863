import Switchboard.Pattern.Error

/-!
# Patterns

A pattern is a regular expression over characters with assertions about the place between two of
them. A set of characters is a list of ranges.
-/

namespace Switchboard.Pattern

/-! ## Sets of characters -/

/-- The characters from a first to a last one. -/
structure Range where
  first : Char
  last : Char
  deriving DecidableEq, Repr

namespace Range

/-- One character. -/
def single (c : Char) : Range := ⟨c, c⟩

/-- Whether a character lies in the range. -/
def contains (r : Range) (c : Char) : Bool := r.first ≤ c && c ≤ r.last

/-- The part of the range from `low` to `high`, if there is one, moved by `shift`. -/
def shifted? (r : Range) (low high : Char) (shift : Nat → Nat) : Option Range :=
  if r.first ≤ high ∧ low ≤ r.last then
    some ⟨Char.ofNat (shift (Nat.max r.first.toNat low.toNat)),
      Char.ofNat (shift (Nat.min r.last.toNat high.toNat))⟩
  else none

/-- The other case of the letters of the range: of its small ones, else of its capital ones. -/
def otherCase? (r : Range) : Option Range :=
  match r.shifted? 'a' 'z' (· - 32) with
  | some small => some small
  | none => r.shifted? 'A' 'Z' (· + 32)

end Range

/-- A set of characters: those of some ranges, or all others. A negated set holds the characters
outside its ranges. -/
structure CharSet where
  ranges : List Range
  negated : Bool := false
  deriving DecidableEq, Repr

namespace CharSet

/-- The set of some ranges. -/
def ofRanges (ranges : List Range) : CharSet := ⟨ranges, false⟩

/-- Whether a character is in the set. -/
def contains (s : CharSet) (c : Char) : Bool := (s.ranges.any (·.contains c)) != s.negated

/-- All characters that are not in the set. -/
def complement (s : CharSet) : CharSet := { s with negated := !s.negated }

/-- Adds a range behind a list of joined ranges, which is kept last first. -/
def joinLast (joined : List Range) (r : Range) : List Range :=
  match joined with
  | last :: before =>
    if r.first.toNat ≤ last.last.toNat + 1 then
      ⟨last.first, if last.last ≤ r.last then r.last else last.last⟩ :: before
    else r :: last :: before
  | [] => [r]

/-- The same characters as ranges in order, with gaps between them. -/
def joined (ranges : List Range) : List Range :=
  let sorted := ranges.mergeSort fun r s =>
    r.first < s.first || (r.first == s.first && r.last ≤ s.last)
  (sorted.foldl joinLast []).reverse

/-- The code points between the surrogates' neighbours, which count as one step. -/
def next (c : Char) : Nat := if c.toNat == 0xD7FF then 0xE000 else c.toNat + 1

/-- The code point before a character. -/
def previous (c : Char) : Nat := if c.toNat == 0xE000 then 0xD7FF else c.toNat - 1

/-- The ranges between joined ranges, from the code point `start` on. -/
def gaps (start : Nat) : List Range → List Range
  | [] => if start ≤ 0x10FFFF then [⟨Char.ofNat start, Char.ofNat 0x10FFFF⟩] else []
  | r :: rest =>
    let after := gaps (next r.last) rest
    if start < r.first.toNat then ⟨Char.ofNat start, Char.ofNat (previous r.first)⟩ :: after
    else after

/-- The ranges of the set, in order and with gaps between them. -/
def toRanges (s : CharSet) : List Range :=
  if s.negated then gaps 0 (joined s.ranges) else joined s.ranges

/-- The set of the ranges, with the other case of letters. -/
def foldCase (ranges : List Range) : CharSet :=
  let ranges := joined ranges
  ofRanges (ranges ++ ranges.filterMap Range.otherCase?)

end CharSet

/-! ## Assertions -/

/-- Whether a character can stand in a word. -/
def isWordChar (c : Char) : Bool := c.isAlphanum || c == '_'

/-- The place between two characters of a text. It has none at an end of the text. -/
structure Place where
  before : Option Char
  after : Option Char
  deriving DecidableEq, Repr

namespace Place

/-- Whether a word goes up to the place. -/
def wordBefore (p : Place) : Bool := p.before.any isWordChar

/-- Whether a word goes on from the place. -/
def wordAfter (p : Place) : Bool := p.after.any isWordChar

end Place

/-- An assertion about a place. With `crlf` a line also ends before a carriage return, but not
between that and its line feed. The halves of word boundaries look at one side only. -/
inductive Look where
  | textStart
  | textEnd
  | lineStart (crlf : Bool)
  | lineEnd (crlf : Bool)
  | word
  | notWord
  | wordStart
  | wordEnd
  | wordStartHalf
  | wordEndHalf
  deriving DecidableEq, Repr

/-- Whether an assertion holds at a place. -/
def Look.holds (p : Place) : Look → Bool
  | .textStart => p.before.isNone
  | .textEnd => p.after.isNone
  | .lineStart false => p.before.isNone || p.before == some '\n'
  | .lineEnd false => p.after.isNone || p.after == some '\n'
  | .lineStart true =>
    p.before.isNone || p.before == some '\n' || (p.before == some '\r' && p.after != some '\n')
  | .lineEnd true =>
    p.after.isNone || p.after == some '\r' || (p.after == some '\n' && p.before != some '\r')
  | .word => p.wordBefore != p.wordAfter
  | .notWord => p.wordBefore == p.wordAfter
  | .wordStart => !p.wordBefore && p.wordAfter
  | .wordEnd => p.wordBefore && !p.wordAfter
  | .wordStartHalf => !p.wordBefore
  | .wordEndHalf => !p.wordAfter

/-! ## Expressions -/

/-- A regular expression. -/
inductive Expr where
  | empty
  | char (c : Char)
  | set (s : CharSet)
  | look (l : Look)
  | repeated (min : Nat) (max : Option Nat) (part : Expr)
  | group (part : Expr)
  | sequence (parts : List Expr)
  | choice (parts : List Expr)
  deriving Repr

namespace Expr

/-- Parts one after the other; a single one stands for itself. -/
def inSequence : List Expr → Expr
  | [] => .empty
  | [part] => part
  | parts => .sequence parts

/-- One of several parts; a single one stands for itself. -/
def oneOf : List Expr → Expr
  | [part] => part
  | parts => .choice parts

/-- A part at least `min` and at most `max` times. Zero times it is nothing, and exactly once it
stands for itself. -/
def times (min : Nat) (max : Option Nat) (part : Expr) : Expr :=
  if min = 0 ∧ max = some 0 then .empty
  else if min = 1 ∧ max = some 1 then part
  else .repeated min max part

mutual

/-- How deep parts stand inside each other. -/
def depth : Expr → Nat
  | .empty => 0
  | .char _ => 0
  | .set _ => 0
  | .look _ => 0
  | .repeated _ _ part => part.depth + 1
  | .group part => part.depth + 1
  | .sequence parts => depths parts + 1
  | .choice parts => depths parts + 1

/-- The greatest depth of parts. -/
def depths : List Expr → Nat
  | [] => 0
  | part :: rest => Nat.max part.depth (depths rest)

end

mutual

/-- Whether the expression can match nothing, assertions apart. -/
def matchesEmpty : Expr → Bool
  | .empty => true
  | .char _ => false
  | .set _ => false
  | .look _ => true
  | .repeated min _ part => min == 0 || part.matchesEmpty
  | .group part => part.matchesEmpty
  | .sequence parts => allMatchEmpty parts
  | .choice parts => anyMatchesEmpty parts

/-- Whether all parts can match nothing. -/
def allMatchEmpty : List Expr → Bool
  | [] => true
  | part :: rest => part.matchesEmpty && allMatchEmpty rest

/-- Whether some part can match nothing. -/
def anyMatchesEmpty : List Expr → Bool
  | [] => false
  | part :: rest => part.matchesEmpty || anyMatchesEmpty rest

end

mutual

/-- How many groups it has. -/
def groups : Expr → Nat
  | .empty => 0
  | .char _ => 0
  | .set _ => 0
  | .look _ => 0
  | .repeated _ _ part => part.groups
  | .group part => part.groups + 1
  | .sequence parts => allGroups parts
  | .choice parts => allGroups parts

/-- How many groups parts have. -/
def allGroups : List Expr → Nat
  | [] => 0
  | part :: rest => part.groups + allGroups rest

end

/-! ### The size of a matcher

A matcher of an expression is made of states, and a part that is counted is there as often as it
may be. The size of the matcher is bounded, not that of the expression.
-/

/-- The bytes of one state of a matcher. -/
def stateSize : Nat := 32

/-- The bytes of a state with two ways on. -/
def splitSize : Nat := stateSize + 8

/-- The bytes of what is kept of a group. -/
def groupSize : Nat := 16

mutual

/-- The bytes of the states that match it. -/
def states : Expr → Nat
  | .empty => stateSize
  | .char _ => stateSize
  | .set s => stateSize + 8 * s.toRanges.length
  | .look _ => stateSize
  | .group part => part.states + 2 * stateSize
  | .repeated min max part =>
    let own := part.states
    match max with
    | some max =>
      if min == 0 && max == 1 then own + splitSize + stateSize
      else if min == max then (if min == 0 then stateSize else min * own)
      else (if min == 0 then stateSize else min * own) + stateSize
        + (max - min) * (own + splitSize)
    | none =>
      if min == 0 && part.matchesEmpty then own + 2 * splitSize + stateSize
      else if min == 0 then own + splitSize
      else min * own + splitSize
  | .sequence parts => allStates parts
  | .choice parts => allStates parts + 2 * stateSize + 4 * parts.length

/-- The bytes of the states that match parts. -/
def allStates : List Expr → Nat
  | [] => 0
  | part :: rest => part.states + allStates rest

end

/-- The bytes of a matcher: the states of the expression as a group and the one in which it ends,
and what is kept of the groups. -/
def memory (e : Expr) : Nat :=
  (Expr.group e).states + stateSize + groupSize * (Expr.group e).groups

end Expr

end Switchboard.Pattern
