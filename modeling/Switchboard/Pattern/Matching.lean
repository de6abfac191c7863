import Switchboard.Pattern.Basic

/-!
# Finding a pattern in a text

The places of a text are numbered from its beginning to its end, and a set of them is a list of
truth values, one for each. Matching an expression takes the places where a match may begin to
those where it may end. More repetitions than the text has places find nothing new: a repetition
that takes no character leads back to its place, and the others can be as many as the characters.
-/

namespace Switchboard.Pattern

/-- A set of places. -/
abbrev Marks := List Bool

/-- The places of a text after a character, or at its beginning. -/
def placesFrom (before : Option Char) : List Char → List Place
  | [] => [⟨before, none⟩]
  | c :: rest => ⟨before, some c⟩ :: placesFrom (some c) rest

/-- Places in either set. -/
def Marks.union (a b : Marks) : Marks := List.zipWith (· || ·) a b

/-- The places of a set where a condition holds. -/
def Marks.keep (places : List Place) (holds : Place → Bool) (marks : Marks) : Marks :=
  List.zipWith (fun p m => m && holds p) places marks

/-- Moves every place over its next character, which `accepts` must accept. -/
def Marks.advance (places : List Place) (accepts : Char → Bool) (marks : Marks) : Marks :=
  (false :: marks.keep places fun p => p.after.any accepts).take places.length

/-- Applies a step `count` times. -/
def exactly (step : Marks → Marks) : (count : Nat) → Marks → Marks
  | 0, marks => marks
  | count + 1, marks => exactly step count (step marks)

/-- What up to `count` steps reach. It ends early when a step reaches nothing new. -/
def upTo (step : Marks → Marks) : (count : Nat) → Marks → Marks
  | 0, marks => marks
  | count + 1, marks =>
    let more := marks.union (step marks)
    if more == marks then marks else upTo step count more

mutual

/-- The places where matches may end that begin at the given ones. -/
def Expr.step (places : List Place) : Expr → Marks → Marks
  | .empty, marks => marks
  | .char c, marks => marks.advance places (· == c)
  | .set s, marks => marks.advance places s.contains
  | .look l, marks => marks.keep places fun p => l.holds p
  | .repeated min max part, marks =>
    let bound := places.length + 1
    let start := exactly (part.step places) (Nat.min min bound) marks
    match max with
    | some max => upTo (part.step places) (Nat.min (max - min) bound) start
    | none => upTo (part.step places) bound start
  | .group part, marks => part.step places marks
  | .sequence parts, marks => stepAll places parts marks
  | .choice parts, marks => stepAny places parts marks

/-- Matches parts one after the other. -/
def stepAll (places : List Place) : List Expr → Marks → Marks
  | [], marks => marks
  | part :: rest, marks => stepAll places rest (part.step places marks)

/-- Matches one of the parts. -/
def stepAny (places : List Place) : List Expr → Marks → Marks
  | [], marks => marks.map fun _ => false
  | part :: rest, marks => (part.step places marks).union (stepAny places rest marks)

end

/-- Whether the expression matches somewhere in a text. -/
def Expr.isFoundIn (e : Expr) (s : String) : Bool :=
  let places := placesFrom none s.toList
  (e.step places (places.map fun _ => true)).any id

end Switchboard.Pattern
