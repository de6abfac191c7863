import Switchboard.Decimal.Integer
import Switchboard.Decimal.Number
import Switchboard.Expression.Value
import Switchboard.Text.Blank

/-!
# Tokens of expressions

A text is cut into pieces first: texts between quotes, single signs, blanks, and runs of other
characters. A token is then one piece, an operator of two or three adjacent signs, or a number whose
exponent has a sign. Comments stand for nothing, and runs on both sides of one are a single run.
-/

namespace Switchboard.Expression

/-- Why a text is not an expression. `precedence` tells of a part below one that binds closer, and
`leaf` of a part of one that takes none. -/
inductive SyntaxError where
  | illegalEscape (escape : String)
  | unmatchedQuote
  | unmatchedComment
  | unmatchedPiece (first : String) (second : Option String)
  | precedence
  | leaf
  | missingOperator
  | unmatchedOpen
  | unmatchedClose
  deriving DecidableEq, Repr

/-- How the error reads. -/
def SyntaxError.message : SyntaxError → String
  | .illegalEscape escape => "Illegal escape sequence: " ++ escape
  | .unmatchedQuote => "Found an unmatched double quote '\"'"
  | .unmatchedComment => "Error: unmatched inline comment"
  | .unmatchedPiece first (some second) =>
    "Found a partial token '" ++ first ++ "' that should not be followed by '" ++ second ++ "'."
  | .unmatchedPiece first none =>
    "Found a partial token '" ++ first ++ "' that should be followed by another partial token."
  | .precedence => "Tried to append a node to another node with higher precedence."
  | .leaf => "Tried to append a node to a leaf node."
  | .missingOperator =>
    "Found an opening parenthesis that is preceded by something that does not take any arguments on " ++
    "the right, or found a closing parenthesis that is succeeded by something that does not take " ++
    "any arguments on the left."
  | .unmatchedOpen => "Found an unmatched opening parenthesis '('."
  | .unmatchedClose => "Found an unmatched closing parenthesis ')'."

/-! ## Pieces -/

/-- A piece of a text. -/
inductive Piece where
  | quoted (s : String)
  | sign (c : Char)
  | blank
  | run (cs : List Char)
  deriving DecidableEq, Repr

/-- The characters that are signs. -/
def signs : List Char :=
  ['+', '-', '*', '/', '%', '^', '(', ')', ',', ';', '=', '!', '>', '<', '&', '|']

/-- The piece as messages show it. -/
def Piece.display : Piece → String
  | .quoted s => Text.quoted s
  | .sign c => c.toString
  | .blank => " "
  | .run cs => String.ofList cs

/-- The text between quotes, after the opening one. -/
def readQuoted (done : List Char) : List Char → Except SyntaxError (String × List Char)
  | [] => .error .unmatchedQuote
  | '"' :: rest => .ok (String.ofList done.reverse, rest)
  | ['\\'] => .error (.illegalEscape "\\")
  | '\\' :: c :: rest =>
    if c = '"' ∨ c = '\\' then readQuoted (c :: done) rest
    else .error (.illegalEscape (String.ofList ['\\', c]))
  | c :: rest => readQuoted (c :: done) rest

/-- What follows a comment of several lines, after its opening sign. -/
def afterComment : List Char → Option (List Char)
  | [] => none
  | '*' :: '/' :: rest => some rest
  | _ :: rest => afterComment rest

/-- What follows the line. -/
def afterLine (cs : List Char) : List Char := (cs.dropWhile (· != '\n')).drop 1

/-- What follows a comment, if one comes next. -/
def skipComment? (cs : List Char) : Except SyntaxError (Option (List Char)) :=
  match cs with
  | '/' :: '/' :: rest => .ok (some (afterLine rest))
  | '/' :: '*' :: rest =>
    match afterComment rest with
    | some rest => .ok (some rest)
    | none => .error .unmatchedComment
  | _ => .ok none

/-- Adds a character to the pieces, which are kept last first. -/
def addCharacter (pieces : List Piece) (c : Char) : List Piece :=
  if signs.contains c then .sign c :: pieces
  else if Text.isBlank c then .blank :: pieces
  else
    match pieces with
    | .run cs :: before => .run (cs ++ [c]) :: before
    | pieces => .run [c] :: pieces

/-- The pieces of a text of at most `left` characters; `done` holds those so far, last first. -/
def readPieces : (left : Nat) → (done : List Piece) → List Char → Except SyntaxError (List Piece)
  | _, done, [] => .ok done.reverse
  | 0, done, _ => .ok done.reverse
  | left + 1, done, c :: rest => do
    if c = '"' then
      let (s, rest) ← readQuoted [] rest
      readPieces left (.quoted s :: done) rest
    else
      match ← skipComment? (c :: rest) with
      | some rest => readPieces left done rest
      | none => readPieces left (addCharacter done c) rest

/-! ## Tokens -/

/-- An operator between two values. -/
inductive BinaryOp where
  | add
  | sub
  | mul
  | div
  | mod
  | pow
  | eq
  | ne
  | gt
  | lt
  | ge
  | le
  | and
  | or
  deriving DecidableEq, Repr

/-- A token. -/
inductive Token where
  | op (op : BinaryOp)
  | not
  | assign
  | update (op : BinaryOp)
  | opening
  | closing
  | comma
  | semicolon
  | name (s : String)
  | value (v : Value)

namespace Token

/-- Whether an assignment is made. -/
def isAssignment : Token → Bool
  | .assign => true
  | .update _ => true
  | _ => false

/-- Whether a value begins with the token. -/
def beginsValue : Token → Bool
  | .opening => true
  | .name _ => true
  | .value _ => true
  | _ => false

/-- Whether a value ends with the token. -/
def endsValue : Token → Bool
  | .closing => true
  | .name _ => true
  | .value _ => true
  | _ => false

/-- The token of a sign, followed by the sign of equality or not. -/
def ofSign? (c : Char) (withEquals : Bool) : Option Token :=
  let arithmetic (op : BinaryOp) : Option Token := some (if withEquals then .update op else .op op)
  match c with
  | '+' => arithmetic .add
  | '-' => arithmetic .sub
  | '*' => arithmetic .mul
  | '/' => arithmetic .div
  | '%' => arithmetic .mod
  | '^' => arithmetic .pow
  | '=' => some (if withEquals then .op .eq else .assign)
  | '!' => some (if withEquals then .op .ne else .not)
  | '>' => some (.op (if withEquals then .ge else .gt))
  | '<' => some (.op (if withEquals then .le else .lt))
  | _ => none

/-- The token of a sign that never joins another. -/
def ofLoneSign? : Char → Option Token
  | '(' => some .opening
  | ')' => some .closing
  | ',' => some .comma
  | ';' => some .semicolon
  | _ => none

/-- The integer of a run: decimal, or hexadecimal after its mark. -/
def integer? (cs : List Char) : Option Int :=
  (match cs with
  | '0' :: 'x' :: digits => Decimal.readInteger 16 digits
  | cs => Decimal.readInteger 10 cs).toOption

/-- The value of a run, if it is one. -/
def literal? (cs : List Char) : Option Value :=
  match integer? cs with
  | some i => some (.int (Int64.ofInt i))
  | none =>
    match Decimal.readNumber cs with
    | .ok f => some (.float f)
    | .error _ =>
      if cs == "true".toList then some (.boolean true)
      else if cs == "false".toList then some (.boolean false)
      else none

/-- The number of a run, a sign and another run, such as `1e` and `-` and `3`. -/
def signedExponent? (cs : List Char) : List Piece → Option (Value × List Piece)
  | .sign c :: .run digits :: rest =>
    if c == '+' || c == '-' then
      (Decimal.readNumber (cs ++ c :: digits)).toOption.map fun f => (.float f, rest)
    else none
  | _ => none

/-- The tokens of at most `left` pieces. -/
def ofPieces : (left : Nat) → List Piece → Except SyntaxError (List Token)
  | _, [] => .ok []
  | 0, _ => .ok []
  | left + 1, piece :: rest => do
    match piece with
    | .quoted s => return .value (.string s) :: (← ofPieces left rest)
    | .blank => ofPieces left rest
    | .run cs =>
      match literal? cs with
      | some v => return .value v :: (← ofPieces left rest)
      | none =>
        match signedExponent? cs rest with
        | some (v, rest) => return .value v :: (← ofPieces left rest)
        | none => return .name (String.ofList cs) :: (← ofPieces left rest)
    | .sign c =>
      match ofLoneSign? c with
      | some token => return token :: (← ofPieces left rest)
      | none =>
        match ofSign? c (rest.head? == some (.sign '=')) with
        | some token =>
          let rest := if rest.head? == some (.sign '=') then rest.drop 1 else rest
          return token :: (← ofPieces left rest)
        | none =>
          -- What is left are the signs that must be doubled.
          let op : BinaryOp := if c == '&' then .and else .or
          if rest.head? != some piece then
            throw (.unmatchedPiece piece.display (rest.head?.map Piece.display))
          else if rest.drop 1 |>.head? |> (· == some (.sign '=')) then
            return .update op :: (← ofPieces left (rest.drop 2))
          else
            return .op op :: (← ofPieces left (rest.drop 1))

end Token

/-- The tokens of a text. -/
def tokens (source : String) : Except SyntaxError (List Token) := do
  let cs := source.toList
  let pieces ← readPieces cs.length [] cs
  Token.ofPieces pieces.length pieces

end Switchboard.Expression
