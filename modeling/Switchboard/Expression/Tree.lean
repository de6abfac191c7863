import Switchboard.Expression.Token

/-!
# Trees of expressions

A tree grows from left to right: each part goes below the last part of the tree that binds less
tightly. A bracket is a root of its own that holds one part. A comma or a semicolon makes its root
a sequence of roots; sequences stay open on a stack until a bracket closes or the text ends.
-/

namespace Switchboard.Expression

/-- What stands at a node. A root holds one part or none, and of a chain the last value counts. -/
inductive Operator where
  | root
  | binary (op : BinaryOp)
  | negate
  | not
  | assign
  | update (op : BinaryOp)
  | tuple
  | chain
  | value (v : Value)
  | read (name : String)
  | write (name : String)
  | call (name : String)

namespace Operator

/-- How closely an operator between two values binds. -/
def binaryPrecedence : BinaryOp → Nat
  | .add => 95
  | .sub => 95
  | .mul => 100
  | .div => 100
  | .mod => 100
  | .pow => 120
  | .eq => 80
  | .ne => 80
  | .gt => 80
  | .lt => 80
  | .ge => 80
  | .le => 80
  | .and => 75
  | .or => 70

/-- How closely it binds. -/
def precedence : Operator → Nat
  | .root => 200
  | .binary op => binaryPrecedence op
  | .negate => 110
  | .not => 110
  | .assign => 50
  | .update _ => 50
  | .tuple => 40
  | .chain => 0
  | .value _ => 200
  | .read _ => 200
  | .write _ => 200
  | .call _ => 190

/-- How many parts it takes; none for any number. -/
def arity : Operator → Option Nat
  | .root => some 1
  | .binary _ => some 2
  | .negate => some 1
  | .not => some 1
  | .assign => some 2
  | .update _ => some 2
  | .tuple => none
  | .chain => none
  | .value _ => some 0
  | .read _ => some 0
  | .write _ => some 0
  | .call _ => some 1

/-- Whether it is a root. -/
def isRoot : Operator → Bool
  | .root => true
  | _ => false

/-- Whether it is a sequence. -/
def isSequence : Operator → Bool
  | .tuple => true
  | .chain => true
  | _ => false

/-- Whether it takes no parts. -/
def isLeaf (o : Operator) : Bool := o.arity == some 0

/-- Whether it stands before its one part. -/
def isUnary (o : Operator) : Bool := o.arity == some 1 && !o.isRoot

/-- Whether a chain of it groups to the right. -/
def groupsRight : Operator → Bool
  | .assign => true
  | .call _ => true
  | _ => false

/-- Whether both are tuples or both are chains. -/
def sameSequence : Operator → Operator → Bool
  | .tuple, .tuple => true
  | .chain, .chain => true
  | _, _ => false

/-- Whether `inner` can stand below `outer`. -/
def goesBelow (outer inner : Operator) : Bool :=
  outer.precedence < inner.precedence || inner.isUnary ||
    (outer.precedence == inner.precedence && outer.groupsRight && inner.groupsRight)

end Operator

/-- A tree of operators. -/
inductive Tree where
  | node (op : Operator) (parts : List Tree)

namespace Tree

/-- What stands at the top. -/
def op : Tree → Operator
  | .node op _ => op

/-- The parts of the top. -/
def parts : Tree → List Tree
  | .node _ parts => parts

/-- The tree with one more part. -/
def push (t part : Tree) : Tree := .node t.op (t.parts ++ [part])

/-- A tree without parts. -/
def leaf (op : Operator) : Tree := .node op []

/-- Whether there are more parts than the top takes. -/
def isOverfull (t : Tree) : Bool := t.op.arity.any (· < t.parts.length)

/-- Puts `part`, a last part of `parent`, below `t`, which takes its place. -/
def rotate (parent : Operator) (t part : Tree) : Except SyntaxError Tree :=
  if t.op.isLeaf then .error .leaf
  else if t.op.isRoot && (parent.isRoot || part.op.isRoot || !t.parts.isEmpty) then
    .error .missingOperator
  else .ok (t.push part)

mutual

/-- Puts `t` below this tree, at its right end; `atRoot` says that it need not bind closer. -/
def insert (t : Tree) (atRoot : Bool) : Tree → Except SyntaxError Tree
  | .node op parts =>
    if !(atRoot || op.goesBelow t.op) then .error .precedence
    else if op.isLeaf then .error .leaf
    else if op.arity == some parts.length then do return .node op (← insertLast t op parts)
    else .ok (.node op (parts ++ [t]))

/-- Puts `t` below the last part of a node of `parent`, or in its place. -/
def insertLast (t : Tree) (parent : Operator) : List Tree → Except SyntaxError (List Tree)
  | [] => .ok [t]
  | part :: rest =>
    if !rest.isEmpty then do return part :: (← insertLast t parent rest)
    else if part.op.goesBelow t.op then do return [← insert t false part]
    else do return [← rotate parent t part]

end

/-! ## Open sequences -/

/-- Closes sequences until the top of the stack does not bind closer than `goal`, with `t` in their
last places. -/
def closeTo (goal : Operator) (t : Tree) : List Tree → Except SyntaxError (Tree × List Tree)
  | [] => .error .unmatchedClose
  | higher :: stack =>
    if goal.precedence < higher.op.precedence then closeTo goal (higher.push t) stack
    else .ok (t, higher :: stack)

/-- Closes the sequences on top of the stack, with `t` in their last places. -/
def closeFrom (t : Tree) (stack : List Tree) : Except SyntaxError (List Tree) :=
  if t.op.isSequence then
    match stack with
    | [] => .error .unmatchedClose
    | higher :: stack => closeFrom (higher.push t) stack
  else if t.isOverfull then .error .missingOperator
  else .ok (t :: stack)
termination_by stack.length

/-- Closes the sequences on top of the stack. -/
def closeSequences : List Tree → Except SyntaxError (List Tree)
  | [] => .error .unmatchedClose
  | top :: stack => closeFrom top stack

/-- Adds the sign of a sequence to the top of the stack. -/
def addSequence (op : Operator) (top : Tree) (stack : List Tree) :
    Except SyntaxError (List Tree) :=
  let fresh := leaf .root
  if top.op.sameSequence op then .ok (top.push fresh :: stack)
  else if top.op.isRoot then .ok (.node op [top, fresh] :: fresh :: stack)
  else if top.op.precedence < op.precedence then
    match top.parts.getLast? with
    | some last => .ok (.node op [last, fresh] :: .node top.op top.parts.dropLast :: stack)
    | none => .ok (.node op [fresh] :: top :: stack)
  else do
    let (t, stack) ← closeTo op top stack
    return .node op [t] :: stack

/-- Adds a part to the top of the stack. -/
def addPart (t top : Tree) (stack : List Tree) : Except SyntaxError (List Tree) :=
  if t.op.isSequence then addSequence t.op top stack
  else if top.op.isSequence then
    match top.parts.getLast? with
    | some last => do
      return .node top.op (top.parts.dropLast ++ [← insert t true last]) :: stack
    | none => .ok (top.push t :: stack)
  else do return (← insert t true top) :: stack

/-- The node of a token that is no bracket, with the token after it. A minus after the end of a
value subtracts. -/
def ofToken (afterValue : Bool) (next : Option Token) : Token → Operator
  | .op .sub => if afterValue then .binary .sub else .negate
  | .op op => .binary op
  | .not => .not
  | .assign => .assign
  | .update op => .update op
  | .comma => .tuple
  | .semicolon => .chain
  | .name s =>
    if next.any Token.isAssignment then .write s
    else if next.any Token.beginsValue then .call s
    else .read s
  | .value v => .value v
  | .opening => .root
  | .closing => .root

/-- Adds tokens to a stack of open roots and sequences. -/
def grow : (stack : List Tree) → (afterValue : Bool) → List Token → Except SyntaxError (List Tree)
  | stack, _, [] => .ok stack
  | stack, afterValue, token :: rest => do
    let stack ← match token, stack with
      | .opening, stack => pure (leaf .root :: stack)
      | .closing, [] => throw .unmatchedClose
      | .closing, [_] => throw .unmatchedClose
      | .closing, stack =>
        match ← closeSequences stack with
        | group :: top :: stack => addPart group top stack
        | _ => throw .unmatchedClose
      | _, [] => throw .unmatchedClose
      | token, top :: stack => addPart (leaf (ofToken afterValue rest.head? token)) top stack
    grow stack token.endsValue rest

/-- The tree of tokens. -/
def ofTokens (tokens : List Token) : Except SyntaxError Tree := do
  match ← closeSequences (← grow [leaf .root] false tokens) with
  | [t] => return t
  | [] => throw .unmatchedClose
  | _ => throw .unmatchedOpen

/-- The tree of a text. -/
def ofText (source : String) : Except SyntaxError Tree := do ofTokens (← tokens source)

end Tree

end Switchboard.Expression
