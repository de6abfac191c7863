import Switchboard.Expression.Function

/-!
# Evaluating expressions

The parts of a node are evaluated from left to right, all of them, before the node. Integers stay
integers while their results fit into 64 bits; a number of each kind makes both doubles. Variables
are looked up and never changed.
-/

namespace Switchboard.Expression

/-- An integer result, if it fits. -/
def checked (verb sign : String) (a b : Int64) (result : Int) : Except Halt Value :=
  if Decimal.FitsInt64 result then .ok (.int (Int64.ofInt result))
  else .error (.error (.arithmetic verb sign a b))

/-- An operation on integers that stays exact, and on doubles otherwise. -/
def arithmetic (verb sign : String) (onInts : Int → Int → Int)
    (onFloats : Float → Float → Float) (a b : Value) : Except Halt Value := do
  let x ← a.asNumber
  let y ← b.asNumber
  match a, b with
  | .int i, .int j => checked verb sign i j (onInts i.toInt j.toInt)
  | _, _ => return .float (onFloats x y)

/-- A division of integers, whose divisor must not be zero, or of doubles. The rest of a division
by minus one counts as out of range where the quotient is. -/
def division (verb sign : String) (onInts : Int → Int → Int)
    (onFloats : Float → Float → Float) (a b : Value) : Except Halt Value := do
  let x ← a.asNumber
  let y ← b.asNumber
  match a, b with
  | .int i, .int j =>
    if j == 0 || (i == Int64.minValue && j == -1) then
      throw (.error (.arithmetic verb sign i j))
    else
      return .int (Int64.ofInt (onInts i.toInt j.toInt))
  | _, _ => return .float (onFloats x y)

/-- A value that is a number or a text. -/
def numberOrString : Value → Except Halt Unit
  | .string _ => .ok ()
  | .float _ => .ok ()
  | .int _ => .ok ()
  | v => v.refuse .numberOrString

/-- Addition of numbers and joining of texts. -/
def addOrJoin (a b : Value) : Except Halt Value := do
  numberOrString a
  numberOrString b
  match a, b with
  | .string s, .string t => return .string (s ++ t)
  | .string _, _ => throw (.error (.wrongCombination [a.kind, b.kind]))
  | _, .string _ => throw (.error (.wrongCombination [a.kind, b.kind]))
  | a, b => arithmetic "adding" "+" (· + ·) (· + ·) a b

/-- A comparison of texts by their bytes, of integers, or of doubles. -/
def compare (onStrings : String → String → Bool) (onInts : Int64 → Int64 → Bool)
    (onFloats : Float → Float → Bool) (a b : Value) : Except Halt Value := do
  numberOrString a
  numberOrString b
  match a, b with
  | .string s, .string t => return .boolean (onStrings s t)
  | .int i, .int j => return .boolean (onInts i j)
  | a, b =>
    let x ← a.asNumber
    return .boolean (onFloats x (← b.asNumber))

/-- The value of an operator between two values. -/
def BinaryOp.apply (op : BinaryOp) (a b : Value) : Except Halt Value :=
  match op with
  | .add => addOrJoin a b
  | .sub => arithmetic "subtracting" "-" (· - ·) (· - ·) a b
  | .mul => arithmetic "multiplying" "*" (· * ·) (· * ·) a b
  | .div => division "dividing" "/" Int.tdiv (· / ·) a b
  | .mod => division "modulating" "%" Int.tmod Binary64.remainder a b
  | .pow => do
    let x ← a.asNumber
    return .float (Float.pow x (← b.asNumber))
  | .eq => .ok (.boolean (a == b))
  | .ne => .ok (.boolean (a != b))
  | .gt => compare (fun s t => decide (t < s)) (fun i j => decide (j < i))
      (fun x y => decide (y < x)) a b
  | .lt => compare (fun s t => decide (s < t)) (fun i j => decide (i < j))
      (fun x y => decide (x < y)) a b
  | .ge => compare (fun s t => decide (t ≤ s)) (fun i j => decide (j ≤ i))
      (fun x y => decide (y ≤ x)) a b
  | .le => compare (fun s t => decide (s ≤ t)) (fun i j => decide (i ≤ j))
      (fun x y => decide (x ≤ y)) a b
  | .and => do
    let x ← a.asBoolean
    let y ← b.asBoolean
    return .boolean (x && y)
  | .or => do
    let x ← a.asBoolean
    let y ← b.asBoolean
    return .boolean (x || y)

/-- The opposite of a number. -/
def opposite (v : Value) : Except Halt Value := do
  let x ← v.asNumber
  match v with
  | .int i =>
    if Decimal.FitsInt64 (-i.toInt) then return .int (-i) else throw (.error (.negation i))
  | _ => return .float (-x)

/-- The value of one part, of which there must be no more. -/
def one (f : Value → Except Halt Value) : List Value → Except Halt Value
  | [v] => f v
  | vs => .error (.error (.wrongCount 1 vs.length))

/-- The value of a node whose parts have the given values. -/
def Operator.apply (lookup : String → Option Value) (values : List Value) :
    Operator → Except Halt Value
  | .root => .ok (values.head?.getD .empty)
  | .binary op =>
    match values with
    | [a, b] => op.apply a b
    | vs => .error (.error (.wrongCount 2 vs.length))
  | .negate => one opposite values
  | .not => one (fun v => do return .boolean (!(← v.asBoolean))) values
  | .assign => .error (.error .notMutable)
  | .update _ => .error (.error .notMutable)
  | .tuple => .ok (.tuple values)
  | .chain =>
    match values.getLast? with
    | some v => .ok v
    | none => .error (.error (.wrongCount 1 0))
  | .value v => .ok v
  | .read name =>
    match lookup name with
    | some v => .ok v
    | none => .error (.error (.unboundVariable name))
  | .write name => .ok (.string name)
  | .call name =>
    one (fun v =>
      match function? name with
      | some f => f v
      | none => .error (.error (.unboundFunction name))) values

mutual

/-- The value of a tree, where `lookup` gives the values of variables. -/
def Tree.eval (lookup : String → Option Value) : Tree → Except Halt Value
  | .node op parts => do op.apply lookup (← evalAll lookup parts)

/-- The values of trees. -/
def evalAll (lookup : String → Option Value) : List Tree → Except Halt (List Value)
  | [] => .ok []
  | t :: rest => do
    let v ← t.eval lookup
    return v :: (← evalAll lookup rest)

end

end Switchboard.Expression
