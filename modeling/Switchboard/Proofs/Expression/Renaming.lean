import Switchboard.Expression.Evaluation
import Switchboard.Proofs.Except

/-!
# Renaming variables

The parser looks at how an operator binds and how many parts it takes, and never at the name of a
variable. Trees that differ in the names of variables grow from tokens that do, and they have equal
values when the names do.
-/

namespace Switchboard.Expression

variable (ρ : String → String)

/-! ## Trees -/

namespace Operator

/-- The operator with other names for the variables that are read. -/
def rename : Operator → Operator
  | .read name => .read (ρ name)
  | op => op

variable (op other : Operator)

@[simp] theorem precedence_rename : (op.rename ρ).precedence = op.precedence := by
  cases op <;> rfl

@[simp] theorem arity_rename : (op.rename ρ).arity = op.arity := by
  cases op <;> rfl

@[simp] theorem isRoot_rename : (op.rename ρ).isRoot = op.isRoot := by
  cases op <;> rfl

@[simp] theorem isSequence_rename : (op.rename ρ).isSequence = op.isSequence := by
  cases op <;> rfl

@[simp] theorem groupsRight_rename : (op.rename ρ).groupsRight = op.groupsRight := by
  cases op <;> rfl

@[simp] theorem sameSequence_rename :
    (op.rename ρ).sameSequence (other.rename ρ) = op.sameSequence other := by
  cases op <;> cases other <;> rfl

@[simp] theorem isLeaf_rename : (op.rename ρ).isLeaf = op.isLeaf := by
  simp [isLeaf]

@[simp] theorem isUnary_rename : (op.rename ρ).isUnary = op.isUnary := by
  simp [isUnary]

@[simp] theorem goesBelow_rename :
    (op.rename ρ).goesBelow (other.rename ρ) = op.goesBelow other := by
  simp [goesBelow]

end Operator

mutual

/-- The tree with other names for the variables that are read. -/
def Tree.rename : Tree → Tree
  | .node op parts => .node (op.rename ρ) (renameAll parts)

/-- Trees with other names for the variables that are read. -/
def renameAll : List Tree → List Tree
  | [] => []
  | t :: rest => t.rename :: renameAll rest

end

theorem renameAll_eq_map (ts : List Tree) : renameAll ρ ts = ts.map (Tree.rename ρ) := by
  induction ts with
  | nil => rfl
  | cons t rest ih => rw [renameAll, ih, List.map_cons]

namespace Tree

variable (t part : Tree)

theorem rename_node (op : Operator) (parts : List Tree) :
    (node op parts).rename ρ = node (op.rename ρ) (parts.map (rename ρ)) := by
  rw [rename, renameAll_eq_map]

@[simp] theorem op_rename : (t.rename ρ).op = t.op.rename ρ := by
  cases t
  rfl

@[simp] theorem parts_rename : (t.rename ρ).parts = t.parts.map (rename ρ) := by
  cases t
  rw [rename_node]
  rfl

@[simp] theorem isOverfull_rename : (t.rename ρ).isOverfull = t.isOverfull := by
  simp [isOverfull]

theorem rename_push : (t.push part).rename ρ = (t.rename ρ).push (part.rename ρ) := by
  simp [push, rename_node]

theorem rename_leaf (op : Operator) : (leaf op).rename ρ = leaf (op.rename ρ) := by
  simp [leaf, rename_node]

/-! ## Growing -/

theorem rotate_rename (parent : Operator) :
    rotate (parent.rename ρ) (t.rename ρ) (part.rename ρ) =
      (rotate parent t part).map (rename ρ) := by
  simp only [rotate, op_rename, Operator.isLeaf_rename, Operator.isRoot_rename, parts_rename,
    List.isEmpty_map]
  split
  · rfl
  · split
    · rfl
    · simp [Except.map, rename_push]

-- One step down the right end of a tree, or to the last of its parts.
mutual

theorem insert_rename (atRoot : Bool) : (u : Tree) →
    insert (t.rename ρ) atRoot (u.rename ρ) = (insert t atRoot u).map (rename ρ)
  | .node op parts => by
    simp only [rename_node, insert, op_rename, Operator.goesBelow_rename, Operator.isLeaf_rename,
      Operator.arity_rename, List.length_map]
    split
    · rfl
    · split
      · rfl
      · split
        · rw [insertLast_rename op parts]
          cases insertLast t op parts <;> simp [Except.map, bind, Except.bind, pure, Except.pure, rename_node]
        · simp [Except.map, rename_node]

theorem insertLast_rename (parent : Operator) : (parts : List Tree) →
    insertLast (t.rename ρ) (parent.rename ρ) (parts.map (rename ρ)) =
      (insertLast t parent parts).map (List.map (rename ρ))
  | [] => by simp [insertLast, Except.map]
  | part :: rest => by
    simp only [List.map_cons, insertLast, List.isEmpty_map, op_rename, Operator.goesBelow_rename]
    split
    · rw [insertLast_rename parent rest]
      cases insertLast t parent rest <;> rfl
    · split
      · rw [insert_rename false part]
        cases insert t false part <;> rfl
      · rw [rotate_rename]
        cases rotate parent t part <;> rfl

end

/-! ## Open sequences -/

theorem closeTo_rename (goal : Operator) (stack : List Tree) :
    closeTo (goal.rename ρ) (t.rename ρ) (stack.map (rename ρ)) =
      (closeTo goal t stack).map (Prod.map (rename ρ) (List.map (rename ρ))) := by
  induction stack generalizing t with
  | nil => rfl
  | cons higher stack ih =>
    simp only [List.map_cons, closeTo, op_rename, Operator.precedence_rename, ← rename_push]
    split
    · exact ih _
    · rfl

theorem closeFrom_rename (stack : List Tree) :
    closeFrom (t.rename ρ) (stack.map (rename ρ)) =
      (closeFrom t stack).map (List.map (rename ρ)) := by
  induction stack generalizing t with
  | nil =>
    simp only [List.map_nil, closeFrom, op_rename, Operator.isSequence_rename, isOverfull_rename]
    split
    · rfl
    · split <;> rfl
  | cons higher stack ih =>
    rw [List.map_cons, closeFrom, closeFrom]
    simp only [op_rename, Operator.isSequence_rename, isOverfull_rename, ← rename_push]
    split
    · exact ih _
    · split <;> rfl

theorem closeSequences_rename (stack : List Tree) :
    closeSequences (stack.map (rename ρ)) = (closeSequences stack).map (List.map (rename ρ)) := by
  cases stack with
  | nil => rfl
  | cons top stack => exact closeFrom_rename ρ top stack

theorem addSequence_rename (op : Operator) (stack : List Tree) :
    addSequence (op.rename ρ) (t.rename ρ) (stack.map (rename ρ)) =
      (addSequence op t stack).map (List.map (rename ρ)) := by
  have hroot : (leaf .root).rename ρ = leaf .root := rename_leaf ρ .root
  simp only [addSequence, op_rename, Operator.sameSequence_rename, Operator.isRoot_rename,
    Operator.precedence_rename, parts_rename, List.getLast?_map]
  split
  · simp [Except.map, rename_push, hroot]
  · split
    · simp [Except.map, rename_node, hroot]
    · split
      · cases t.parts.getLast? with
        | some last => simp [Except.map, rename_node, hroot]
        | none => simp [Except.map, rename_node, hroot]
      · rw [closeTo_rename]
        cases closeTo op t stack with
        | ok closed => simp [Except.map, bind, Except.bind, pure, Except.pure, rename_node]
        | error e => rfl

theorem addPart_rename (top : Tree) (stack : List Tree) :
    addPart (t.rename ρ) (top.rename ρ) (stack.map (rename ρ)) =
      (addPart t top stack).map (List.map (rename ρ)) := by
  simp only [addPart, op_rename, Operator.isSequence_rename, parts_rename, List.getLast?_map]
  split
  · exact addSequence_rename ρ top t.op stack
  · split
    · cases top.parts.getLast? with
      | some last =>
        simp only [Option.map_some, insert_rename]
        cases insert t true last <;>
          simp [Except.map, bind, Except.bind, pure, Except.pure, rename_node]
      | none => simp [Except.map, rename_push]
    · rw [insert_rename]
      cases insert t true top <;> rfl

end Tree

/-! ## Tokens -/

/-- Two lists of tokens differ in names that are read as variables, and these become the same ones. -/
inductive Respelled : List Token → List Token → Prop where
  | nil : Respelled [] []
  | same (token : Token) {rest rest' : List Token} (h : Respelled rest rest') :
      Respelled (token :: rest) (token :: rest')
  | read {a b : String} {rest rest' : List Token} (h : Respelled rest rest') (hab : ρ a = ρ b)
      (ha : Tree.ofToken false rest.head? (.name a) = .read a) :
      Respelled (.name a :: rest) (.name b :: rest')

namespace Respelled

variable {ρ} {ts ts' : List Token}

theorem head_isAssignment (h : Respelled ρ ts ts') :
    ts.head?.any Token.isAssignment = ts'.head?.any Token.isAssignment := by
  cases h <;> rfl

theorem head_beginsValue (h : Respelled ρ ts ts') :
    ts.head?.any Token.beginsValue = ts'.head?.any Token.beginsValue := by
  cases h <;> rfl

/-- What a token stands for does not depend on how the one after it is spelled. -/
theorem ofToken_eq (h : Respelled ρ ts ts') (afterValue : Bool) (token : Token) :
    Tree.ofToken afterValue ts.head? token = Tree.ofToken afterValue ts'.head? token := by
  cases token <;> simp only [Tree.ofToken, h.head_isAssignment, h.head_beginsValue]

theorem refl (ρ : String → String) (ts : List Token) : Respelled ρ ts ts := by
  induction ts with
  | nil => exact .nil
  | cons token rest ih => exact .same token ih

theorem trans {ts'' : List Token} (h : Respelled ρ ts ts') (h' : Respelled ρ ts' ts'') :
    Respelled ρ ts ts'' := by
  induction h generalizing ts'' with
  | nil => exact h'
  | same token h ih =>
    cases h' with
    | same _ h' => exact .same token (ih h')
    | read h' hab ha => exact .read (ih h') hab ((h.ofToken_eq false _).trans ha)
  | read h hab ha ih =>
    cases h' with
    | same _ h' => exact .read (ih h') hab ha
    | read h' hbc _ => exact .read (ih h') (hab.trans hbc) ha

theorem append (front : List Token) (h : Respelled ρ ts ts') :
    Respelled ρ (front ++ ts) (front ++ ts') := by
  induction front with
  | nil => exact h
  | cons token front ih => exact .same token ih

end Respelled

namespace Tree

/-- Adds an operator to the top of the stack. -/
def addOperator (op : Operator) : List Tree → Except SyntaxError (List Tree)
  | [] => throw .unmatchedClose
  | top :: stack => addPart (leaf op) top stack

/-- Makes the top of the stack a part of what is below it. -/
def addGroup : List Tree → Except SyntaxError (List Tree)
  | group :: top :: stack => addPart group top stack
  | _ => throw .unmatchedClose

/-- Closes the bracket on top of the stack. -/
def closeBracket : List Tree → Except SyntaxError (List Tree)
  | [] => throw .unmatchedClose
  | [_] => throw .unmatchedClose
  | stack => closeSequences stack >>= addGroup

/-- Adds a token to the stack, with the one after it. -/
def addToken (afterValue : Bool) (next : Option Token) (stack : List Tree) :
    Token → Except SyntaxError (List Tree)
  | .opening => .ok (leaf .root :: stack)
  | .closing => closeBracket stack
  | token => addOperator (ofToken afterValue next token) stack

theorem grow_cons (stack : List Tree) (afterValue : Bool) (token : Token) (rest : List Token) :
    grow stack afterValue (token :: rest) =
      addToken afterValue rest.head? stack token >>= fun stack => grow stack token.endsValue rest := by
  cases token with
  | opening => rfl
  | closing =>
    match stack with
    | [] | [_] => rfl
    | first :: second :: below =>
      simp only [grow, addToken, closeBracket, bind_assoc]
      cases closeSequences (first :: second :: below) with
      | error e => rfl
      | ok closed =>
        match closed with
        | [] | [_] | _ :: _ :: _ => rfl
  | op | not | assign | update | comma | semicolon | name | value => cases stack <;> rfl

theorem addOperator_rename (op : Operator) (stack : List Tree) :
    addOperator (op.rename ρ) (stack.map (rename ρ)) =
      (addOperator op stack).map (List.map (rename ρ)) := by
  cases stack with
  | nil => rfl
  | cons top stack =>
    rw [List.map_cons, addOperator, ← rename_leaf, addPart_rename]
    rfl

theorem addGroup_rename (stack : List Tree) :
    addGroup (stack.map (rename ρ)) = (addGroup stack).map (List.map (rename ρ)) := by
  match stack with
  | [] | [_] => rfl
  | group :: top :: stack => exact addPart_rename ρ group top stack

theorem closeBracket_rename (stack : List Tree) :
    closeBracket (stack.map (rename ρ)) = (closeBracket stack).map (List.map (rename ρ)) := by
  match stack with
  | [] | [_] => rfl
  | first :: second :: below =>
    have hclosed := closeSequences_rename ρ (first :: second :: below)
    change closeSequences ((first :: second :: below).map (rename ρ)) >>= addGroup =
      (closeSequences (first :: second :: below) >>= addGroup).map _
    rw [hclosed]
    cases closeSequences (first :: second :: below) with
    | error e => rfl
    | ok closed => exact addGroup_rename ρ closed

section

variable {ρ} {stack stack' : List Tree} {ts ts' : List Token}

theorem addOperator_congr {op op' : Operator} (hop : op.rename ρ = op'.rename ρ)
    (hstack : stack.map (rename ρ) = stack'.map (rename ρ)) :
    (addOperator op stack).map (List.map (rename ρ)) =
      (addOperator op' stack').map (List.map (rename ρ)) := by
  rw [← addOperator_rename, ← addOperator_rename, hop, hstack]

theorem addToken_congr {afterValue : Bool} {next next' : Option Token} {token : Token}
    (htoken : ofToken afterValue next token = ofToken afterValue next' token)
    (hstack : stack.map (rename ρ) = stack'.map (rename ρ)) :
    (addToken afterValue next stack token).map (List.map (rename ρ)) =
      (addToken afterValue next' stack' token).map (List.map (rename ρ)) := by
  cases token with
  | opening => simp [addToken, Except.map, hstack]
  | closing =>
    change (closeBracket stack).map _ = (closeBracket stack').map _
    rw [← closeBracket_rename, ← closeBracket_rename, hstack]
  | op | not | assign | update | comma | semicolon | name | value =>
    exact addOperator_congr (congrArg _ htoken) hstack

theorem ofToken_name_eq_read_iff {afterValue : Bool} {next : Option Token} {name : String} :
    ofToken afterValue next (.name name) = .read name ↔
      next.any Token.isAssignment = false ∧ next.any Token.beginsValue = false := by
  simp only [ofToken]
  cases next.any Token.isAssignment <;> cases next.any Token.beginsValue <;> simp

/-- Names are not looked at while a stack grows. -/
theorem grow_congr (h : Respelled ρ ts ts') {afterValue : Bool}
    (hstack : stack.map (rename ρ) = stack'.map (rename ρ)) :
    (grow stack afterValue ts).map (List.map (rename ρ)) =
      (grow stack' afterValue ts').map (List.map (rename ρ)) := by
  -- What the two stacks have in common before each token is their trees up to the names.
  induction h generalizing stack stack' afterValue with
  | nil => exact congrArg Except.ok hstack
  | same token h ih =>
    rw [grow_cons, grow_cons]
    refine Except.map_bind_congr (addToken_congr (h.ofToken_eq _ token) hstack) ?_
    intro below below' hbelow
    exact ih hbelow
  | @read a b rest rest' h hab ha ih =>
    have hread : rest'.head?.any Token.isAssignment = false ∧
        rest'.head?.any Token.beginsValue = false := by
      rw [← h.head_isAssignment, ← h.head_beginsValue]
      exact ofToken_name_eq_read_iff.1 ha
    have hop : (ofToken afterValue rest.head? (.name a)).rename ρ =
        (ofToken afterValue rest'.head? (.name b)).rename ρ := by
      rw [ofToken_name_eq_read_iff.2 hread, ofToken_name_eq_read_iff.2 (ofToken_name_eq_read_iff.1 ha)]
      exact congrArg Operator.read hab
    rw [grow_cons, grow_cons]
    refine Except.map_bind_congr (addOperator_congr hop hstack) ?_
    intro below below' hbelow
    exact ih hbelow

theorem closeSequences_congr (hstack : stack.map (rename ρ) = stack'.map (rename ρ)) :
    (closeSequences stack).map (List.map (rename ρ)) =
      (closeSequences stack').map (List.map (rename ρ)) := by
  rw [← closeSequences_rename, ← closeSequences_rename, hstack]

/-- Tokens with other names for variables grow into trees with other names for variables, and fail in
the same way. -/
theorem ofTokens_congr (h : Respelled ρ ts ts') :
    (ofTokens ts).map (rename ρ) = (ofTokens ts').map (rename ρ) := by
  refine Except.map_bind_congr (grow_congr h rfl) ?_
  intro stack stack' hstack
  refine Except.map_bind_congr (closeSequences_congr hstack) ?_
  intro closed closed' hclosed
  match closed, closed' with
  | [], [] => rfl
  | [t], [t'] => exact congrArg Except.ok (List.cons.inj hclosed).1
  | _ :: _ :: _, _ :: _ :: _ => rfl
  | [_], _ :: _ :: _ | _ :: _ :: _, [_] => nomatch (List.cons.inj hclosed).2

end

end Tree

/-! ## Values -/

section

variable {ρ} {lookup : String → Option Value}

/-- The variables that get other names have values, and these are those of the other names. -/
def Faithful (ρ : String → String) (lookup : String → Option Value) : Prop :=
  ∀ name, ρ name = name ∨ ∃ v, lookup (ρ name) = some v ∧ lookup name = some v

/-- Only a variable without a value is told by its name. -/
theorem apply_rename (h : Faithful ρ lookup) (op : Operator) (values : List Value) :
    (op.rename ρ).apply lookup values = op.apply lookup values := by
  cases op with
  | read name =>
    rcases h name with hname | ⟨v, hrenamed, hv⟩
    · rw [Operator.rename, hname]
    · simp only [Operator.rename, Operator.apply, hrenamed, hv]
  | root | binary | negate | not | assign | update | tuple | chain | value | write | call => rfl

mutual

theorem eval_rename (h : Faithful ρ lookup) : (t : Tree) →
    (t.rename ρ).eval lookup = t.eval lookup
  | .node op parts => by
    rw [Tree.rename, Tree.eval, Tree.eval, evalAll_rename h parts]
    simp only [apply_rename h]

theorem evalAll_rename (h : Faithful ρ lookup) : (ts : List Tree) →
    evalAll lookup (renameAll ρ ts) = evalAll lookup ts
  | [] => rfl
  | t :: rest => by rw [renameAll, evalAll, evalAll, eval_rename h t, evalAll_rename h rest]

end

/-- Trees that differ in the names of variables have the same value or fail in the same way. -/
theorem eval_eq_of_rename_eq (h : Faithful ρ lookup) {t t' : Tree}
    (ht : t.rename ρ = t'.rename ρ) : t.eval lookup = t'.eval lookup := by
  rw [← eval_rename h t, ht, eval_rename h t']

end

end Switchboard.Expression
