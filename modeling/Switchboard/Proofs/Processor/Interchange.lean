import Switchboard.Proofs.Expression.Respelling
import Switchboard.Proofs.Processor.Crash
import Switchboard.Table

/-!
# The two names of a payload

An expression sees the payload under two names. Which of them it uses makes no difference, except
where a failure quotes the text of the expression.
-/

namespace Switchboard.Processor

open Expression (Value Tree Interchanged Replaced Faithful canonical)

namespace Formula

/-! ## Variables -/

theorem faithful_canonical (value : Value) : Faithful canonical (lookup value) := by
  intro name
  by_cases hname : name ∈ Expression.payloadNames
  · have hvalue : name = "value" ∨ name = "x" := by
      simpa [Expression.payloadNames] using hname
    refine .inr ⟨value, ?_, if_pos hvalue⟩
    rw [canonical, if_pos hname]
    exact if_pos (.inl rfl)
  · exact .inl (if_neg hname)

/-! ## Results -/

/-- The same result, or two failures that quote the texts of their expressions and are the same
otherwise. -/
inductive Alike (source source' : String) : Processed → Processed → Prop where
  | same (r : Processed) : Alike source source' r r
  | unsupported (v : Value) :
      Alike source source'
        (.failed (.evaluation (source ++ " produced unsupported value " ++ v.exhibit)))
        (.failed (.evaluation (source' ++ " produced unsupported value " ++ v.exhibit)))

theorem alike_result (source source' : String) (v : Value) :
    Alike source source' (result source v) (result source' v) := by
  cases v with
  | int | float | string | boolean => exact .same _
  | tuple | empty => exact .unsupported _

theorem alike_process {formula formula' : Formula}
    (h : formula.tree.rename canonical = formula'.tree.rename canonical) (p : Payload) :
    Alike formula.source formula'.source (formula.process p) (formula'.process p) := by
  unfold process
  cases bind p with
  | error e => exact .same _
  | ok value =>
    simp only [Processed.ofView, Expression.eval_eq_of_rename_eq (faithful_canonical value) h]
    cases formula'.tree.eval (lookup value) with
    | ok v => exact alike_result _ _ v
    | error halt => cases halt <;> exact .same _

/-! ## Payloads in order -/

/-- A store with the variables of a value: four names are bound in it, one after the other, and no
other ones. -/
def context (value : Value) : Table Value :=
  let store : Table Value := []
  (((store.insert "value" value).insert "x" value).insert "PI"
    (.float (Float.ofBits 0x400921FB54442D18))).insert "E" (.float (Float.ofBits 0x4005BF0A8B145769))

theorem find?_context (value : Value) : (context value).find? = lookup value := by
  funext name
  simp only [context, Table.find?_insert, Table.find?_nil, lookup]
  by_cases hvalue : name = "value"
  · subst hvalue
    rfl
  · by_cases hx : name = "x"
    · subst hx
      rfl
    · by_cases hpi : name = "PI"
      · subst hpi
        rfl
      · by_cases he : name = "E"
        · subst he
          rfl
        · simp [hvalue, hx, hpi, he, eq_comm]

/-- What becomes of a payload when the variables of the one before it are still stored, and what is
stored after it. -/
def processIn (formula : Formula) (store : Table Value) (p : Payload) : Processed × Table Value :=
  match bind p with
  | .error e => (.failed (.payload e), store)
  | .ok value =>
    let store := context value
    match formula.tree.eval store.find? with
    | .ok v => (result formula.source v, store)
    | .error (.error e) => (.failed (.evaluation e.message), store)
    | .error .crash => (.crashed, store)

/-- What becomes of payloads that are evaluated one after the other. -/
def processAll (formula : Formula) (store : Table Value) : List Payload → List Processed
  | [] => []
  | p :: rest =>
    let (result, store) := formula.processIn store p
    result :: formula.processAll store rest

theorem processIn_fst (formula : Formula) (store : Table Value) (p : Payload) :
    (formula.processIn store p).1 = formula.process p := by
  unfold processIn process
  cases bind p with
  | error e => rfl
  | ok value =>
    simp only [find?_context, Processed.ofView]
    cases formula.tree.eval (lookup value) with
    | ok v => rfl
    | error halt => cases halt <;> rfl

/-- Nothing that is stored when a payload comes makes a difference. -/
theorem processAll_eq (formula : Formula) (store : Table Value) (ps : List Payload) :
    formula.processAll store ps = ps.map formula.process := by
  induction ps generalizing store with
  | nil => rfl
  | cons p rest ih =>
    change (formula.processIn store p).1 :: formula.processAll (formula.processIn store p).2 rest = _
    rw [ih, processIn_fst, List.map_cons]

end Formula

/-! ## Building -/

theorem Formula.ofText_eq {source : String} {tree : Tree} (h : Tree.ofText source = .ok tree) :
    Formula.ofText source = .ok ⟨source, tree⟩ := by
  unfold Formula.ofText
  rw [h]
  rfl

theorem exprEvaluate_eq {source : String} {params : Params} {formula : Formula}
    (hsource : params.getString "expression" = .ok source)
    (hformula : Formula.ofText source = .ok formula) :
    exprEvaluate params = .ok formula.toProcessor := by
  have hread : ProcessError.ofParam (params.getString "expression") = .ok source := by
    rw [hsource]
    rfl
  simp only [exprEvaluate, hread, bind, Except.bind, hformula]
  rfl

/-- **The names of the payload are interchangeable.** A text in which one of them takes the place of the
other, as often as one likes and wherever it is a variable that is read, is the same expression but for
these names. Texts that are the same expression but for these names are built together, and what
becomes of a payload is the same, except that a failure may quote the text. What becomes of a payload
does not depend on those before it. -/
theorem payload_names_interchangeable :
    (∀ source source' formula, Relation.ReflTransGen Replaced source source' →
      Formula.ofText source = .ok formula → Interchanged source source') ∧
    (∀ source source' params params' processor, Interchanged source source' →
      params.getString "expression" = .ok source → params'.getString "expression" = .ok source' →
      exprEvaluate params = .ok processor →
      ∃ processor', exprEvaluate params' = .ok processor' ∧ ∀ p,
        Formula.Alike source source' (processor.process p).1 (processor'.process p).1 ∧
          (processor'.process p).2 = (processor.process p).2) ∧
    (∀ source params formula, params.getString "expression" = .ok source →
      Formula.ofText source = .ok formula →
      ∃ processor, exprEvaluate params = .ok processor ∧
        ∀ (ps : List Payload) (store : Table Value),
          formula.processAll store ps = ps.map fun p => (processor.process p).1) := by
  refine ⟨?_, ?_, ?_⟩
  · intro source source' formula hreplaced hformula
    obtain ⟨tree, htree, -⟩ := Except.exists_of_bind_eq_ok hformula
    obtain ⟨ts, hts, -⟩ := Except.exists_of_bind_eq_ok htree
    exact Expression.interchanged_of_replaced hreplaced hts
  · intro source source' params params' processor h hsource hsource' hprocessor
    obtain ⟨⟨text, tree⟩, htext, htree, rfl⟩ := Formula.of_exprEvaluate hprocessor
    obtain rfl : text = source := Except.ok.inj (htext.symm.trans hsource)
    obtain ⟨tree', htree', hrename⟩ := h.ofText htree
    refine ⟨_, exprEvaluate_eq hsource' (Formula.ofText_eq htree'), ?_⟩
    intro p
    exact ⟨@Formula.alike_process ⟨text, tree⟩ ⟨source', tree'⟩ hrename p, rfl⟩
  · intro source params formula hsource hformula
    exact ⟨_, exprEvaluate_eq hsource hformula, fun ps store => formula.processAll_eq store ps⟩

/-- A pair of the payload with itself is no payload, and both texts are quoted. -/
theorem payload_names_interchangeable_pair :
    let params (text : String) : Params := ⟨[("expression", .string text)]⟩
    let pair : Value := .tuple [.int 1, .int 1]
    Relation.ReflTransGen Replaced "x,value" "value,value" ∧
      ∃ processor processor', exprEvaluate (params "x,value") = .ok processor ∧
        exprEvaluate (params "value,value") = .ok processor' ∧
        (∀ p, Formula.Alike "x,value" "value,value" (processor.process p).1 (processor'.process p).1) ∧
        (processor.process (.int 1)).1 =
          .failed (.evaluation ("x,value produced unsupported value " ++ pair.exhibit)) ∧
        ∃ formula : Formula, formula.source = "x,value" ∧ formula.processAll [] [.text "a", .int 1] =
          [(processor.process (.text "a")).1, (processor.process (.int 1)).1] := by
  intro params pair
  have hpieces : Expression.readPieces 7 [] "x,value".toList =
      .ok [.run "x".toList, .sign ',', .run "value".toList] := by decide +kernel
  have hreading := Expression.reading_of_readPieces hpieces (by decide)
  have htokens : Expression.tokens "x,value" = .ok [.name "x", .comma, .name "value"] :=
    Expression.tokens_eq_ok.2 ⟨_, hreading, rfl⟩
  have hreplaced : Replaced "x,value" "value,value" :=
    @Replaced.intro [] ",value".toList [] [.sign ',', .run "value".toList] [.comma, .name "value"]
      "x" "value" (by decide) (by decide) ⟨.stop _ _, hreading⟩ rfl rfl
  have htree : Tree.ofTokens [.name "x", .comma, .name "value"] =
      .ok (.node .root [.node .tuple [.node .root [.node (.read "x") []],
        .node .root [.node (.read "value") []]]]) := by cbv
  have hformula := Formula.ofText_eq ((Tree.ofText_eq htokens).trans htree)
  obtain ⟨hchain, halike, hall⟩ := payload_names_interchangeable
  have hinterchanged := hchain _ _ _ (.single hreplaced) hformula
  obtain ⟨processor, hprocessor, hruns⟩ := hall "x,value" (params "x,value") _ rfl hformula
  obtain ⟨processor', hprocessor', hboth⟩ :=
    halike _ _ (params "x,value") (params "value,value") _ hinterchanged rfl rfl hprocessor
  refine ⟨.single hreplaced, processor, processor', hprocessor, hprocessor', ?_, ?_, _, rfl, hruns _ _⟩
  · exact fun p => (hboth p).1
  · have hrun := hruns [.int 1] []
    exact (List.cons.inj hrun).1.symm.trans rfl

end Switchboard.Processor
