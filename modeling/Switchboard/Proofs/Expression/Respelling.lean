import Mathlib.Logic.Relation
import Switchboard.Proofs.Decimal.Number
import Switchboard.Proofs.Expression.Pieces
import Switchboard.Proofs.Expression.Renaming

/-!
# Respelling a variable

A name in a text can be replaced by another where it is a variable that is read. The tokens before and
after it stay the same, as no number is made of the name and what is next to it.
-/

namespace Switchboard.Expression

namespace Token

/-! ## One token -/

/-- The token of a sign that must be doubled, with the pieces after it. -/
def ofDoubled (c : Char) (rest : List Piece) : Except SyntaxError (Option Token × List Piece) :=
  let op : BinaryOp := if c == '&' then .and else .or
  if rest.head? != some (.sign c) then
    .error (.unmatchedPiece (Piece.sign c).display (rest.head?.map Piece.display))
  else if (rest.drop 1).head? == some (.sign '=') then .ok (some (.update op), rest.drop 2)
  else .ok (some (.op op), rest.drop 1)

/-- The token that a piece stands for together with those after it, if it stands for one, and the
pieces after that. -/
def first (rest : List Piece) : Piece → Except SyntaxError (Option Token × List Piece)
  | .quoted s => .ok (some (.value (.string s)), rest)
  | .blank => .ok (none, rest)
  | .run cs =>
    match literal? cs with
    | some v => .ok (some (.value v), rest)
    | none =>
      match signedExponent? cs rest with
      | some (v, rest) => .ok (some (.value v), rest)
      | none => .ok (some (.name (String.ofList cs)), rest)
  | .sign c =>
    match ofLoneSign? c with
    | some token => .ok (some token, rest)
    | none =>
      match ofSign? c (rest.head? == some (.sign '=')) with
      | some token =>
        .ok (some token, if rest.head? == some (.sign '=') then rest.drop 1 else rest)
      | none => ofDoubled c rest

/-- The tokens of a text are its first token and those of what comes after it. -/
def andThen (left : Nat) (x : Option Token × List Piece) : Except SyntaxError (List Token) :=
  (ofPieces left x.2).map (x.1.toList ++ ·)

theorem andThen_some (left : Nat) (token : Token) (rest : List Piece) :
    andThen left (some token, rest) = do return token :: (← ofPieces left rest) := by
  unfold andThen
  cases ofPieces left rest <;> rfl

theorem andThen_none (left : Nat) (rest : List Piece) :
    andThen left (none, rest) = ofPieces left rest := by
  unfold andThen
  cases ofPieces left rest <;> rfl

theorem ofPieces_cons (left : Nat) (piece : Piece) (rest : List Piece) :
    ofPieces (left + 1) (piece :: rest) = first rest piece >>= andThen left := by
  cases piece with
  | quoted s => exact (andThen_some _ _ _).symm
  | blank => exact (andThen_none _ _).symm
  | run cs =>
    simp only [ofPieces, first]
    cases literal? cs with
    | some v => exact (andThen_some _ _ _).symm
    | none =>
      cases signedExponent? cs rest with
      | some number => exact (andThen_some _ _ _).symm
      | none => exact (andThen_some _ _ _).symm
  | sign c =>
    simp only [ofPieces, first]
    cases ofLoneSign? c with
    | some token => exact (andThen_some _ _ _).symm
    | none =>
      cases ofSign? c (rest.head? == some (.sign '=')) with
      | some token => exact (andThen_some _ _ _).symm
      | none =>
        simp only [ofDoubled]
        split
        · rfl
        · split
          · exact (andThen_some _ _ _).symm
          · exact (andThen_some _ _ _).symm

end Token

/-! ## The names of the payload -/

/-- The names under which an expression sees a payload. -/
def payloadNames : List String := ["value", "x"]

section

variable {a : String}

theorem isWord_of_mem_payloadNames (h : a ∈ payloadNames) : IsWord a.toList := by
  have hall : ∀ name ∈ payloadNames, name.toList ≠ [] ∧
      (name.toList.all fun c => decide (IsPlain c)) = true := by decide
  obtain ⟨hne, hplain⟩ := hall a h
  exact ⟨hne, fun c hc => of_decide_eq_true (List.all_eq_true.1 hplain c hc)⟩

theorem toOption_eq_none {cs : List Char} (h : ∀ f, Decimal.readNumber cs ≠ .ok f) :
    (Decimal.readNumber cs).toOption = none := by
  cases hread : Decimal.readNumber cs with
  | ok f => exact absurd hread (h f)
  | error e => rfl

/-- No number begins with one of the names. -/
theorem readNumber_name_append (h : a ∈ payloadNames) (cs : List Char) :
    (Decimal.readNumber (a.toList ++ cs)).toOption = none := by
  have hstart : ∃ c rest, a.toList = c :: rest ∧
      ¬ (c = '+' ∨ c = '-' ∨ c.isDigit = true ∨ c = '.' ∨ c.toLower ∈ ['i', 'n']) := by
    simp only [payloadNames, List.mem_cons, List.not_mem_nil, or_false] at h
    rcases h with rfl | rfl
    · exact ⟨'v', "alue".toList, rfl, by decide⟩
    · exact ⟨'x', [], rfl, by decide⟩
  obtain ⟨c, rest, ha, hc⟩ := hstart
  apply toOption_eq_none
  intro f hf
  rw [ha, List.cons_append] at hf
  exact hc (Decimal.startsNumber hf)

/-- No number ends with one of the names. -/
theorem readNumber_append_name (h : a ∈ payloadNames) (cs : List Char) :
    (Decimal.readNumber (cs ++ a.toList)).toOption = none := by
  have hend : ∃ c, a.toList.getLast? = some c ∧
      ¬ (c.isDigit = true ∨ c = '.' ∨ c.toLower ∈ ['f', 'y', 'n']) := by
    simp only [payloadNames, List.mem_cons, List.not_mem_nil, or_false] at h
    rcases h with rfl | rfl
    · exact ⟨'e', rfl, by decide⟩
    · exact ⟨'x', rfl, by decide⟩
  obtain ⟨c, ha, hc⟩ := hend
  apply toOption_eq_none
  intro f hf
  refine hc (Decimal.endsNumber hf ?_)
  rw [List.getLast?_append, ha]
  rfl

end

namespace Token

variable {a b : String} {before after : List Piece}

theorem literal?_name (h : a ∈ payloadNames) : literal? a.toList = none := by
  simp only [payloadNames, List.mem_cons, List.not_mem_nil, or_false] at h
  rcases h with rfl | rfl <;> rfl

theorem signedExponent?_name (h : a ∈ payloadNames) (rest : List Piece) :
    signedExponent? a.toList rest = none := by
  unfold signedExponent?
  split
  · rw [readNumber_name_append h]
    split <;> rfl
  · rfl

theorem first_name (h : a ∈ payloadNames) (rest : List Piece) :
    first rest (.run a.toList) = .ok (some (.name a), rest) := by
  simp only [first, literal?_name h, signedExponent?_name h, String.ofList_toList]

/-- The exponent of a number is read without a name that stands further on, or it is none. -/
theorem signedExponent?_cases (cs : List Char) (before after : List Piece) :
    (∀ a ∈ payloadNames, signedExponent? cs (before ++ .run a.toList :: after) = none) ∨
    ∃ v before', before'.length ≤ before.length ∧
      ∀ tail, signedExponent? cs (before ++ tail) = some (v, before' ++ tail) := by
  match before with
  | [] => exact .inl fun a _ => rfl
  | .quoted _ :: _ | .blank :: _ | .run _ :: _ => exact .inl fun a _ => rfl
  | [.sign c] =>
    refine .inl fun a ha => ?_
    simp only [List.singleton_append, signedExponent?]
    rw [List.append_cons, readNumber_append_name ha]
    split <;> rfl
  | .sign c :: .quoted _ :: _ | .sign c :: .blank :: _ | .sign c :: .sign _ :: _ =>
    exact .inl fun a _ => rfl
  | .sign c :: .run digits :: before =>
    simp only [List.cons_append, signedExponent?]
    split
    · cases (Decimal.readNumber (cs ++ c :: digits)).toOption with
      | none => exact .inl fun a _ => rfl
      | some f =>
        refine .inr ⟨.float f, before, ?_, fun tail => rfl⟩
        simp only [List.length_cons]
        omega
    · exact .inl fun a _ => rfl

/-- The second one of two signs is looked for in front of a name that stands further on. -/
theorem ofDoubled_respell {c : Char} {x : Option Token × List Piece}
    (h : ofDoubled c (before ++ .run a.toList :: after) = .ok x) :
    ∃ before', x.2 = before' ++ .run a.toList :: after ∧ before'.length ≤ before.length ∧
      ∀ b : String, ofDoubled c (before ++ .run b.toList :: after) =
        .ok (x.1, before' ++ .run b.toList :: after) := by
  match before with
  | [] => nomatch h
  | [p] =>
    simp only [ofDoubled, List.singleton_append, List.head?_cons] at h ⊢
    split at h
    · nomatch h
    · next hp =>
      obtain rfl := Except.ok.inj h
      refine ⟨[], rfl, Nat.zero_le _, ?_⟩
      intro b
      rw [if_neg hp]
      rfl
  | p :: q :: before =>
    simp only [ofDoubled, List.cons_append, List.head?_cons, List.drop_succ_cons, List.drop_zero]
      at h ⊢
    split at h
    · nomatch h
    · next hp =>
      split at h
      · next hq =>
        obtain rfl := Except.ok.inj h
        refine ⟨before, rfl, by simp only [List.length_cons]; omega, ?_⟩
        intro b
        rw [if_neg hp, if_pos hq]
      · next hq =>
        obtain rfl := Except.ok.inj h
        refine ⟨q :: before, rfl, by simp only [List.length_cons]; omega, ?_⟩
        intro b
        rw [if_neg hp, if_neg hq]
        rfl

/-- What is left after a sign of equality, if it comes first. -/
theorem exists_drop_equals (before : List Piece) :
    ∃ (joined : Bool) (before' : List Piece), before'.length ≤ before.length ∧
      ∀ r tail, ((before ++ .run r :: tail).head? == some (.sign '=')) = joined ∧
        (if joined then (before ++ .run r :: tail).drop 1 else before ++ .run r :: tail) =
          before' ++ .run r :: tail := by
  match before with
  | [] => exact ⟨false, [], Nat.le_refl _, fun r tail => ⟨rfl, rfl⟩⟩
  | p :: before =>
    by_cases hp : p = .sign '='
    · subst hp
      exact ⟨true, before, Nat.le_succ _, fun r tail => ⟨rfl, rfl⟩⟩
    · refine ⟨false, p :: before, Nat.le_refl _, fun r tail => ⟨?_, rfl⟩⟩
      simp [hp]

theorem first_sign_respell {c : Char} {x : Option Token × List Piece}
    (h : first (before ++ .run a.toList :: after) (.sign c) = .ok x) :
    ∃ before', x.2 = before' ++ .run a.toList :: after ∧ before'.length ≤ before.length ∧
      ∀ b : String, first (before ++ .run b.toList :: after) (.sign c) =
        .ok (x.1, before' ++ .run b.toList :: after) := by
  obtain ⟨joined, before', hlength, hbefore⟩ := exists_drop_equals before
  simp only [first, (hbefore _ _).1, (hbefore _ _).2] at h ⊢
  cases hlone : ofLoneSign? c with
  | some token =>
    rw [hlone] at h
    obtain rfl := Except.ok.inj h
    exact ⟨before, rfl, Nat.le_refl _, fun b => rfl⟩
  | none =>
    rw [hlone] at h
    cases hsign : ofSign? c joined with
    | some token =>
      rw [hsign] at h
      obtain rfl := Except.ok.inj h
      exact ⟨before', rfl, hlength, fun b => rfl⟩
    | none =>
      rw [hsign] at h
      exact ofDoubled_respell h

/-- The first token of pieces is not made of a name that stands further on. -/
theorem first_respell (ha : a ∈ payloadNames) {piece : Piece} {x : Option Token × List Piece}
    (h : first (before ++ .run a.toList :: after) piece = .ok x) :
    ∃ before', x.2 = before' ++ .run a.toList :: after ∧ before'.length ≤ before.length ∧
      ∀ b ∈ payloadNames, first (before ++ .run b.toList :: after) piece =
        .ok (x.1, before' ++ .run b.toList :: after) := by
  cases piece with
  | quoted | blank =>
    obtain rfl := Except.ok.inj h
    exact ⟨before, rfl, Nat.le_refl _, fun b hb => rfl⟩
  | run cs =>
    simp only [first] at h ⊢
    cases hliteral : literal? cs with
    | some v =>
      rw [hliteral] at h
      obtain rfl := Except.ok.inj h
      exact ⟨before, rfl, Nat.le_refl _, fun b hb => rfl⟩
    | none =>
      rw [hliteral] at h
      rcases signedExponent?_cases cs before after with hnone | ⟨v, before', hlength, hsome⟩
      · rw [hnone a ha] at h
        obtain rfl := Except.ok.inj h
        refine ⟨before, rfl, Nat.le_refl _, ?_⟩
        intro b hb
        simp only [hnone b hb]
      · rw [hsome] at h
        obtain rfl := Except.ok.inj h
        refine ⟨before', rfl, hlength, ?_⟩
        intro b _
        simp only [hsome]
  | sign c =>
    obtain ⟨before', hrest, hlength, hother⟩ := first_sign_respell h
    exact ⟨before', hrest, hlength, fun b _ => hother b⟩

/-! ## All tokens -/

theorem length_of_signedExponent? {cs : List Char} {rest : List Piece} {x : Value × List Piece}
    (h : signedExponent? cs rest = some x) : x.2.length ≤ rest.length := by
  unfold signedExponent? at h
  split at h
  · split at h
    · obtain ⟨f, -, rfl⟩ := Option.map_eq_some_iff.1 h
      simp only [List.length_cons]
      omega
    · nomatch h
  · nomatch h

theorem length_of_ofDoubled {c : Char} {rest : List Piece} {x : Option Token × List Piece}
    (h : ofDoubled c rest = .ok x) : x.2.length ≤ rest.length := by
  simp only [ofDoubled] at h
  split at h
  · nomatch h
  · split at h
    all_goals
      obtain rfl := Except.ok.inj h
      exact (List.drop_sublist _ _).length_le

theorem length_of_first {piece : Piece} {rest : List Piece} {x : Option Token × List Piece}
    (h : first rest piece = .ok x) : x.2.length ≤ rest.length := by
  cases piece with
  | quoted | blank =>
    obtain rfl := Except.ok.inj h
    exact Nat.le_refl _
  | run cs =>
    simp only [first] at h
    split at h
    · obtain rfl := Except.ok.inj h
      exact Nat.le_refl _
    · split at h
      · next hexponent =>
        obtain rfl := Except.ok.inj h
        exact length_of_signedExponent? hexponent
      · obtain rfl := Except.ok.inj h
        exact Nat.le_refl _
  | sign c =>
    simp only [first] at h
    split at h
    · obtain rfl := Except.ok.inj h
      exact Nat.le_refl _
    · split at h
      · obtain rfl := Except.ok.inj h
        dsimp only
        split
        · exact (List.drop_sublist _ _).length_le
        · exact Nat.le_refl _
      · exact length_of_ofDoubled h

/-- More steps than there are pieces make no difference. -/
theorem ofPieces_of_le {left left' : Nat} {pieces : List Piece} (h : pieces.length ≤ left)
    (h' : pieces.length ≤ left') : ofPieces left pieces = ofPieces left' pieces := by
  induction left generalizing left' pieces with
  | zero =>
    obtain rfl := List.length_eq_zero_iff.1 (Nat.le_zero.1 h)
    cases left' <;> rfl
  | succ left ih =>
    cases pieces with
    | nil => cases left' <;> rfl
    | cons piece rest =>
      simp only [List.length_cons] at h h'
      obtain ⟨left', rfl⟩ : ∃ n, left' = n + 1 := ⟨left' - 1, by omega⟩
      rw [ofPieces_cons, ofPieces_cons]
      cases hfirst : first rest piece with
      | error e => rfl
      | ok x =>
        have hx := length_of_first hfirst
        change andThen left x = andThen left' x
        rw [andThen, andThen, @ih left' x.2 (by omega) (by omega)]

/-- The tokens of pieces are the same before and after a name, whichever it is. -/
theorem ofPieces_respell (ha : a ∈ payloadNames) {left : Nat} {ts : List Token}
    (h : ofPieces left (before ++ .run a.toList :: after) = .ok ts)
    (hleft : (before ++ .run a.toList :: after).length ≤ left) :
    ∃ front back, ts = front ++ .name a :: back ∧ ofPieces after.length after = .ok back ∧
      ∀ b ∈ payloadNames, ofPieces left (before ++ .run b.toList :: after) =
        .ok (front ++ .name b :: back) := by
  -- A token may take several pieces, so that the induction is on the steps and not on the pieces.
  induction left generalizing before ts with
  | zero => simp at hleft
  | succ left ih =>
    cases before with
    | nil =>
      simp only [List.nil_append, List.length_cons] at h hleft
      rw [ofPieces_cons, first_name ha] at h
      obtain ⟨back, hback, rfl⟩ := Except.map_eq_ok_iff.1 h
      refine ⟨[], back, rfl, ?_, ?_⟩
      · rw [← hback]
        exact ofPieces_of_le (Nat.le_refl _) (by omega)
      · intro b hb
        rw [List.nil_append, ofPieces_cons, first_name hb]
        exact Except.map_eq_ok_iff.2 ⟨back, hback, rfl⟩
    | cons piece before =>
      simp only [List.cons_append, ofPieces_cons] at h ⊢
      obtain ⟨x, hfirst, h⟩ := Except.exists_of_bind_eq_ok h
      obtain ⟨before', hrest, hlength, hother⟩ := first_respell ha hfirst
      obtain ⟨rest, hx, rfl⟩ := Except.map_eq_ok_iff.1 h
      rw [hrest] at hx
      simp only [List.length_append, List.length_cons] at hleft
      obtain ⟨front, back, rfl, hafter, hall⟩ :=
        ih hx (by simp only [List.length_append, List.length_cons]; omega)
      refine ⟨x.1.toList ++ front, back, by rw [List.append_assoc], hafter, ?_⟩
      intro b hb
      rw [hother b hb]
      refine Except.map_eq_ok_iff.2 ⟨_, hall b hb, ?_⟩
      rw [List.append_assoc]

end Token

/-! ## Texts -/

/-- One name of the payload takes the place of another in a text, where it is a piece of its own and
the tokens after it make it a variable that is read. -/
inductive Replaced : String → String → Prop where
  | intro {front back : List Char} {before after : List Piece} {later : List Token} {a b : String}
      (ha : a ∈ payloadNames) (hb : b ∈ payloadNames)
      (hpiece : IsPiece front a.toList back before after)
      (hlater : Token.ofPieces after.length after = .ok later)
      (hread : Tree.ofToken false later.head? (.name a) = .read a) :
      Replaced (String.ofList (front ++ (a.toList ++ back)))
        (String.ofList (front ++ (b.toList ++ back)))

/-- The one of the names that stands for the others. -/
def canonical (name : String) : String := if name ∈ payloadNames then "value" else name

theorem canonical_eq {a b : String} (ha : a ∈ payloadNames) (hb : b ∈ payloadNames) :
    canonical a = canonical b := by
  rw [canonical, canonical, if_pos ha, if_pos hb]

theorem tokens_eq_ok {cs : List Char} {ts : List Token} :
    tokens (String.ofList cs) = .ok ts ↔ ∃ pieces, Reading [] cs pieces.reverse [] ∧
      Token.ofPieces pieces.length pieces = .ok ts := by
  unfold tokens
  simp only [String.toList_ofList]
  constructor
  · intro h
    obtain ⟨pieces, hpieces, h⟩ := Except.exists_of_bind_eq_ok h
    exact ⟨pieces, reading_of_readPieces hpieces (Nat.le_refl _), h⟩
  · rintro ⟨pieces, hpieces, h⟩
    rw [readPieces_of_reading hpieces (Nat.le_refl _), List.reverse_reverse]
    exact h

/-- The tokens change where the text does. -/
theorem Replaced.tokens {source source' : String} {ts : List Token} (h : Replaced source source')
    (hts : tokens source = .ok ts) :
    ∃ ts', Expression.tokens source' = .ok ts' ∧ Respelled canonical ts ts' := by
  obtain @⟨front, back, before, after, later, a, b, ha, hb, hpiece, hlater, hread⟩ := h
  obtain ⟨pieces, hreading, hpieces⟩ := tokens_eq_ok.1 hts
  have hreverse : pieces = before ++ .run a.toList :: after := by
    have h := hreading.eq_of_end hpiece.pieces
    rw [← List.reverse_reverse pieces, h]
    simp
  subst hreverse
  obtain ⟨fore, back', rfl, hback, hall⟩ := Token.ofPieces_respell ha hpieces (Nat.le_refl _)
  obtain rfl : back' = later := Except.ok.inj (hback.symm.trans hlater)
  have hother := hpiece.respell (isWord_of_mem_payloadNames ha) (isWord_of_mem_payloadNames hb)
  refine ⟨fore ++ .name b :: back', ?_, ?_⟩
  · refine tokens_eq_ok.2 ⟨before ++ .run b.toList :: after, ?_, ?_⟩
    · have h := hother.pieces
      rwa [show after.reverse ++ .run b.toList :: before.reverse =
        (before ++ .run b.toList :: after).reverse by simp] at h
    · simpa using hall b hb
  · exact .append fore (.read (.refl _ _) (canonical_eq ha hb) hread)

/-- Two texts are the same expression but for the names of variables that stand for the payload. -/
inductive Interchanged (source source' : String) : Prop where
  | intro {ts ts' : List Token} (hts : tokens source = .ok ts) (hts' : tokens source' = .ok ts')
      (h : Respelled canonical ts ts') : Interchanged source source'

/-- Any number of names may be replaced. -/
theorem interchanged_of_replaced {source source' : String} {ts : List Token}
    (h : Relation.ReflTransGen Replaced source source') (hts : tokens source = .ok ts) :
    Interchanged source source' := by
  induction h with
  | refl => exact ⟨hts, hts, .refl _ ts⟩
  | tail _ hlast ih =>
    obtain ⟨hts, hts', hrespelled⟩ := ih
    obtain ⟨ts'', hts'', hlast⟩ := hlast.tokens hts'
    exact ⟨hts, hts'', hrespelled.trans hlast⟩

theorem Tree.ofText_eq {source : String} {ts : List Token} (h : tokens source = .ok ts) :
    Tree.ofText source = Tree.ofTokens ts := by
  unfold Tree.ofText
  rw [h]
  rfl

/-- When one text parses, both do, and the trees differ in the names of variables. -/
theorem Interchanged.ofText {source source' : String} {t : Tree} (h : Interchanged source source')
    (ht : Tree.ofText source = .ok t) :
    ∃ t', Tree.ofText source' = .ok t' ∧ t.rename canonical = t'.rename canonical := by
  obtain ⟨hts, hts', hrespelled⟩ := h
  rw [Tree.ofText_eq hts] at ht
  rw [Tree.ofText_eq hts']
  exact Except.exists_of_map_eq (Tree.ofTokens_congr hrespelled) ht

end Switchboard.Expression
