import Switchboard.Expression.Token
import Switchboard.Proofs.Except

/-!
# Reading pieces step by step

The reader of pieces takes something off its text in each step, and what it takes does not depend on
what comes later, with one exception: a slash begins a comment or not, as the character after it is.
-/

namespace Switchboard.Expression

/-- One step of the reader: a text between quotes, a comment, or a single character. -/
inductive Step : List Piece → List Char → List Piece → List Char → Prop where
  | quoted (done : List Piece) {s : String} {text rest : List Char}
      (h : readQuoted [] text = .ok (s, rest)) : Step done ('"' :: text) (.quoted s :: done) rest
  | comment (done : List Piece) {c : Char} {text rest : List Char} (hc : c ≠ '"')
      (h : skipComment? (c :: text) = .ok (some rest)) : Step done (c :: text) done rest
  | character (done : List Piece) {c : Char} {rest : List Char} (hc : c ≠ '"')
      (h : skipComment? (c :: rest) = .ok none) : Step done (c :: rest) (addCharacter done c) rest

/-- Any number of steps. -/
inductive Reading : List Piece → List Char → List Piece → List Char → Prop where
  | stop (done : List Piece) (cs : List Char) : Reading done cs done cs
  | step {done done' done'' : List Piece} {cs cs' cs'' : List Char} (h : Step done cs done' cs')
      (hrest : Reading done' cs' done'' cs'') : Reading done cs done'' cs''

/-! ## What is taken off a text -/

theorem readQuoted_cons {c : Char} (hquote : c ≠ '"') (hescape : c ≠ '\\') (done cs : List Char) :
    readQuoted done (c :: cs) = readQuoted (c :: done) cs := by
  rw [readQuoted]
  · exact hquote
  · exact fun h _ => hescape h
  · exact fun _ _ h _ => hescape h

theorem afterComment_cons {c : Char} {cs : List Char} (h : c = '*' → cs.head? ≠ some '/') :
    afterComment (c :: cs) = afterComment cs := by
  rw [afterComment]
  rintro rest rfl rfl
  exact h rfl rfl

/-- What is taken off the front for a text between quotes does not depend on what follows. -/
theorem readQuoted_eq_ok {done cs rest : List Char} {s : String}
    (h : readQuoted done cs = .ok (s, rest)) :
    ∃ used, cs = used ++ rest ∧ ∀ other, readQuoted done (used ++ other) = .ok (s, other) := by
  fun_induction readQuoted done cs with
  | case1 | case3 | case5 => nomatch h
  | case2 done rest' =>
    obtain ⟨rfl, rfl⟩ := Prod.mk.inj (Except.ok.inj h)
    exact ⟨['"'], rfl, fun other => by simp [readQuoted]⟩
  | case4 done c rest' hc ih =>
    obtain ⟨used, rfl, hused⟩ := ih h
    refine ⟨'\\' :: c :: used, rfl, ?_⟩
    intro other
    simp only [List.cons_append, readQuoted, if_pos hc]
    exact hused other
  | case6 done c rest' hquote hlone hescape ih =>
    obtain ⟨used, hrest, hused⟩ := ih h
    refine ⟨c :: used, congrArg _ hrest, ?_⟩
    intro other
    have hc : c ≠ '\\' := by
      intro hc
      cases rest' with
      | nil => exact hlone hc rfl
      | cons next more => exact hescape next more hc rfl
    rw [List.cons_append, readQuoted_cons hquote hc]
    exact hused other

theorem afterComment_eq_some {cs rest : List Char} (h : afterComment cs = some rest) :
    ∃ used, used ≠ [] ∧ cs = used ++ rest ∧
      ∀ other, afterComment (used ++ other) = some other := by
  fun_induction afterComment cs with
  | case1 => nomatch h
  | case2 rest' =>
    obtain rfl := Option.some.inj h
    exact ⟨['*', '/'], by simp, rfl, fun other => rfl⟩
  | case3 c rest' hend ih =>
    obtain ⟨used, hne, rfl, hused⟩ := ih h
    refine ⟨c :: used, by simp, rfl, ?_⟩
    intro other
    obtain ⟨first, used, rfl⟩ := List.exists_cons_of_ne_nil hne
    rw [List.cons_append, afterComment_cons]
    · exact hused other
    · rintro rfl hfirst
      obtain rfl := Option.some.inj hfirst
      exact hend _ rfl rfl

theorem afterLine_eq {cs rest : List Char} (h : afterLine cs = rest) (hrest : rest ≠ []) :
    ∃ used, cs = used ++ rest ∧ ∀ other, afterLine (used ++ other) = other := by
  induction cs with
  | nil => exact absurd h.symm hrest
  | cons c cs ih =>
    by_cases hc : c = '\n'
    · subst hc
      obtain rfl : cs = rest := by simpa [afterLine] using h
      exact ⟨['\n'], rfl, fun other => by simp [afterLine]⟩
    · have hskip : ∀ more, afterLine (c :: more) = afterLine more := by
        intro more
        simp [afterLine, hc]
      rw [hskip] at h
      obtain ⟨used, rfl, hused⟩ := ih h
      exact ⟨c :: used, rfl, fun other => (hskip _).trans (hused other)⟩

/-- A comment ends where it does whatever follows, unless it goes up to the end of the text. -/
theorem skipComment?_eq_some {cs rest : List Char} (h : skipComment? cs = .ok (some rest))
    (hrest : rest ≠ []) :
    ∃ used, used ≠ [] ∧ cs = used ++ rest ∧
      ∀ other, skipComment? (used ++ other) = .ok (some other) := by
  unfold skipComment? at h
  split at h
  · next text =>
    obtain ⟨used, rfl, hused⟩ := afterLine_eq (Option.some.inj (Except.ok.inj h)) hrest
    refine ⟨'/' :: '/' :: used, by simp, rfl, ?_⟩
    intro other
    exact congrArg (Except.ok ∘ some) (hused other)
  · next text =>
    split at h
    · next text' htext =>
      obtain rfl := Option.some.inj (Except.ok.inj h)
      obtain ⟨used, -, rfl, hused⟩ := afterComment_eq_some htext
      refine ⟨'/' :: '*' :: used, by simp, rfl, ?_⟩
      intro other
      simp only [List.cons_append, skipComment?, hused]
    · nomatch h
  · nomatch h

/-- No comment begins with the first two characters of a text. -/
def NoComment (c : Char) (rest : List Char) : Prop :=
  c = '/' → rest.head? ≠ some '/' ∧ rest.head? ≠ some '*'

theorem skipComment?_eq_none_iff {c : Char} {rest : List Char} :
    skipComment? (c :: rest) = .ok none ↔ NoComment c rest := by
  unfold skipComment?
  split
  · next heq =>
    obtain ⟨rfl, rfl⟩ := List.cons.inj heq
    exact iff_of_false nofun fun h => (h rfl).1 rfl
  · next text heq =>
    obtain ⟨rfl, rfl⟩ := List.cons.inj heq
    refine iff_of_false ?_ fun h => (h rfl).2 rfl
    cases afterComment text <;> nofun
  · next hline hlines =>
    refine iff_of_true rfl ?_
    rintro rfl
    constructor
    · intro h
      obtain ⟨more, rfl⟩ := List.head?_eq_some_iff.1 h
      exact hline more rfl
    · intro h
      obtain ⟨more, rfl⟩ := List.head?_eq_some_iff.1 h
      exact hlines more rfl

/-! ## Steps -/

namespace Step

variable {done done' done₁ done₂ : List Piece} {cs cs' cs₁ cs₂ used rest other : List Char}

/-- Each step takes something off the front. -/
theorem suffix (h : Step done cs done' cs') : ∃ used, used ≠ [] ∧ cs = used ++ cs' := by
  cases h with
  | @quoted s text _ h =>
    obtain ⟨used, rfl, -⟩ := readQuoted_eq_ok h
    exact ⟨'"' :: used, by simp, rfl⟩
  | @comment c text _ hc h =>
    by_cases hrest : cs' = []
    · exact ⟨c :: text, by simp, by simp [hrest]⟩
    · obtain ⟨used, hne, hused, -⟩ := skipComment?_eq_some h hrest
      exact ⟨used, hne, hused⟩
  | @character c _ hc h => exact ⟨[c], by simp, rfl⟩

theorem length_lt (h : Step done cs done' cs') : cs'.length < cs.length := by
  obtain ⟨used, hne, rfl⟩ := h.suffix
  have hpos : 0 < used.length := List.length_pos_iff.2 hne
  rw [List.length_append]
  omega

theorem deterministic (h₁ : Step done cs done₁ cs₁) (h₂ : Step done cs done₂ cs₂) :
    done₁ = done₂ ∧ cs₁ = cs₂ := by
  cases h₁ with
  | quoted h₁ =>
    cases h₂ with
    | quoted h₂ =>
      obtain ⟨rfl, rfl⟩ := Prod.mk.inj (Except.ok.inj (h₁.symm.trans h₂))
      exact ⟨rfl, rfl⟩
    | comment hc | character hc => exact absurd rfl hc
  | comment hc h₁ =>
    cases h₂ with
    | quoted => exact absurd rfl hc
    | comment _ h₂ => exact ⟨rfl, Option.some.inj (Except.ok.inj (h₁.symm.trans h₂))⟩
    | character _ h₂ => nomatch h₁.symm.trans h₂
  | character hc h₁ =>
    cases h₂ with
    | quoted => exact absurd rfl hc
    | comment _ h₂ => nomatch h₁.symm.trans h₂
    | character => exact ⟨rfl, rfl⟩

/-- A step that leaves something is the same when it leaves something else, as long as a slash in front
of that begins no comment either. -/
theorem respell (h : Step done cs done' rest) (hcs : cs = used ++ rest) (hne : rest ≠ [])
    (hother : ∀ c, NoComment c rest → NoComment c other) :
    Step done (used ++ other) done' other := by
  cases h with
  | @quoted s text _ h =>
    obtain ⟨used', rfl, hused⟩ := readQuoted_eq_ok h
    obtain rfl : '"' :: used' = used := List.append_cancel_right hcs
    exact .quoted done (hused other)
  | @comment c text _ hc h =>
    obtain ⟨used', hused', hcs', hused⟩ := skipComment?_eq_some h hne
    obtain rfl : used' = used := List.append_cancel_right (hcs'.symm.trans hcs)
    obtain ⟨first, more, rfl⟩ := List.exists_cons_of_ne_nil hused'
    obtain rfl : c = first := (List.cons.inj hcs').1
    exact .comment done hc (hused other)
  | @character c _ hc h =>
    obtain rfl : [c] = used := List.append_cancel_right hcs
    exact .character done hc (skipComment?_eq_none_iff.2 (hother c (skipComment?_eq_none_iff.1 h)))

end Step

namespace Reading

variable {done done' done'' : List Piece} {cs cs' cs'' front rest other : List Char}

theorem suffix (h : Reading done cs done' cs') : ∃ used, cs = used ++ cs' := by
  induction h with
  | stop => exact ⟨[], rfl⟩
  | step h _ ih =>
    obtain ⟨used, -, rfl⟩ := h.suffix
    obtain ⟨more, rfl⟩ := ih
    exact ⟨used ++ more, (List.append_assoc ..).symm⟩

theorem trans (h : Reading done cs done' cs') (h' : Reading done' cs' done'' cs'') :
    Reading done cs done'' cs'' := by
  induction h with
  | stop => exact h'
  | step hstep _ ih => exact .step hstep (ih h')

/-- Reading that goes to the end of the text goes through everything that is reached. -/
theorem rest_of (h : Reading done cs done' cs') (hall : Reading done cs done'' []) :
    Reading done' cs' done'' [] := by
  induction h with
  | stop => exact hall
  | step hstep _ ih =>
    cases hall with
    | stop => cases hstep
    | step hstep' hall =>
      obtain ⟨rfl, rfl⟩ := hstep.deterministic hstep'
      exact ih hall

/-- Reading to the end comes to the same pieces. -/
theorem eq_of_end {done₁ done₂ : List Piece} (h₁ : Reading done cs done₁ [])
    (h₂ : Reading done cs done₂ []) : done₁ = done₂ := by
  cases h₁.rest_of h₂ with
  | stop => rfl
  | step hstep => cases hstep

/-- The front of a text is read as before when something else follows. -/
theorem respell (h : Reading done (front ++ rest) done' rest) (hne : rest ≠ [])
    (hother : ∀ c, NoComment c rest → NoComment c other) :
    Reading done (front ++ other) done' other := by
  generalize hcs : front ++ rest = cs at h
  generalize hcs' : rest = cs' at h
  induction h generalizing front with
  | stop =>
    obtain rfl : front = [] := by simpa using hcs.trans hcs'.symm
    exact .stop _ _
  | @step _ done₁ _ _ cs₁ _ hstep hreading ih =>
    obtain ⟨used, hused, rfl⟩ := hstep.suffix
    obtain ⟨front', rfl⟩ := hreading.suffix
    subst hcs'
    obtain rfl : front = used ++ front' :=
      List.append_cancel_right (hcs.trans (List.append_assoc ..).symm)
    rw [List.append_assoc]
    refine .step (hstep.respell rfl (by simp [hne]) ?_) (ih rfl rfl)
    -- The character behind the step is that of the front, if there is one.
    intro c hc
    cases front' with
    | nil => exact hother c hc
    | cons first more => exact hc

end Reading

/-! ## The reader -/

theorem reading_of_readPieces {left : Nat} {done pieces : List Piece} {cs : List Char}
    (h : readPieces left done cs = .ok pieces) (hleft : cs.length ≤ left) :
    Reading done cs pieces.reverse [] := by
  induction left generalizing done cs with
  | zero =>
    obtain rfl := List.length_eq_zero_iff.1 (Nat.le_zero.1 hleft)
    obtain rfl : done.reverse = pieces := Except.ok.inj h
    rw [List.reverse_reverse]
    exact .stop done []
  | succ left ih =>
    cases cs with
    | nil =>
      obtain rfl : done.reverse = pieces := Except.ok.inj h
      rw [List.reverse_reverse]
      exact .stop done []
    | cons c cs =>
      have hstep : ∀ {done' rest}, Step done (c :: cs) done' rest →
          readPieces left done' rest = .ok pieces → Reading done (c :: cs) pieces.reverse [] := by
        intro done' rest hstep hrest
        have hlength := hstep.length_lt
        exact .step hstep (ih hrest (by omega))
      rw [readPieces] at h
      split at h
      · next hc =>
        subst hc
        obtain ⟨⟨s, rest⟩, hquoted, h⟩ := Except.exists_of_bind_eq_ok h
        exact hstep (.quoted done hquoted) h
      · next hc =>
        obtain ⟨skipped, hskipped, h⟩ := Except.exists_of_bind_eq_ok h
        cases skipped with
        | some rest => exact hstep (.comment done hc hskipped) h
        | none => exact hstep (.character done hc hskipped) h

theorem readPieces_of_reading {left : Nat} {done pieces : List Piece} {cs : List Char}
    (h : Reading done cs pieces []) (hleft : cs.length ≤ left) :
    readPieces left done cs = .ok pieces.reverse := by
  generalize hend : ([] : List Char) = rest at h
  induction h generalizing left with
  | stop =>
    subst hend
    cases left <;> rfl
  | @step done done' _ cs cs' _ hstep _ ih =>
    have hlength := hstep.length_lt
    obtain ⟨left, rfl⟩ : ∃ n, left = n + 1 := ⟨left - 1, by omega⟩
    rw [← @ih left (by omega) hend]
    cases hstep with
    | quoted h =>
      rw [readPieces, if_pos rfl, h]
      rfl
    | comment hc h =>
      rw [readPieces, if_neg hc, h]
      rfl
    | character hc h =>
      rw [readPieces, if_neg hc, h]
      rfl

/-! ## Runs -/

/-- The characters that runs are made of. -/
def IsPlain (c : Char) : Prop := c ≠ '"' ∧ signs.contains c = false ∧ Text.isBlank c = false

instance (c : Char) : Decidable (IsPlain c) := inferInstanceAs (Decidable (_ ∧ _))

/-- What a run is: not nothing, and made of plain characters. -/
def IsWord (cs : List Char) : Prop := cs ≠ [] ∧ ∀ c ∈ cs, IsPlain c

theorem IsPlain.noComment {c : Char} (h : IsPlain c) (rest : List Char) : NoComment c rest := by
  rintro rfl
  exact absurd h.2.1 (by decide)

/-- A plain character is added to the run that the pieces end with, or begins one. -/
def extendRun (c : Char) : List Piece → List Piece
  | .run cs :: before => .run (cs ++ [c]) :: before
  | pieces => .run [c] :: pieces

theorem addCharacter_eq (done : List Piece) (c : Char) : addCharacter done c =
    if signs.contains c then .sign c :: done
    else if Text.isBlank c then .blank :: done
    else extendRun c done := by
  delta addCharacter extendRun
  rfl

theorem addCharacter_of_plain {c : Char} (h : IsPlain c) (done : List Piece) :
    addCharacter done c = extendRun c done := by
  rw [addCharacter_eq, h.2.1, h.2.2]
  rfl

theorem addCharacter_of_not_plain {c : Char} (hc : c ≠ '"') (h : ¬ IsPlain c) :
    ∃ p, ∀ done, addCharacter done c = p :: done := by
  by_cases hsign : signs.contains c = true
  · exact ⟨.sign c, fun done => by rw [addCharacter_eq, if_pos hsign]⟩
  · by_cases hblank : Text.isBlank c = true
    · exact ⟨.blank, fun done => by rw [addCharacter_eq, if_neg hsign, if_pos hblank]⟩
    · exact absurd ⟨hc, by simpa using hsign, by simpa using hblank⟩ h

/-- Pieces end with no run, which the next character would be added to. -/
def NoRun (done : List Piece) : Prop := ∀ r before, done ≠ .run r :: before

theorem extendRun_noRun (c : Char) {done : List Piece} (hdone : NoRun done) :
    extendRun c done = .run [c] :: done := by
  unfold extendRun
  split
  · next r before => exact absurd rfl (hdone r before)
  · rfl

theorem foldl_addCharacter_run {cs : List Char} (h : ∀ c ∈ cs, IsPlain c) (r : List Char)
    (done : List Piece) : cs.foldl addCharacter (.run r :: done) = .run (r ++ cs) :: done := by
  induction cs generalizing r with
  | nil => rw [List.foldl_nil, List.append_nil]
  | cons c cs ih =>
    obtain ⟨hc, hcs⟩ := List.forall_mem_cons.1 h
    rw [List.foldl_cons, addCharacter_of_plain hc, extendRun, ih hcs, List.append_assoc,
      List.singleton_append]

theorem foldl_addCharacter_noRun {cs : List Char} (h : IsWord cs) {done : List Piece}
    (hdone : NoRun done) : cs.foldl addCharacter done = .run cs :: done := by
  obtain ⟨hne, hplain⟩ := h
  obtain ⟨c, cs, rfl⟩ := List.exists_cons_of_ne_nil hne
  obtain ⟨hc, hcs⟩ := List.forall_mem_cons.1 hplain
  rw [List.foldl_cons, addCharacter_of_plain hc, extendRun_noRun c hdone,
    foldl_addCharacter_run hcs, List.singleton_append]

theorem addCharacter_append {p : Piece} {tail : List Piece} (done : List Piece) (c : Char) :
    addCharacter (p :: tail ++ done) c = addCharacter (p :: tail) c ++ done := by
  rw [addCharacter_eq, addCharacter_eq]
  split
  · rfl
  · split
    · rfl
    · cases p <;> rfl

/-- Plain characters are read one by one. -/
theorem Reading.plain {cs : List Char} (h : ∀ c ∈ cs, IsPlain c) (done : List Piece)
    (rest : List Char) : Reading done (cs ++ rest) (cs.foldl addCharacter done) rest := by
  induction cs generalizing done with
  | nil => exact .stop done rest
  | cons c cs ih =>
    obtain ⟨hc, hcs⟩ := List.forall_mem_cons.1 h
    refine .step (.character done hc.1 ?_) (ih hcs _)
    exact skipComment?_eq_none_iff.2 (hc.noComment _)

section

variable {l later done done' : List Piece} {r s cs cs' : List Char}

/-- A step leaves a run as it is, whatever it is, or makes it longer when it comes last. -/
theorem Step.run_cases (h : Step (l ++ .run r :: done) cs done' cs') :
    (∃ l', done' = l' ++ .run r :: done ∧
      ∀ s, Step (l ++ .run s :: done) cs (l' ++ .run s :: done) cs') ∨
    ∃ c, done' = .run (r ++ [c]) :: done := by
  cases h with
  | @quoted text _ _ h => exact .inl ⟨.quoted text :: l, rfl, fun s => .quoted _ h⟩
  | comment hc h => exact .inl ⟨l, rfl, fun s => .comment _ hc h⟩
  | @character c _ hc h =>
    cases l with
    | cons p l =>
      refine .inl ⟨addCharacter (p :: l) c, addCharacter_append _ c, ?_⟩
      intro s
      rw [← addCharacter_append]
      exact .character _ hc h
    | nil =>
      by_cases hplain : IsPlain c
      · exact .inr ⟨c, addCharacter_of_plain hplain _⟩
      · obtain ⟨p, hp⟩ := addCharacter_of_not_plain hc hplain
        refine .inl ⟨[p], hp _, ?_⟩
        intro s
        have hstep := Step.character (.run s :: done) hc h
        rwa [hp] at hstep

/-- A run stays where it is, and it may become longer. -/
theorem Reading.run_stays (h : Reading (l ++ .run r :: done) cs done' cs') :
    ∃ l' more, done' = l' ++ .run (r ++ more) :: done := by
  generalize hpieces : l ++ .run r :: done = pieces at h
  induction h generalizing l r with
  | stop => exact ⟨l, [], by rw [List.append_nil, hpieces]⟩
  | step hstep _ ih =>
    subst hpieces
    rcases hstep.run_cases with ⟨l', rfl, -⟩ | ⟨c, rfl⟩
    · exact ih rfl
    · obtain ⟨l', more, rfl⟩ := ih (l := []) rfl
      exact ⟨l', c :: more, by rw [List.append_assoc, List.singleton_append]⟩

/-- Two runs at the same place are the same. -/
theorem run_inj (h : l ++ .run r :: done = later ++ .run s :: done) : r = s := by
  have hlength : l.length = later.length := by
    have hall := congrArg List.length h
    simp only [List.length_append, List.length_cons] at hall
    omega
  exact Piece.run.inj (List.cons.inj (List.append_inj h hlength).2).1

/-- What is read after a run that stays as it is does not depend on the run. -/
theorem Reading.respell_run (h : Reading (l ++ .run r :: done) cs (later ++ .run r :: done) cs')
    (s : List Char) : Reading (l ++ .run s :: done) cs (later ++ .run s :: done) cs' := by
  generalize hpieces : l ++ .run r :: done = pieces at h
  generalize hpieces' : later ++ .run r :: done = pieces' at h
  induction h generalizing l with
  | stop =>
    obtain rfl : l = later := List.append_cancel_right (hpieces.trans hpieces'.symm)
    exact .stop _ _
  | step hstep hreading ih =>
    subst hpieces
    rcases hstep.run_cases with ⟨l', rfl, hsteps⟩ | ⟨c, rfl⟩
    · exact .step (hsteps s) (ih rfl hpieces')
    · -- A run that has become longer does not become shorter again.
      obtain ⟨l', more, hmore⟩ := hreading.run_stays (l := [])
      have hr : r = r ++ [c] ++ more := run_inj (hpieces'.trans hmore)
      simp at hr

end

/-! ## Words -/

theorem IsWord.noComment {word : List Char} (h : IsWord word) (back : List Char) (c : Char) :
    NoComment c (word ++ back) := by
  obtain ⟨hne, hplain⟩ := h
  obtain ⟨first, more, rfl⟩ := List.exists_cons_of_ne_nil hne
  have hfirst : IsPlain first := hplain first List.mem_cons_self
  rintro -
  constructor
  all_goals
    intro h
    obtain rfl := Option.some.inj h
    exact absurd hfirst (by decide)

/-- A word is a piece of its own in a text, with the given pieces before and after it. -/
structure IsPiece (front word back : List Char) (before after : List Piece) : Prop where
  reached : Reading [] (front ++ (word ++ back)) before.reverse (word ++ back)
  pieces : Reading [] (front ++ (word ++ back)) (after.reverse ++ .run word :: before.reverse) []

namespace IsPiece

variable {front word other back : List Char} {before after : List Piece}

theorem noRun (h : IsPiece front word back before after) (hword : IsWord word) :
    NoRun before.reverse ∧ Reading (.run word :: before.reverse) back
      (after.reverse ++ .run word :: before.reverse) [] := by
  have hback := (Reading.plain hword.2 _ back).rest_of (h.reached.rest_of h.pieces)
  have hrun : NoRun before.reverse := by
    intro r done hdone
    rw [hdone, foldl_addCharacter_run hword.2] at hback
    obtain ⟨l, more, hmore⟩ := hback.run_stays (l := [])
    rw [List.append_cons] at hmore
    have hr : r = r ++ word ++ more := run_inj hmore
    simp [hword.1] at hr
  rw [foldl_addCharacter_noRun hword hrun] at hback
  exact ⟨hrun, hback⟩

/-- Another word in the same place is a piece of its own as well, and nothing else changes. -/
theorem respell (h : IsPiece front word back before after) (hword : IsWord word)
    (hother : IsWord other) : IsPiece front other back before after := by
  obtain ⟨hrun, hback⟩ := h.noRun hword
  have hreached : Reading [] (front ++ (other ++ back)) before.reverse (other ++ back) :=
    h.reached.respell (by simp [hword.1]) fun c _ => hother.noComment back c
  refine ⟨hreached, hreached.trans ((Reading.plain hother.2 _ back).trans ?_)⟩
  rw [foldl_addCharacter_noRun hother hrun]
  exact hback.respell_run (l := []) other

end IsPiece

end Switchboard.Expression
