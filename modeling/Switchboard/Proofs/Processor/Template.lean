import Mathlib.Data.List.Infix
import Switchboard.Processor.Text

/-!
# Templates

A template falls apart at its holes, each the first one in what is left after those before it. What
it shows is these pieces with the text of the payload between them, so that nothing in that text is
ever taken for a hole.
-/

namespace Switchboard.Processor

/-- A hole of a template. -/
def hole : List Char := ['{', '}']

/-- The first hole begins after `k` characters. -/
def FirstHole (cs : List Char) (k : Nat) : Prop :=
  hole <+: cs.drop k ∧ ∀ j < k, ¬ hole <+: cs.drop j

/-- What stands between the holes of a template. -/
inductive Pieces : List Char → List (List Char) → Prop where
  | last {cs : List Char} (hnone : ¬ hole <:+: cs) : Pieces cs [cs]
  | before {cs : List Char} {k : Nat} {pieces : List (List Char)} (hfirst : FirstHole cs k)
      (hrest : Pieces (cs.drop (k + 2)) pieces) : Pieces cs (cs.take k :: pieces)

variable {c : Char} {cs rest piece filling : List Char} {pieces pieces' : List (List Char)}
variable {k k' : Nat}

/-! ## Holes -/

theorem infix_of_prefix_drop (h : hole <+: cs.drop k) : hole <:+: cs :=
  h.isInfix.trans (List.drop_suffix k cs).isInfix

theorem FirstHole.unique (h : FirstHole cs k) (h' : FirstHole cs k') : k' = k := by
  rcases Nat.lt_trichotomy k k' with hlt | heq | hlt
  · exact absurd h.1 (h'.2 k hlt)
  · exact heq.symm
  · exact absurd h'.1 (h.2 k' hlt)

theorem FirstHole.cons (hc : ¬ hole <+: c :: rest) (h : FirstHole rest k) :
    FirstHole (c :: rest) (k + 1) := by
  refine ⟨h.1, fun j hj => ?_⟩
  cases j with
  | zero => exact hc
  | succ j => exact h.2 j (Nat.lt_of_succ_lt_succ hj)

/-- A template has at most one split. -/
theorem Pieces.unique (h : Pieces cs pieces) (h' : Pieces cs pieces') : pieces' = pieces := by
  induction h generalizing pieces' with
  | last hnone =>
    cases h' with
    | last _ => rfl
    | before hfirst _ => exact absurd (infix_of_prefix_drop hfirst.1) hnone
  | before hfirst hrest ih =>
    cases h' with
    | last hnone => exact absurd (infix_of_prefix_drop hfirst.1) hnone
    | before hfirst' hrest' =>
      obtain rfl := hfirst.unique hfirst'
      rw [ih hrest']

theorem Pieces.cons (hc : ¬ hole <+: c :: rest) (h : Pieces rest (piece :: pieces)) :
    Pieces (c :: rest) ((c :: piece) :: pieces) := by
  cases h with
  | last hnone =>
    refine .last fun hinfix => ?_
    rcases List.infix_cons_iff.1 hinfix with h | h
    · exact hc h
    · exact hnone h
  | @before _ k _ hfirst hrest =>
    have hrest' : Pieces ((c :: rest).drop (k + 1 + 2)) pieces := hrest
    exact .before (hfirst.cons hc) hrest'

theorem splitHoles_ne_nil (cs : List Char) : splitHoles cs ≠ [] := by
  fun_cases splitHoles cs <;> simp_all

/-- The pieces that are computed are those between the holes. -/
theorem pieces_splitHoles (cs : List Char) : Pieces cs (splitHoles cs) := by
  fun_induction splitHoles cs with
  | case1 => exact .last (by decide)
  | case2 rest ih =>
    have hfirst : FirstHole ('{' :: '}' :: rest) 0 := ⟨⟨rest, rfl⟩, nofun⟩
    exact .before hfirst ih
  | case3 c rest hc piece pieces hsplit ih =>
    rw [hsplit] at ih
    refine ih.cons ?_
    rintro ⟨after, hafter⟩
    obtain ⟨rfl, rfl⟩ := List.cons.inj hafter
    exact hc after rfl rfl
  | case4 c rest hc hsplit ih => exact absurd hsplit (splitHoles_ne_nil rest)

theorem pieces_iff : Pieces cs pieces ↔ splitHoles cs = pieces := by
  constructor
  · intro h
    exact h.unique (pieces_splitHoles cs)
  · rintro rfl
    exact pieces_splitHoles cs

/-! ## Filling -/

/-- Filling puts the text between the pieces. -/
theorem fillHoles_eq (filling : List Char) (pieces : List (List Char)) :
    fillHoles filling pieces = filling.intercalate pieces := by
  induction pieces with
  | nil => rfl
  | cons piece rest ih =>
    cases rest with
    | nil => rw [fillHoles, List.intercalate_singleton]
    | cons next rest => rw [fillHoles, ih, List.intercalate_cons_cons]; simp

/-- The pieces with holes between them are the template again. -/
theorem Pieces.intercalate_hole (h : Pieces cs pieces) : hole.intercalate pieces = cs := by
  induction h with
  | last _ => exact List.intercalate_singleton
  | @before cs k pieces hfirst hrest ih =>
    obtain ⟨after, hafter⟩ := hfirst.1
    have hdrop : cs.drop (k + 2) = after := by
      rw [← List.drop_drop, ← hafter]
      rfl
    cases pieces with
    | nil => exact absurd (pieces_iff.1 hrest) (splitHoles_ne_nil _)
    | cons next pieces =>
      rw [List.intercalate_cons_cons, ih, hdrop, List.append_assoc, hafter,
        List.take_append_drop]

section

variable {template filling : String}

theorem render_eq (h : Pieces template.toList pieces) :
    render template filling = String.ofList (filling.toList.intercalate pieces) := by
  rw [render, pieces_iff.1 h, fillHoles_eq]

/-- A template that is one hole shows the payload alone. -/
theorem render_hole (s : String) : render "{}" s = s := by
  have hpieces : Pieces "{}".toList [[], []] := pieces_iff.2 rfl
  rw [render_eq hpieces, List.intercalate_cons_cons, List.intercalate_singleton, List.nil_append,
    List.append_nil, String.ofList_toList]

theorem render_of_not_infix (h : ¬ hole <:+: template.toList) : render template filling = template := by
  rw [render_eq (.last h), List.intercalate_singleton, String.ofList_toList]

/-- A hole in each hole changes nothing. -/
theorem render_with_hole (template : String) : render template "{}" = template := by
  have hpieces := pieces_splitHoles template.toList
  have hhole : "{}".toList = hole := rfl
  rw [render_eq hpieces, hhole, hpieces.intercalate_hole, String.ofList_toList]

theorem stringTemplate_eq {params : Params} (h : params.getString "template" = .ok template) :
    stringTemplate params =
      .ok (.quiet "string.template" fun p => .passed (.text (render template p.display))) := by
  simp only [stringTemplate, h]
  rfl

end

/-- **A template is filled once.** It falls apart at its leftmost holes in one way, and what it shows
of a payload is the pieces with the text of the payload between them, whatever that text is. So a
template that is a hole shows the text alone, one without holes shows itself, and a payload whose
text is a hole gives the template back. -/
theorem template_filled_once (template : String) :
    (∃! pieces, Pieces template.toList pieces) ∧
    (∀ pieces, Pieces template.toList pieces → hole.intercalate pieces = template.toList) ∧
    ∀ params : Params, params.getString "template" = .ok template →
      ∃ step, stringTemplate params = .ok step ∧
        (∀ p pieces, Pieces template.toList pieces → step.process p =
          (.passed (.text (String.ofList (p.display.toList.intercalate pieces))), [])) ∧
        (template = "{}" → ∀ p, step.process p = (.passed (.text p.display), [])) ∧
        (¬ hole <:+: template.toList → ∀ p, step.process p = (.passed (.text template), [])) ∧
        ∀ p, p.display = "{}" → step.process p = (.passed (.text template), []) := by
  have hsplit := pieces_splitHoles template.toList
  refine ⟨⟨_, hsplit, fun pieces h => hsplit.unique h⟩, fun pieces h => h.intercalate_hole, ?_⟩
  intro params hparams
  refine ⟨_, stringTemplate_eq hparams, ?_, ?_, ?_, ?_⟩
  · intro p pieces hpieces
    rw [← render_eq hpieces]
    rfl
  · rintro rfl p
    simp only [Processor.quiet, render_hole]
  · intro hnone p
    simp only [Processor.quiet, render_of_not_infix hnone]
  · intro p hp
    simp only [Processor.quiet, hp, render_with_hole]

/-- Holes next to braces, and payloads whose text is a hole or would be one with its neighbours. -/
theorem template_filled_once_braces :
    let params := Params.empty.insert "template" (.string "\x7b\x7b\x7d\x7b\x7d\x7d")
    params.getString "template" = .ok "\x7b\x7b\x7d\x7b\x7d\x7d" ∧
      Pieces "\x7b\x7b\x7d\x7b\x7d\x7d".toList [['{'], [], ['}']] ∧
      ∃ step, stringTemplate params = .ok step ∧
        step.process (.text "\x7d\x7b") = (.passed (.text "\x7b\x7d\x7b\x7d\x7b\x7d"), []) ∧
        step.process (.text "\x7b\x7d") =
          (.passed (.text "\x7b\x7b\x7d\x7b\x7d\x7d"), []) := by
  intro params
  have hpieces : Pieces "\x7b\x7b\x7d\x7b\x7d\x7d".toList [['{'], [], ['}']] := pieces_iff.2 rfl
  obtain ⟨-, -, hparams⟩ := template_filled_once "\x7b\x7b\x7d\x7b\x7d\x7d"
  obtain ⟨step, hstep, hfilled, -, -, hhole⟩ := hparams params rfl
  exact ⟨rfl, hpieces, step, hstep, hfilled _ _ hpieces, hhole _ rfl⟩

end Switchboard.Processor
