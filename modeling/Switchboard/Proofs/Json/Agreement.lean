import Mathlib.Data.List.Forall2
import Mathlib.Logic.Function.Basic
import Switchboard.Config.Document
import Switchboard.Proofs.Json.RecordParts
import Switchboard.Proofs.Json.Skipping

/-!
# Records and values of one document

Where a document can be read as a value as well as by a reader of strings, lists, tables or records,
both come to the same place, and what the reader has read is what the value says. A record is
compared with the value through the look-up of its keys: a key that nobody asked for changes the
look-up and not the record.
-/

namespace Switchboard.Json

variable {α σ : Type} {bytes rest after tail : Bytes} {bound depth : Nat} {first : Bool} {v : Json}

/-! ## Values by their first byte -/

theorem eq_string_of_readValue (hspace : skipSpace bytes = 0x22 :: tail)
    (h : readValue bound depth bytes = .ok (v, rest)) :
    ∃ s, v = .string s ∧ readString tail = .ok (s, rest) := by
  rcases readValue_eq_ok h with hscalar | ⟨inner, front, -, hparts⟩
  · rw [hspace] at hscalar
    cases hscalar with
    | digits hb => cases hb
    | string hs => exact ⟨_, rfl, hs⟩
  · rcases hparts with ⟨items, hother, -⟩ | ⟨fields, hother, -⟩
    · cases (hspace.symm.trans hother)
    · cases (hspace.symm.trans hother)

theorem eq_array_of_readValue (hspace : skipSpace bytes = 0x5B :: tail)
    (h : readValue bound (depth + 1) bytes = .ok (v, rest)) :
    ∃ items, v = .array items ∧ Items (readValue bound depth) true tail items rest := by
  rcases readValue_eq_ok h with hscalar | ⟨inner, front, hdepth, hparts⟩
  · rw [hspace] at hscalar
    cases hscalar with
    | digits hb => cases hb
  · obtain rfl := Nat.succ.inj hdepth
    rcases hparts with ⟨items, hfront, rfl, hitems⟩ | ⟨fields, hother, -⟩
    · obtain rfl := (List.cons.inj (hspace.symm.trans hfront)).2
      exact ⟨items, rfl, hitems⟩
    · cases (hspace.symm.trans hother)

theorem eq_object_of_readValue (hspace : skipSpace bytes = 0x7B :: tail)
    (h : readValue bound (depth + 1) bytes = .ok (v, rest)) :
    ∃ pairs, v = .object (Table.ofList pairs) ∧
      Fields (readValue bound depth) true tail pairs rest := by
  rcases readValue_eq_ok h with hscalar | ⟨inner, front, hdepth, hparts⟩
  · rw [hspace] at hscalar
    cases hscalar with
    | digits hb => cases hb
  · obtain rfl := Nat.succ.inj hdepth
    rcases hparts with ⟨items, hother, -⟩ | ⟨pairs, hfront, rfl, hpairs⟩
    · cases (hspace.symm.trans hother)
    · obtain rfl := (List.cons.inj (hspace.symm.trans hfront)).2
      exact ⟨pairs, rfl, hpairs⟩

/-! ## Readers that agree with values -/

/-- What a reader reads is in a relation to the value that stands there, and both end at one place. -/
def Agrees (bound depth : Nat) (reader : Bytes → Except Stop (α × Bytes)) (R : α → Json → Prop) :
    Prop :=
  ∀ bytes x rest v after, reader bytes = .ok (x, rest) →
    readValue bound depth bytes = .ok (v, after) → R x v ∧ rest = after

theorem agrees_expectString : Agrees bound depth expectString (fun s v => v = .string s) := by
  intro bytes s rest v after hs hv
  obtain ⟨tail, hspace, hs⟩ := expectString_eq_ok hs
  obtain ⟨t, rfl, ht⟩ := eq_string_of_readValue hspace hv
  obtain ⟨rfl, rfl⟩ := Prod.mk.inj (Except.ok.inj (hs.symm.trans ht))
  exact ⟨rfl, rfl⟩

theorem not_nextItem_of_close (h : skipSpace bytes = 0x5D :: tail) :
    nextItem first bytes ≠ .ok (.part, rest) := by
  intro hnext
  obtain ⟨⟨b, tail', rfl, hb⟩, ⟨-, hspace⟩ | ⟨-, more, hspace, -⟩⟩ := nextItem_eq_part hnext
  · exact hb (List.cons.inj (hspace.symm.trans h)).1
  · cases (hspace.symm.trans h)

theorem not_nextKey_of_close (h : skipSpace bytes = 0x7D :: tail) :
    nextKey first bytes ≠ .ok (.part, rest) := by
  intro hnext
  rcases nextKey_eq_part hnext with ⟨-, hspace⟩ | ⟨-, more, hspace, -⟩
  · cases (hspace.symm.trans h)
  · cases (hspace.symm.trans h)

theorem items_agree {item : Bytes → Except Stop (α × Bytes)} {R : α → Json → Prop}
    (h : Agrees bound depth item R) {xs : List α} {vs : List Json}
    (hxs : Items item first bytes xs rest) (hvs : Items (readValue bound depth) first bytes vs after) :
    List.Forall₂ R xs vs ∧ rest = after := by
  induction hxs generalizing vs with
  | close hspace =>
    cases hvs with
    | close hspace' => exact ⟨.nil, (List.cons.inj (hspace.symm.trans hspace')).2⟩
    | part hnext => exact absurd hnext (not_nextItem_of_close hspace)
  | part hnext hx _ ih =>
    cases hvs with
    | close hspace => exact absurd hnext (not_nextItem_of_close hspace)
    | part hnext' hv hmore =>
      obtain ⟨-, rfl⟩ := Prod.mk.inj (Except.ok.inj (hnext.symm.trans hnext'))
      obtain ⟨hxv, rfl⟩ := h _ _ _ _ _ hx hv
      obtain ⟨hrest, hafter⟩ := ih hmore
      exact ⟨.cons hxv hrest, hafter⟩

theorem fields_agree {pairs pairs' : List (String × Json)}
    (hpairs : Fields (readValue bound depth) first bytes pairs rest)
    (hpairs' : Fields (readValue bound depth) first bytes pairs' after) :
    pairs = pairs' ∧ rest = after := by
  induction hpairs generalizing pairs' with
  | close hspace =>
    cases hpairs' with
    | close hspace' => exact ⟨rfl, (List.cons.inj (hspace.symm.trans hspace')).2⟩
    | part hnext => exact absurd hnext (not_nextKey_of_close hspace)
  | part hnext hkey hcolon hv _ ih =>
    cases hpairs' with
    | close hspace => exact absurd hnext (not_nextKey_of_close hspace)
    | part hnext' hkey' hcolon' hv' hmore =>
      obtain ⟨-, rfl⟩ := Prod.mk.inj (Except.ok.inj (hnext.symm.trans hnext'))
      obtain ⟨rfl, rfl⟩ := Prod.mk.inj (Except.ok.inj (hkey.symm.trans hkey'))
      obtain rfl := Except.ok.inj (hcolon.symm.trans hcolon')
      obtain ⟨rfl, rfl⟩ := Prod.mk.inj (Except.ok.inj (hv.symm.trans hv'))
      obtain ⟨rfl, hafter⟩ := ih hmore
      exact ⟨rfl, hafter⟩

theorem agrees_expectTable :
    Agrees bound depth (expectTable bound depth) (fun fields v => v = .object fields) := by
  intro bytes fields rest v after hfields hv
  obtain ⟨inner, tail, pairs, rfl, hspace, rfl, hpairs⟩ := expectTable_eq_ok hfields
  obtain ⟨pairs', rfl, hpairs'⟩ := eq_object_of_readValue hspace hv
  obtain ⟨rfl, rfl⟩ := fields_agree hpairs hpairs'
  exact ⟨rfl, rfl⟩

theorem agrees_expectList {item : (depth : Nat) → Bytes → Except Stop (α × Bytes)}
    {R : α → Json → Prop} (h : ∀ depth, Agrees bound depth (item depth) R) :
    Agrees bound depth (expectList item bound depth)
      (fun xs v => ∃ items, v = .array items ∧ List.Forall₂ R xs items) := by
  intro bytes xs rest v after hxs hv
  obtain ⟨inner, tail, rfl, hspace, hitems⟩ := expectList_eq_ok hxs
  obtain ⟨items, rfl, hitems'⟩ := eq_array_of_readValue hspace hv
  obtain ⟨hall, rfl⟩ := items_agree (h inner) hitems hitems'
  exact ⟨⟨items, rfl, hall⟩, rfl⟩

/-- What becomes of what has been read makes a reader of it that agrees as well. -/
theorem Agrees.map {β : Type} {reader : Bytes → Except Stop (α × Bytes)} {R : α → Json → Prop}
    {S : β → Json → Prop} (h : Agrees bound depth reader R) (f : α → β)
    (hf : ∀ x v, R x v → S (f x) v) :
    Agrees bound depth (fun bytes => do
      let (x, rest) ← reader bytes
      return (f x, rest)) S := by
  intro bytes y rest v after hy hv
  obtain ⟨x, hx, rfl⟩ := exists_of_map_eq_ok hy
  obtain ⟨hxv, rfl⟩ := h _ _ _ _ _ hx hv
  exact ⟨hf x v hxv, rfl⟩

/-! ## Records -/

/-- A relation between drafts of a record and look-ups of keys that the reading of fields keeps.
Keys that are no fields make no difference. A field is read as the value of its key. What the draft
has, the look-up has. -/
structure Follows (fields : List (Field σ)) (bound depth : Nat)
    (A : σ → (String → Option Json) → Prop) : Prop where
  congr : ∀ draft look look', (∀ f ∈ fields, look' f.name = look f.name) → A draft look →
    A draft look'
  field : ∀ f ∈ fields, ∀ draft look, A draft look →
    Agrees bound depth (f.read depth draft) fun next v =>
      A next (Function.update look f.name (some v))
  isSet : ∀ f ∈ fields, ∀ draft look, A draft look → f.isSet draft = true → (look f.name).isSome

variable {fields : List (Field σ)} {draft final : σ} {A : σ → (String → Option Json) → Prop}

/-- A key that is no field leaves the look-up of fields. -/
theorem update_of_find?_eq_none {key : String} (look : String → Option Json) (v : Option Json)
    (h : fields.find? (fun f => f.name == key) = none) :
    ∀ f ∈ fields, Function.update look key v f.name = look f.name := by
  intro f hf
  have hne : f.name ≠ key := by
    simpa using List.find?_eq_none.1 h f hf
  exact Function.update_of_ne hne v look

/-- Whether all fields that a record must have are found. -/
def HasRequired (fields : List (Field σ)) (look : String → Option Json) : Prop :=
  ∀ f ∈ fields, f.required = true → (look f.name).isSome

theorem find?_insert_eq_update (key : String) (v : Json) (t : Table Json) :
    (fun other => (Table.insert key v t).find? other) =
      Function.update (fun other => t.find? other) key (some v) := by
  funext other
  rw [Table.find?_insert, Function.update_apply]
  simp only [eq_comm]

theorem recordFields_agree (h : Follows fields bound depth A)
    (hrecord : RecordFields fields depth bound first draft bytes final rest)
    {pairs : List (String × Json)} (hpairs : Fields (readValue bound depth) first bytes pairs after)
    {t : Table Json} (hdraft : A draft fun key => t.find? key) :
    (∃ t' : Table Json, t' = pairs.foldl (fun t pair => Table.insert pair.1 pair.2 t) t ∧
      (A final fun key => t'.find? key) ∧ HasRequired fields fun key => t'.find? key) ∧
      rest = after := by
  induction hrecord generalizing pairs t with
  | close hspace hnone =>
    cases hpairs with
    | close hspace' =>
      refine ⟨⟨t, rfl, hdraft, fun f hf hrequired => h.isSet f hf _ _ hdraft ?_⟩,
        (List.cons.inj (hspace.symm.trans hspace')).2⟩
      have hset := List.find?_eq_none.1 hnone f hf
      rw [hrequired] at hset
      simpa using hset
    | part hnext => exact absurd hnext (not_nextKey_of_close hspace)
  | other hnext hkey hcolon hfind hskip _ ih =>
    cases hpairs with
    | close hspace => exact absurd hnext (not_nextKey_of_close hspace)
    | part hnext' hkey' hcolon' hv hmore =>
      obtain ⟨-, rfl⟩ := Prod.mk.inj (Except.ok.inj (hnext.symm.trans hnext'))
      obtain ⟨rfl, rfl⟩ := Prod.mk.inj (Except.ok.inj (hkey.symm.trans hkey'))
      obtain rfl := Except.ok.inj (hcolon.symm.trans hcolon')
      obtain rfl := skipValue_readValue hv hskip
      refine ih hmore ?_
      rw [find?_insert_eq_update]
      exact h.congr _ _ _ (update_of_find?_eq_none _ _ hfind) hdraft
  | field hnext hkey hcolon hfind hset hread _ ih =>
    cases hpairs with
    | close hspace => exact absurd hnext (not_nextKey_of_close hspace)
    | part hnext' hkey' hcolon' hv hmore =>
      obtain ⟨-, rfl⟩ := Prod.mk.inj (Except.ok.inj (hnext.symm.trans hnext'))
      obtain ⟨rfl, rfl⟩ := Prod.mk.inj (Except.ok.inj (hkey.symm.trans hkey'))
      obtain rfl := Except.ok.inj (hcolon.symm.trans hcolon')
      have hmem := List.mem_of_find?_eq_some hfind
      have hname := List.find?_some hfind
      obtain rfl := beq_iff_eq.1 hname
      obtain ⟨hnextDraft, rfl⟩ := h.field _ hmem _ _ hdraft _ _ _ _ _ hread hv
      refine ih hmore ?_
      rw [find?_insert_eq_update]
      exact hnextDraft

/-- The look-up of the items of a list by the names of fields, before another one. -/
def lookItems (fields : List (Field σ)) (items : List Json) (look : String → Option Json) :
    String → Option Json :=
  fun key => (Table.find? key ((fields.map Field.name).zip items)).or (look key)

theorem lookItems_nil (fields : List (Field σ)) (look : String → Option Json) :
    lookItems fields [] look = look := by
  funext key
  simp [lookItems]

theorem lookItems_cons {f : Field σ} (hf : f.name ∉ fields.map Field.name) (v : Json)
    (items : List Json) (look : String → Option Json) :
    lookItems (f :: fields) (v :: items) look =
      lookItems fields items (Function.update look f.name (some v)) := by
  funext key
  simp only [lookItems, List.map_cons, List.zip_cons_cons, Table.find?, Function.update_apply]
  by_cases hkey : f.name = key
  · subst hkey
    have hnone : Table.find? f.name ((fields.map Field.name).zip items) = none := by
      refine Table.find?_eq_none_iff.2 fun hmem => hf ?_
      obtain ⟨pair, hpair, hname⟩ := List.mem_map.1 hmem
      exact hname ▸ (List.of_mem_zip hpair).1
    simp [hnone]
  · simp [hkey, Ne.symm hkey]

theorem recordItems_agree {all : List (Field σ)} (h : Follows all bound depth A)
    (hsub : ∀ f ∈ fields, f ∈ all) (hnodup : (fields.map Field.name).Nodup)
    (hrecord : RecordItems depth fields first draft bytes final rest) {items : List Json}
    (hitems : Items (readValue bound depth) first bytes items after)
    {look : String → Option Json} (hdraft : A draft look) :
    (A final (lookItems fields items look) ∧
      HasRequired fields (lookItems fields items look)) ∧ rest = after := by
  induction hrecord generalizing items look with
  | close hspace =>
    cases hitems with
    | close hspace' =>
      rw [lookItems_nil]
      exact ⟨⟨hdraft, nofun⟩, (List.cons.inj (hspace.symm.trans hspace')).2⟩
    | part hnext => exact absurd hnext (not_nextItem_of_close hspace)
  | @absent f fields _ _ _ _ _ _ hspace hrequired _ ih =>
    obtain ⟨-, hsub⟩ := List.forall_mem_cons.1 hsub
    cases hitems with
    | close hspace' =>
      obtain rfl := (List.cons.inj (hspace.symm.trans hspace')).2
      obtain ⟨⟨hfinal, hfields⟩, hrest⟩ := ih hsub hnodup.of_cons (.close rfl) hdraft
      rw [lookItems_nil] at hfinal hfields ⊢
      refine ⟨⟨hfinal, List.forall_mem_cons.2 ⟨fun htrue => ?_, hfields⟩⟩, hrest⟩
      cases (hrequired.symm.trans htrue)
    | part hnext => exact absurd hnext (not_nextItem_of_close hspace)
  | @item f fields _ _ _ _ _ _ _ _ hnext hread _ ih =>
    obtain ⟨hmem, hsub⟩ := List.forall_mem_cons.1 hsub
    obtain ⟨hf, hnodup⟩ := List.nodup_cons.1 hnodup
    cases hitems with
    | close hspace => exact absurd hnext (not_nextItem_of_close hspace)
    | @part _ _ _ _ _ v items hnext' hv hmore =>
      obtain ⟨-, rfl⟩ := Prod.mk.inj (Except.ok.inj (hnext.symm.trans hnext'))
      obtain ⟨hdraft, rfl⟩ := h.field _ hmem _ _ hdraft _ _ _ _ _ hread hv
      obtain ⟨⟨hfinal, hfields⟩, hrest⟩ := ih hsub hnodup hmore hdraft
      rw [lookItems_cons hf]
      refine ⟨⟨hfinal, List.forall_mem_cons.2 ⟨fun _ => ?_, hfields⟩⟩, hrest⟩
      simp [lookItems]

/-- A record that has been read follows the keys of the value. -/
theorem agrees_readRecord (name : String) (empty : σ) (depth : Nat)
    (h : ∀ depth, Follows fields bound depth A)
    (hnodup : (fields.map Field.name).Nodup) (hempty : A empty fun _ => none) :
    Agrees bound depth (readRecord name fields empty bound depth) fun final v =>
      ∃ t, v.recordFields? (fields.map Field.name) = some t ∧ (A final fun key => t.find? key) ∧
        HasRequired fields fun key => t.find? key := by
  intro bytes final rest v after hrecord hv
  obtain ⟨inner, tail, rfl, hcases⟩ := readRecord_eq_ok hrecord
  rcases hcases with ⟨hspace, hfields⟩ | ⟨hspace, hitems⟩
  · obtain ⟨pairs, rfl, hpairs⟩ := eq_object_of_readValue hspace hv
    obtain ⟨⟨t, rfl, hfinal, hrequired⟩, hrest⟩ :=
      recordFields_agree (h inner) hfields hpairs (t := []) hempty
    exact ⟨⟨_, rfl, hfinal, hrequired⟩, hrest⟩
  · obtain ⟨items, rfl, hitems'⟩ := eq_array_of_readValue hspace hv
    obtain ⟨⟨hfinal, hrequired⟩, hrest⟩ :=
      recordItems_agree (h inner) (fun f hf => hf) hnodup hitems hitems' hempty
    have hlook : lookItems fields items (fun _ => none) =
        fun key => Table.find? key ((fields.map Field.name).zip items) := by
      funext key
      exact Option.or_none
    rw [hlook] at hfinal hrequired
    exact ⟨⟨_, rfl, hfinal, hrequired⟩, hrest⟩

end Switchboard.Json
