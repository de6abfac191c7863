import Switchboard.Proofs.Framing.Reachable

/-!
# Chunks and their concatenation

However a byte string is cut into chunks, a framer with decode state finds the same messages in
them. One call on the whole succeeds exactly when every call on the chunks does.
-/

namespace Switchboard.Framer

variable {start f g : Framer} {messages : List Bytes}

/-- Feeds chunks one after the other, on after a failure too: what each call answers, and the
framer after the last. -/
def feed (f : Framer) : List Bytes → List (Except TransportError (List Bytes)) × Framer
  | [] => ([], f)
  | chunk :: chunks =>
    ((f.decode chunk).1 :: ((f.decode chunk).2.feed chunks).1,
      ((f.decode chunk).2.feed chunks).2)

/-- A call of a framer succeeds exactly when the call of the decoder inside it does. -/
theorem map_eq_ok_iff {σ : Type} {wrap : σ → Framer}
    {result : Except TransportError (List Bytes) × σ} :
    result.map id wrap = (.ok messages, g) ↔ ∃ d, result = (.ok messages, d) ∧ wrap d = g := by
  obtain ⟨answer, last⟩ := result
  constructor
  · intro h
    cases h
    exact ⟨last, rfl, rfl⟩
  · rintro ⟨d, h, rfl⟩
    cases h
    rfl

/-- A framer can be called in two parts if the decoder inside it can. -/
theorem decode_append_of_map {σ : Type} {wrap : σ → Framer}
    {decode : σ → Bytes → Except TransportError (List Bytes) × σ}
    (hwrap : ∀ d chunk, (wrap d).decode chunk = (decode d chunk).map id wrap)
    {d : σ} {front back : Bytes}
    (hparts : ∀ messages last, decode d (front ++ back) = (.ok messages, last) ↔
      ∃ messages₁ d₁ messages₂, decode d front = (.ok messages₁, d₁) ∧
        decode d₁ back = (.ok messages₂, last) ∧ messages₁ ++ messages₂ = messages) :
    (wrap d).decode (front ++ back) = (.ok messages, g) ↔
      ∃ messages₁ f₁ messages₂, (wrap d).decode front = (.ok messages₁, f₁) ∧
        f₁.decode back = (.ok messages₂, g) ∧ messages₁ ++ messages₂ = messages := by
  rw [hwrap, hwrap, map_eq_ok_iff]
  constructor
  · rintro ⟨last, hdecode, rfl⟩
    obtain ⟨messages₁, d₁, messages₂, hfront, hback, hmessages⟩ := (hparts _ _).1 hdecode
    refine ⟨messages₁, wrap d₁, messages₂, map_eq_ok_iff.2 ⟨d₁, hfront, rfl⟩, ?_, hmessages⟩
    rw [hwrap]
    exact map_eq_ok_iff.2 ⟨last, hback, rfl⟩
  · rintro ⟨messages₁, f₁, messages₂, hfront, hback, hmessages⟩
    obtain ⟨d₁, hfront', rfl⟩ := map_eq_ok_iff.1 hfront
    rw [hwrap] at hback
    obtain ⟨last, hback', rfl⟩ := map_eq_ok_iff.1 hback
    exact ⟨last, (hparts _ _).2 ⟨messages₁, d₁, messages₂, hfront', hback', hmessages⟩, rfl⟩

/-- One call on two chunks succeeds exactly when a call on the first and then one on the second
do, with the messages of both and the same framer in the end. -/
theorem Sound.decode_append_eq_ok_iff (h : f.Sound) (front back : Bytes) :
    f.decode (front ++ back) = (.ok messages, g) ↔
      ∃ messages₁ f₁ messages₂, f.decode front = (.ok messages₁, f₁) ∧
        f₁.decode back = (.ok messages₂, g) ∧ messages₁ ++ messages₂ = messages := by
  cases f with
  | raw => exact h.elim
  | separator f =>
    exact decode_append_of_map (fun _ _ => rfl) fun _ _ =>
      SeparatorFramer.Sound.decode_append_eq_ok_iff h front back
  | slip f =>
    exact decode_append_of_map (fun _ _ => rfl) fun _ _ =>
      SlipFramer.decode_append_eq_ok_iff front back

/-- A call without bytes finds nothing and changes nothing. -/
theorem Sound.decode_nil (h : f.Sound) : f.decode [] = (.ok [], f) := by
  cases f with
  | raw => exact h.elim
  | separator f =>
    exact congrArg (Prod.map id Framer.separator) (SeparatorFramer.Sound.decode_nil h)
  | slip f => rfl

/-- Every call on the chunks succeeds exactly when the call on their concatenation does. The
messages of the chunks in a row are then those of the whole, and the framers in the end are one. -/
theorem Sound.feed_eq_ok_iff (h : f.Sound) {chunks : List Bytes} :
    (∃ lists : List (List Bytes), f.feed chunks = (lists.map .ok, g) ∧ lists.flatten = messages) ↔
      f.decode chunks.flatten = (.ok messages, g) := by
  induction chunks generalizing f messages with
  | nil =>
    rw [feed, List.flatten_nil, h.decode_nil]
    constructor
    · rintro ⟨lists, hfeed, rfl⟩
      cases lists with
      | nil =>
        cases hfeed
        rfl
      | cons list lists => cases hfeed
    · intro hdecode
      cases hdecode
      exact ⟨[], rfl, rfl⟩
  | cons chunk chunks ih =>
    have hnext := h.decode chunk
    rw [List.flatten_cons, h.decode_append_eq_ok_iff, feed]
    constructor
    · rintro ⟨lists, hfeed, rfl⟩
      cases lists with
      | nil => cases hfeed
      | cons list lists =>
        rw [List.map_cons] at hfeed
        injection hfeed with hanswers hlast
        injection hanswers with hanswer hanswers
        exact ⟨list, (f.decode chunk).2, lists.flatten, Prod.ext hanswer rfl,
          (ih hnext).1 ⟨lists, Prod.ext hanswers hlast, rfl⟩, rfl⟩
    · rintro ⟨messages₁, f₁, messages₂, hchunk, hchunks, rfl⟩
      rw [hchunk] at hnext
      obtain ⟨lists, hfeed, rfl⟩ := (ih hnext).2 hchunks
      rw [hchunk, hfeed]
      exact ⟨messages₁ :: lists, rfl, rfl⟩

/-- A list of answers without an error is a list of messages for each call. -/
theorem exists_lists_of_forall_ne_error (answers : List (Except TransportError (List Bytes)))
    (h : ∀ e, .error e ∉ answers) : ∃ lists : List (List Bytes), answers = lists.map .ok := by
  induction answers with
  | nil => exact ⟨[], rfl⟩
  | cons answer answers ih =>
    obtain ⟨lists, rfl⟩ := ih fun e he => h e (List.mem_cons_of_mem _ he)
    cases answer with
    | error e => exact absurd (List.mem_cons_self ..) (h e)
    | ok list => exact ⟨list :: lists, rfl⟩

/-- **Framing does not depend on the cuts.** From any state that calls lead to, some call on the
chunks of a byte string fails exactly when the one call on all of it does; when none fails, the
answers in a row and the framer in the end are those of the one call. -/
theorem feed_iff_decode_flatten (hstart : start.Fresh) (hf : start.Reaches f)
    (chunks : List Bytes) :
    ((∃ e, .error e ∈ (f.feed chunks).1) ↔ ∃ e, (f.decode chunks.flatten).1 = .error e) ∧
    ((∀ e, .error e ∉ (f.feed chunks).1) → ∃ lists : List (List Bytes),
      (f.feed chunks).1 = lists.map .ok ∧
        f.decode chunks.flatten = (.ok lists.flatten, (f.feed chunks).2)) := by
  have hsound := hf.sound hstart
  have hwhole : (∀ e, .error e ∉ (f.feed chunks).1) → ∃ lists : List (List Bytes),
      (f.feed chunks).1 = lists.map .ok ∧
        f.decode chunks.flatten = (.ok lists.flatten, (f.feed chunks).2) := by
    intro hnone
    obtain ⟨lists, hlists⟩ := exists_lists_of_forall_ne_error _ hnone
    exact ⟨lists, hlists, hsound.feed_eq_ok_iff.1 ⟨lists, Prod.ext hlists rfl, rfl⟩⟩
  refine ⟨⟨?_, ?_⟩, hwhole⟩
  · rintro ⟨e, he⟩
    cases hdecode : f.decode chunks.flatten with
    | mk answer last =>
      cases answer with
      | error e' => exact ⟨e', rfl⟩
      | ok messages =>
        obtain ⟨lists, hfeed, -⟩ := hsound.feed_eq_ok_iff.2 hdecode
        rw [hfeed, List.mem_map] at he
        obtain ⟨list, -, hlist⟩ := he
        cases hlist
  · rintro ⟨e, he⟩
    -- If no call on the chunks failed, the call on all of them would not fail either.
    refine Classical.byContradiction fun hnone => ?_
    obtain ⟨lists, -, hdecode⟩ := hwhole fun e' he' => hnone ⟨e', he'⟩
    rw [hdecode] at he
    cases he

/-- A message of the greatest length, begun by an earlier call, with its separator cut in two. -/
theorem feed_iff_decode_flatten_crlf :
    let start := FramingMethod.build .crlf 3
    let f := (start.decode [0x61, 0x62]).2
    let chunks : List Bytes := [[0x63, 0x0D], [], [0x0A, 0x78]]
    start.Fresh ∧ start.Reaches f ∧
      ((∃ e, .error e ∈ (f.feed chunks).1) ↔ ∃ e, (f.decode chunks.flatten).1 = .error e) ∧
      ((∀ e, .error e ∉ (f.feed chunks).1) → ∃ lists : List (List Bytes),
        (f.feed chunks).1 = lists.map .ok ∧
          f.decode chunks.flatten = (.ok lists.flatten, (f.feed chunks).2)) := by
  intro start f chunks
  have hstart : start.Fresh := fresh_build .crlf 3 (by decide)
  have hf : start.Reaches f := .decode [0x61, 0x62] .start
  exact ⟨hstart, hf, feed_iff_decode_flatten hstart hf chunks⟩

end Switchboard.Framer
