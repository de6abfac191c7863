import Switchboard.Proofs.Framing.Reachable

/-!
# What a stream comes to

A stream is fed to a framer chunk by chunk until a call fails. The messages found until then can
only grow when more is read, and a framer that is cleared afterwards is as it was built, whichever
framing it has.
-/

namespace Switchboard.Framer

variable {start f g : Framer} {chunks : List Bytes}

/-- Feeds chunks until a call fails: the messages that have been found by then, and the framer after
the last chunk or the error of the call that has failed. -/
def consume (f : Framer) : List Bytes → List Bytes × Except TransportError Framer
  | [] => ([], .ok f)
  | chunk :: chunks =>
    match f.decode chunk with
    | (.ok messages, g) => (messages ++ (g.consume chunks).1, (g.consume chunks).2)
    | (.error e, _) => ([], .error e)

theorem consume_cons_of_ok {chunk : Bytes} {messages : List Bytes}
    (h : f.decode chunk = (.ok messages, g)) :
    f.consume (chunk :: chunks) = (messages ++ (g.consume chunks).1, (g.consume chunks).2) := by
  rw [consume, h]

theorem consume_cons_of_error {chunk : Bytes} {e : TransportError}
    (h : f.decode chunk = (.error e, g)) : f.consume (chunk :: chunks) = ([], .error e) := by
  rw [consume, h]

/-- When no call has failed, what follows is fed to the framer in the end. -/
theorem consume_append_of_ok (more : List Bytes) (h : (f.consume chunks).2 = .ok g) :
    f.consume (chunks ++ more) =
      ((f.consume chunks).1 ++ (g.consume more).1, (g.consume more).2) := by
  induction chunks generalizing f with
  | nil =>
    obtain rfl : f = g := Except.ok.inj h
    rfl
  | cons chunk chunks ih =>
    cases hdecode : f.decode chunk with
    | mk answer next =>
      cases answer with
      | ok messages =>
        rw [consume_cons_of_ok hdecode] at h ⊢
        rw [List.cons_append, consume_cons_of_ok hdecode, ih h, List.append_assoc]
      | error e =>
        rw [consume_cons_of_error hdecode] at h
        nomatch h

/-- Once a call has failed, nothing more is found. -/
theorem consume_append_of_error {e : TransportError} (more : List Bytes)
    (h : (f.consume chunks).2 = .error e) : f.consume (chunks ++ more) = f.consume chunks := by
  induction chunks generalizing f with
  | nil => nomatch h
  | cons chunk chunks ih =>
    cases hdecode : f.decode chunk with
    | mk answer next =>
      cases answer with
      | ok messages =>
        rw [consume_cons_of_ok hdecode] at h ⊢
        rw [List.cons_append, consume_cons_of_ok hdecode, ih h]
      | error e' =>
        rw [List.cons_append, consume_cons_of_error hdecode, consume_cons_of_error hdecode]

/-- What is read later takes no message back. -/
theorem consume_isPrefix (f : Framer) (chunks more : List Bytes) :
    (f.consume chunks).1 <+: (f.consume (chunks ++ more)).1 := by
  cases h : (f.consume chunks).2 with
  | ok g =>
    rw [consume_append_of_ok more h]
    exact List.prefix_append _ _
  | error e => exact (consume_append_of_error more h).symm ▸ List.prefix_rfl

/-- One more chunk that is accepted. -/
theorem consume_concat_of_ok {chunk : Bytes} {messages : List Bytes} {next : Framer}
    (h : (f.consume chunks).2 = .ok g) (hdecode : g.decode chunk = (.ok messages, next)) :
    f.consume (chunks ++ [chunk]) = ((f.consume chunks).1 ++ messages, .ok next) := by
  rw [consume_append_of_ok [chunk] h, consume_cons_of_ok hdecode]
  simp [consume]

/-- One more chunk that is refused. -/
theorem consume_concat_of_error {chunk : Bytes} {e : TransportError} {next : Framer}
    (h : (f.consume chunks).2 = .ok g) (hdecode : g.decode chunk = (.error e, next)) :
    f.consume (chunks ++ [chunk]) = ((f.consume chunks).1, .error e) := by
  rw [consume_append_of_ok [chunk] h, consume_cons_of_error hdecode, List.append_nil]

/-! ## Built framers -/

/-- A framer as it is built, with decode state or without. -/
inductive Built : Framer → Prop where
  | raw : Built .raw
  | stateful {f : Framer} (h : f.Fresh) : Built f

theorem built_build (method : FramingMethod) (limit : Nat) : (method.build limit).Built := by
  by_cases h : method = .raw
  · subst h
    exact .raw
  · exact .stateful (fresh_build method limit h)

/-- Calls do not change what a framer is cleared to. -/
theorem Reaches.clear_eq_clear (h : start.Reaches f) : f.clear = start.clear := by
  induction h with
  | start => rfl
  | decode chunk _ ih => rw [clear_decode, ih]
  | clear _ ih => rw [clear_clear, ih]

theorem Built.clear_eq (h : start.Built) : start.clear = start := by
  cases h with
  | raw => rfl
  | stateful h => exact h.clear_eq

/-- Whatever the calls were, a framer of any framing is cleared to what it was built as. -/
theorem Built.clear_eq_of_reaches (hstart : start.Built) (h : start.Reaches f) :
    f.clear = start := by
  rw [h.clear_eq_clear, hstart.clear_eq]

theorem encode_clear (f : Framer) (message : Bytes) :
    f.clear.encode message = f.encode message := by
  cases f <;> rfl

/-- Calls do not change how messages are sent. -/
theorem Reaches.encode_eq (h : start.Reaches f) (message : Bytes) :
    f.encode message = start.encode message := by
  rw [← encode_clear, h.clear_eq_clear, encode_clear]

end Switchboard.Framer
