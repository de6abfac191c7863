import Switchboard.Proofs.Framing.Reachable

/-!
# Framers under any calls

A framer with decode state is asked to decode, to encode and to clear in any order, and it goes on
after a refusal. What it holds and the messages that it answers stay within what it was built for,
whatever it is fed. From a refusal or a clearing on it answers as one that has just been built.
-/

namespace Switchboard.Framer

variable {start f : Framer}

/-! ## Calls -/

/-- What a framer is asked. -/
inductive Call where
  | decode (chunk : Bytes)
  | encode (message : Bytes)
  | clear

/-- What comes of a call. -/
inductive Answer where
  | decoded (result : Except TransportError (List Bytes))
  | encoded (bytes : Bytes)
  | cleared

/-- The answer to a call and the framer after it. -/
def call (f : Framer) : Call → Answer × Framer
  | .decode chunk => (.decoded (f.decode chunk).1, (f.decode chunk).2)
  | .encode message => (.encoded (f.encode message), f)
  | .clear => (.cleared, f.clear)

/-- The answers to calls, on after a refusal too, and the framer after the last. -/
def run (f : Framer) : List Call → List Answer × Framer
  | [] => ([], f)
  | given :: calls =>
    ((f.call given).1 :: ((f.call given).2.run calls).1, ((f.call given).2.run calls).2)

/-- The answer to a call that leaves nothing pending, whatever was: a refusal or a clearing. -/
def Answer.StartsAfresh : Answer → Prop
  | .decoded (.error _) | .cleared => True
  | .decoded (.ok _) | .encoded _ => False

theorem run_append (f : Framer) (front back : List Call) :
    f.run (front ++ back) =
      ((f.run front).1 ++ ((f.run front).2.run back).1, ((f.run front).2.run back).2) := by
  induction front generalizing f with
  | nil => rfl
  | cons given front ih => rw [List.cons_append, run, ih, run, List.cons_append]

/-- Every answer of a run is that to one of its calls, after those before it. -/
theorem exists_call_of_mem_run {answer : Answer} {calls : List Call}
    (h : answer ∈ (f.run calls).1) :
    ∃ before given after, calls = before ++ given :: after ∧
      ((f.run before).2.call given).1 = answer := by
  induction calls generalizing f with
  | nil => nomatch h
  | cons given calls ih =>
    rcases List.mem_cons.1 h with rfl | hlater
    · exact ⟨[], given, calls, rfl, rfl⟩
    · obtain ⟨before, later, after, rfl, hanswer⟩ := ih hlater
      exact ⟨given :: before, later, after, rfl, hanswer⟩

/-! ## What is held and what is answered -/

/-- What the framer that was built as `start` may have become: one with the same separator and the
same limit that holds no more than they allow. -/
inductive MayBecome : (start : Framer) → Framer → Prop where
  | separator {s : Separator} {limit : Nat} {pending : Bytes}
      (hlength : pending.length ≤ limit + s.bytes.length - 1) (hnone : ¬ s.bytes <:+: pending) :
      MayBecome (.separator { separator := s, limit := limit })
        (.separator
          { separator := s
            limit := limit
            pending := pending
            scanned := pending.length - (s.bytes.length - 1) })
  | slip {limit : Nat} {pending : Array UInt8} (escaped : Bool) (hsize : pending.size ≤ limit) :
      MayBecome (.slip { limit := limit })
        (.slip { limit := limit, pending := pending, escaped := escaped })

/-- The messages that a framer with decode state may answer. -/
inductive MayAnswer : Framer → Bytes → Prop where
  | separator {f : SeparatorFramer} {m : Bytes} (hlength : m.length ≤ f.limit) :
      MayAnswer (.separator f) m
  | slip {f : SlipFramer} {m : Bytes} (hone : 1 ≤ m.length) (hlength : m.length ≤ f.limit) :
      MayAnswer (.slip f) m

theorem Sound.mayBecome (h : f.Sound) : f.clear.MayBecome f := by
  cases f with
  | raw => exact h.elim
  | separator f =>
    obtain ⟨s, limit, pending, scanned⟩ := f
    have hscanned : scanned = pending.length - (s.bytes.length - 1) := h.scanned_eq
    subst hscanned
    exact .separator h.length_le h.not_infix
  | slip f => exact .slip f.escaped h

theorem Sound.mayAnswer {chunk m : Bytes} {messages : List Bytes} (h : f.Sound)
    (hdecode : (f.decode chunk).1 = .ok messages) (hm : m ∈ messages) : f.clear.MayAnswer m := by
  cases f with
  | raw => exact h.elim
  | separator f =>
    have hlength : m.length ≤ f.limit :=
      SeparatorFramer.Sound.length_of_decode_eq_ok h hdecode hm
    exact .separator hlength
  | slip f =>
    obtain ⟨hone, hlength⟩ := SlipFramer.length_of_decode_eq_ok h hdecode hm
    exact .slip hone hlength

/-- A chunk that is refused leaves nothing behind, whichever framing it is. -/
theorem decode_of_error {chunk : Bytes} {e : TransportError} (h : (f.decode chunk).1 = .error e) :
    (f.decode chunk).2 = f.clear := by
  cases f with
  | raw => nomatch h
  | separator f => exact congrArg Framer.separator (SeparatorFramer.decode_of_error h)
  | slip f => exact congrArg Framer.slip (SlipFramer.decode_of_error h)

/-- Nor does a call that clears. -/
theorem call_of_startsAfresh {given : Call} (h : (f.call given).1.StartsAfresh) :
    (f.call given).2 = f.clear := by
  cases given with
  | decode chunk =>
    cases hdecode : (f.decode chunk).1 with
    | ok messages =>
      rw [call, hdecode] at h
      exact h.elim
    | error e => exact decode_of_error hdecode
  | encode message => exact h.elim
  | clear => rfl

theorem Reaches.call (h : start.Reaches f) (given : Call) : start.Reaches (f.call given).2 := by
  cases given with
  | decode chunk => exact h.decode chunk
  | encode message => exact h
  | clear => exact h.clear

/-! ## Runs -/

theorem Reaches.run (h : start.Reaches f) (calls : List Call) :
    start.Reaches (f.run calls).2 := by
  induction calls generalizing f with
  | nil => exact h
  | cons given calls ih => exact ih (h.call given)

/-- **A stream cannot grow a framer.** Whatever a framer with decode state has been asked, it holds
no more than its separator and its limit allow, and no message that it has answered is longer than
the limit. From a refusal or a clearing on, it answers as one that has just been built and becomes
what that one becomes. -/
theorem run_stays_bounded (hstart : start.Fresh) (calls : List Call) :
    start.MayBecome (start.run calls).2 ∧
    (∀ messages, .decoded (.ok messages) ∈ (start.run calls).1 →
      ∀ m ∈ messages, start.MayAnswer m) ∧
    ∀ before given after, calls = before ++ given :: after →
      ((start.run before).2.call given).1.StartsAfresh →
      start.run calls =
        ((start.run (before ++ [given])).1 ++ (start.run after).1, (start.run after).2) := by
  have hreaches (calls : List Call) : start.Reaches (start.run calls).2 := Reaches.start.run calls
  have hsound (calls : List Call) := (hreaches calls).sound hstart
  have hclear (calls : List Call) := (hreaches calls).clear_eq hstart
  refine ⟨?_, ?_, ?_⟩
  · have h := (hsound calls).mayBecome
    rwa [hclear] at h
  · intro messages hmem m hm
    obtain ⟨before, given, after, -, hanswer⟩ := exists_call_of_mem_run hmem
    cases given with
    | decode chunk =>
      have h := (hsound before).mayAnswer (Answer.decoded.inj hanswer) hm
      rwa [hclear] at h
    | encode message => nomatch hanswer
    | clear => nomatch hanswer
  · rintro before given after rfl hafresh
    have hbuilt : (start.run (before ++ [given])).2 = start := by
      rw [run_append, run, run, call_of_startsAfresh hafresh, hclear]
    rw [List.append_cons, run_append, hbuilt]

/-- A decoder that holds as much as it may, half a separator included. One byte more is refused,
and then a message comes out as if there had been nothing before it. -/
theorem run_stays_bounded_crlf :
    let start := FramingMethod.build .crlf 3
    let before : List Call := [.decode [0x61, 0x62, 0x63, 0x0D], .encode [0x0A]]
    let given : Call := .decode [0x0D]
    let after : List Call := [.decode [0x78, 0x0D], .decode [0x0A, 0x79]]
    let calls := before ++ given :: after
    start.Fresh ∧ ((start.run before).2.call given).1.StartsAfresh ∧
      .decoded (.ok [[0x78]]) ∈ (start.run calls).1 ∧
      start.MayBecome (start.run before).2 ∧ (start.run before).2.pending.length = 3 + 2 - 1 ∧
      start.MayAnswer [0x78] ∧
      start.run calls =
        ((start.run (before ++ [given])).1 ++ (start.run after).1, (start.run after).2) := by
  intro start before given after calls
  have hstart : start.Fresh := fresh_build .crlf 3 (by decide)
  have hrefused : ((start.run before).2.call given).1 =
      .decoded (.error (.messageTooLarge 4 3)) := by with_unfolding_all rfl
  have hafresh : ((start.run before).2.call given).1.StartsAfresh := by
    rw [hrefused]
    trivial
  have hheld : (start.run before).2.pending = [0x61, 0x62, 0x63, 0x0D] := by with_unfolding_all rfl
  have hfound : (start.run after).1 = [.decoded (.ok []), .decoded (.ok [[0x78]])] := by
    with_unfolding_all rfl
  obtain ⟨-, hanswered, hrestart⟩ := run_stays_bounded hstart calls
  have hcalls := hrestart before given after rfl hafresh
  have hmem : .decoded (.ok [[0x78]]) ∈ (start.run calls).1 := by
    rw [hcalls, hfound]
    simp
  exact ⟨hstart, hafresh, hmem, (run_stays_bounded hstart before).1, by rw [hheld]; rfl,
    hanswered _ hmem _ List.mem_cons_self, hcalls⟩

end Switchboard.Framer
