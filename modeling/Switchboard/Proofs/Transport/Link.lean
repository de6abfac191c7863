import Switchboard.Proofs.Transport.Events
import Switchboard.Transport.Link

/-!
# A link from its making to its end

Whatever the order in which chunks come, messages are queued and written, and the stream or the
senders go: the receiver is told of the messages of the chunks and then of one end at most, the
other end gets the queued messages as the framer sends them, and the framer is left as it was
built.
-/

namespace Switchboard

namespace Connection

variable {held heard : Bool} {f f' : Framer} {c c' : Connection} {step : Step} {new : List Bytes}

/-- The senders know of the end when it has come. -/
theorem Moves.connected_eq_false (h : Moves held heard f c step new f' c')
    (hc : c.stage = .ended → c.connected = false) (hstage' : c'.stage = .ended) :
    c'.connected = false := by
  have hsettled : c'.Settled := .inr hstage'
  cases h with
  | finish => rfl
  | idle => exact hc hstage'
  | clear => nomatch hstage'
  | read hstage => exact absurd hsettled (not_settled_deliver _ hstage)
  | write hstage => exact absurd hsettled (not_settled_of_active hstage)
  | refuse | endOfStream | broken | abandoned => exact absurd hsettled (not_settled_leave _)

theorem deliver_queue (messages : List Bytes) :
    (c.deliver heard messages).queue = c.queue ∧
      (c.deliver heard messages).written = c.written := by
  simp only [deliver]
  split
  · exact ⟨rfl, rfl⟩
  · split <;> exact ⟨rfl, rfl⟩

theorem tell_queue (e : TransportEvent) :
    (c.tell heard e).queue = c.queue ∧ (c.tell heard e).written = c.written := by
  simp only [tell]
  split <;> exact ⟨rfl, rfl⟩

/-- A step writes the first of the queued messages as the framer sends it, or nothing. -/
theorem Moves.written (h : Moves held heard f c step new f' c') :
    (∃ message, c.queue = message :: c'.queue ∧ c'.written = c.written ++ f.encode message) ∨
      c'.queue = c.queue ∧ c'.written = c.written := by
  cases h with
  | write _ hqueue => exact .inl ⟨_, hqueue, rfl⟩
  | read => exact .inr (deliver_queue _)
  | refuse | endOfStream | broken => exact .inr (tell_queue _)
  | abandoned | clear | finish | idle => exact .inr ⟨rfl, rfl⟩

/-- No step of its own makes the queue longer. -/
theorem Moves.length_queue_le (h : Moves held heard f c step new f' c') :
    c'.queue.length ≤ c.queue.length := by
  rcases h.written with ⟨message, hqueue, -⟩ | ⟨hqueue, -⟩
  · rw [hqueue]
    exact Nat.le_succ _
  · exact Nat.le_of_eq (congrArg List.length hqueue)

end Connection

namespace Link

open Connection

variable {fresh start : Framer} {chunks : List Bytes} {l : Link}

/-- The chunk that is read in a step, if one is. -/
def readBy (l : Link) : Action → List Bytes
  | .connection step => l.connection.readBy step
  | _ => []

/-- The chunks that are read in a run, in order. -/
def reads (l : Link) : List Action → List Bytes
  | [] => []
  | action :: rest => l.readBy action ++ (l.step action).reads rest

/-! ## Soundness -/

/-- What holds of a link whose framer was as given and that has read some chunks. What the receiver
has been told. While chunks are read, the framer is what they have made of it. The framer has been
called in the way that framers are. Once the connection has cleared it, it stays so. The senders
know of the end. What has been queued has been written or is still to be written. -/
structure Sound (start : Framer) (chunks : List Bytes) (l : Link) : Prop where
  tells : Tells start chunks l.connection.stage (l.received ++ l.connection.events)
  framer : l.connection.stage = .active → (start.consume chunks).2 = .ok l.framer
  reaches : start.Reaches l.framer
  cleared : l.connection.Settled → l.framer = start.clear
  connected : l.connection.stage = .ended → l.connection.connected = false
  written : ∃ done, l.sent = done ++ l.connection.queue ∧
    l.connection.written = done.flatMap start.encode
  room : l.connection.queue.length ≤ capacity

theorem sound_make (start : Framer) : Sound start [] (make start) where
  tells := .messages rfl rfl
  framer := fun _ => rfl
  reaches := .start
  cleared := fun hsettled => absurd hsettled (not_settled_of_active rfl)
  connected := nofun
  written := ⟨[], rfl, rfl⟩
  room := Nat.zero_le _

/-- A step of the connection itself keeps a link sound. -/
theorem Sound.moves {step : Connection.Step} {new : List Bytes} {f : Framer} {c : Connection}
    (h : Sound start chunks l) (hmoves : Moves l.held true l.framer l.connection step new f c) :
    Sound start (chunks ++ new) { l with framer := f, connection := c } where
  tells := hmoves.tells h.tells fun hnew => h.framer (hmoves.stage_eq_active (.inl hnew))
  framer := by
    intro hstage
    exact hmoves.consume_eq_ok (h.framer (hmoves.stage_eq_active (.inr hstage))) hstage
  reaches := hmoves.reaches h.reaches
  cleared := by
    intro hsettled
    -- Either it was cleared before and is left alone, or this is the step that clears it.
    by_cases hbefore : l.connection.Settled
    · exact (hmoves.settled hbefore).2.trans (h.cleared hbefore)
    · exact (hmoves.eq_clear_of_settled hbefore hsettled).trans h.reaches.clear_eq_clear
  connected := hmoves.connected_eq_false h.connected
  written := by
    obtain ⟨done, hsent, hwritten⟩ := h.written
    rcases hmoves.written with ⟨message, hqueue, hmore⟩ | ⟨hqueue, hsame⟩
    · refine ⟨done ++ [message], ?_, ?_⟩
      · rw [hsent, hqueue, List.append_assoc, List.singleton_append]
      · rw [hmore, hwritten, h.reaches.encode_eq, List.flatMap_append, List.flatMap_singleton]
    · exact ⟨done, by rw [hsent, hqueue], hsame.trans hwritten⟩
  room := Nat.le_trans hmoves.length_queue_le h.room

/-- What a sender does keeps a link sound, when the messages that it has queued are counted. -/
theorem Sound.offers {message : Bytes} {sent : Sent} {c : Connection} (h : Sound start chunks l)
    (hoffers : Offers l.connection message sent c) (waiting : List Bytes) :
    Sound start chunks
      { l with
        connection := c
        sent := if sent = .queued then l.sent ++ [message] else l.sent
        waiting } := by
  have hroom := hoffers.length_queue_le h.room
  cases hoffers with
  | queued =>
    obtain ⟨done, hsent, hwritten⟩ := h.written
    refine ⟨h.tells, h.framer, h.reaches, h.cleared, h.connected, ⟨done, ?_, hwritten⟩, hroom⟩
    rw [if_pos rfl, hsent, List.append_assoc]
  | waits | refused => exact ⟨h.tells, h.framer, h.reaches, h.cleared, h.connected, h.written, hroom⟩

/-- Every step keeps a link sound. -/
theorem Sound.step (h : Sound start chunks l) (action : Action) :
    Sound start (chunks ++ l.readBy action) (l.step action) := by
  cases action with
  | connection step => exact h.moves (moves_step l.held true l.framer l.connection step)
  | send message =>
    simp only [Link.step, readBy, List.append_nil]
    split
    · split
      · next hsend => exact h.offers (.of_send hsend) l.waiting
      · next hsend => exact h.offers (.of_send hsend) (l.waiting ++ [message])
      · next hsend => exact h.offers (.of_send hsend) l.waiting
    · exact h
  | resume k =>
    simp only [Link.step, readBy, List.append_nil]
    split
    · split
      · next hsend => exact h.offers (.of_enqueue hsend) (l.waiting.eraseIdx k)
      · next hsend => exact h.offers (.of_enqueue hsend) l.waiting
      · next hsend => exact h.offers (.of_enqueue hsend) (l.waiting.eraseIdx k)
    · exact h
  | close =>
    simp only [Link.step, readBy, List.append_nil]
    split
    · exact ⟨h.tells, h.framer, h.reaches, h.cleared, fun _ => rfl, h.written, h.room⟩
    · exact h
  | dropSenders =>
    simp only [Link.step, readBy, List.append_nil]
    exact ⟨h.tells, h.framer, h.reaches, h.cleared, h.connected, h.written, h.room⟩
  | receive =>
    simp only [Link.step, readBy, List.append_nil]
    rcases receive_eq l.connection with ⟨e, rest, hevents, hreceive⟩ | ⟨-, -, hreceive⟩ |
      ⟨-, -, hreceive⟩
    · have htells := h.tells
      rw [hevents, ← List.singleton_append, ← List.append_assoc] at htells
      rw [hreceive]
      exact ⟨htells, h.framer, h.reaches, h.cleared, h.connected, h.written, h.room⟩
    · rw [hreceive]
      exact h
    · rw [hreceive]
      exact h

/-- Any run keeps a link sound. -/
theorem Sound.run (h : Sound start chunks l) (actions : List Action) :
    Sound start (chunks ++ l.reads actions) (l.run actions) := by
  induction actions generalizing chunks l with
  | nil =>
    rw [reads, List.append_nil]
    exact h
  | cons action rest ih =>
    rw [reads, ← List.append_assoc]
    exact ih (h.step action)

/-! ## The trace of a link -/

/-- What becomes of a link with a framer that was built as `fresh` and was `start` when the link was
made, after it has read some chunks. The receiver is told of the messages that the framer finds in
the chunks, in order, and then of one end at most, after which no more is read. While it reads, no
chunk has been refused. A chunk that is refused brings no message: the error is told, and nothing
more is read. The other end has got the first of the queued messages, in order, each as it is sent,
and there is never more than room for the others. Once it has stopped reading it never reads again,
and comes to its end by itself. At its end the framer is as it was built, the senders know, and so do
those that have waited. -/
structure EventTrace (fresh start : Framer) (chunks : List Bytes) (l : Link) : Prop where
  events : ∃ ending,
    l.received ++ l.connection.events = (start.consume chunks).1.map .data ++ ending ∧
      (ending = [] ∨ l.connection.stage ≠ .active ∧
        ∃ e : TransportEvent, e.message? = none ∧ ending = [e])
  accepted : l.connection.stage = .active → ∃ g, (start.consume chunks).2 = .ok g
  refused : ∀ front chunk back g next e, chunks = front ++ chunk :: back →
    (start.consume front).2 = .ok g → g.decode chunk = (.error e, next) →
      back = [] ∧ l.connection.stage ≠ .active ∧
        l.received ++ l.connection.events =
          (start.consume front).1.map .data ++ [.error e.message]
  written : ∃ done, l.sent = done ++ l.connection.queue ∧
    l.connection.written = done.flatMap start.encode
  room : l.connection.queue.length ≤ 1000
  ends : l.connection.stage ≠ .active →
    (∀ actions, l.reads actions = [] ∧ (l.run actions).connection.stage ≠ .active) ∧
      (l.connection.stage ≠ .ended →
        (l.run [.connection .clear, .connection .finish]).hasEnded = true)
  ended : l.hasEnded = true → l.framer = fresh ∧ l.isConnected = false ∧
    ∀ ahead message, l.connection.send ahead message = (.refused .notConnected, l.connection) ∧
      l.connection.enqueue ahead message =
        (.refused (.sendFailed "Channel closed"), l.connection)

theorem readBy_eq_nil (hstage : l.connection.stage ≠ .active) (action : Action) :
    l.readBy action = [] ∧ (l.step action).connection.stage ≠ .active := by
  cases action with
  | connection step =>
    have hmoves := moves_step l.held true l.framer l.connection step
    refine ⟨?_, fun hstage' => hstage (hmoves.stage_eq_active (.inr hstage'))⟩
    by_cases hnew : l.connection.readBy step = []
    · exact hnew
    · exact absurd (hmoves.stage_eq_active (.inl hnew)) hstage
  | send message =>
    refine ⟨rfl, ?_⟩
    simp only [Link.step]
    split
    · split
      all_goals
        next hsend =>
        obtain ⟨messages, rfl⟩ := (Offers.of_send hsend).exists_queue
        exact hstage
    · exact hstage
  | resume k =>
    refine ⟨rfl, ?_⟩
    simp only [Link.step]
    split
    · split
      all_goals
        next hsend =>
        obtain ⟨messages, rfl⟩ := (Offers.of_enqueue hsend).exists_queue
        exact hstage
    · exact hstage
  | close =>
    refine ⟨rfl, ?_⟩
    simp only [Link.step]
    split <;> exact hstage
  | dropSenders => exact ⟨rfl, hstage⟩
  | receive =>
    refine ⟨rfl, ?_⟩
    simp only [Link.step]
    rcases receive_eq l.connection with ⟨e, rest, -, hreceive⟩ | ⟨-, -, hreceive⟩ |
      ⟨-, -, hreceive⟩ <;> rw [hreceive] <;> exact hstage

theorem reads_eq_nil (hstage : l.connection.stage ≠ .active) (actions : List Action) :
    l.reads actions = [] ∧ (l.run actions).connection.stage ≠ .active := by
  induction actions generalizing l with
  | nil => exact ⟨rfl, hstage⟩
  | cons action rest ih =>
    obtain ⟨hread, hstage'⟩ := readBy_eq_nil hstage action
    obtain ⟨hreads, hend⟩ := ih hstage'
    exact ⟨by rw [reads, hread, hreads, List.append_nil], hend⟩

/-- A connection that has stopped reading comes to its end by itself. -/
theorem hasEnded_run_clear_finish (hstage : l.connection.stage ≠ .active) :
    (l.run [.connection .clear, .connection .finish]).hasEnded = true :=
  decide_eq_true (stage_clear_finish l.held true l.held true l.framer _ hstage)

/-- **The event trace of a link**, whichever framing it has, whatever its framer holds when it is
made, and whatever happens to it in whichever order. -/
theorem run_eventTrace (hfresh : fresh.Built) (hstart : fresh.Reaches start)
    (actions : List Action) :
    EventTrace fresh start ((make start).reads actions) ((make start).run actions) := by
  have hsound := (sound_make start).run actions
  rw [List.nil_append] at hsound
  generalize (make start).reads actions = chunks at hsound ⊢
  generalize (make start).run actions = l at hsound ⊢
  constructor
  case events => exact hsound.tells.exists_ending
  case accepted => exact fun hstage => ⟨l.framer, hsound.framer hstage⟩
  case refused =>
    intro front chunk back g next e hchunks hfront hdecode
    exact hsound.tells.of_refused hchunks hfront hdecode
  case written => exact hsound.written
  case room => exact hsound.room
  case ends => exact fun hstage => ⟨reads_eq_nil hstage, fun _ => hasEnded_run_clear_finish hstage⟩
  case ended =>
    intro hended
    have hstage : l.connection.stage = .ended := of_decide_eq_true hended
    have hconnected := hsound.connected hstage
    refine ⟨?_, hconnected, fun ahead message => ⟨?_, ?_⟩⟩
    · rw [hsound.cleared (.inr hstage), hfresh.clear_eq_of_reaches hstart]
    · rw [send, if_neg (by simp [hconnected])]
    · rw [enqueue, if_pos hstage]

/-- A run of a link whose framer holds the beginning of a message when the link is made: the message
is completed, another is sent in the middle of the next one, and that one grows too long. -/
theorem run_eventTrace_slip_refused :
    let start := ((FramingMethod.slip.build 2).decode [0x63]).2
    let actions : List Action := [.connection (.read [0x61, 0xC0, 0xDB]), .send [0xC0],
      .connection .write, .connection (.read [0xDC, 0x62, 0x63, 0xC0]), .connection .clear,
      .receive, .connection .finish, .receive, .receive]
    EventTrace (FramingMethod.slip.build 2) start ((make start).reads actions)
        ((make start).run actions) ∧
      (make start).reads actions = [[0x61, 0xC0, 0xDB], [0xDC, 0x62, 0x63, 0xC0]] ∧
      ((make start).run actions).received = [.data [0x63, 0x61],
        .error (TransportError.messageTooLarge 3 2).message] ∧
      ((make start).run actions).connection.written = [0xC0, 0xDB, 0xDC, 0xC0] ∧
      ((make start).run actions).hasEnded = true := by
  refine ⟨run_eventTrace (Framer.built_build .slip 2) (.decode [0x63] .start) _, ?_⟩
  exact ⟨rfl, rfl, rfl, rfl⟩

end Link

end Switchboard
