import Switchboard.Proofs.Transport.Events

/-!
# Sending on what a connection brings

Somebody attends a connection: it takes its events one by one and sends the messages on, until it
has taken the last one or is told to stop. Whatever the connection does meanwhile, what has been
sent on are the first messages of the chunks that have been read, and all of them when the
attendance was not broken off.
-/

namespace Switchboard.Connection

variable {held heard : Bool} {start f f' : Framer} {c c' : Connection} {step : Step}
variable {chunks new sent : List Bytes} {stage : Stage} {events rest : List TransportEvent}
variable {attended attended' stopped stopped' : Prop}

/-- All messages of the chunks have been sent on, and no chunk comes any more. No chunk is read any
more. Nothing is left to be sent on. -/
structure Complete (start : Framer) (chunks sent : List Bytes) (stage : Stage) : Prop where
  stage : stage ≠ .active
  sent : sent = (start.consume chunks).1

theorem Complete.moves (h : Complete start chunks sent c.stage)
    (hmoves : Moves held heard f c step new f' c') :
    Complete start (chunks ++ new) sent c'.stage := by
  have hnew : new = [] := by
    by_cases hnew : new = []
    · exact hnew
    · exact absurd (hmoves.stage_eq_active (.inl hnew)) h.stage
  rw [hnew, List.append_nil]
  exact ⟨fun hstage => h.stage (hmoves.stage_eq_active (.inr hstage)), h.sent⟩

/-- How what has been sent on stands to what the connection has read: it is short of the events that
wait while the connection is attended, it is all there is when the attendance has come to its end,
and a part when the attendance was broken off. -/
inductive Follows (start : Framer) (chunks sent : List Bytes) (stage : Stage)
    (events : List TransportEvent) (attended stopped : Prop) : Prop where
  | attending (hattended : attended) (htells : Tells start chunks stage (sent.map .data ++ events))
  | complete (hattended : ¬ attended) (hcomplete : Complete start chunks sent stage)
  | cut (hattended : ¬ attended) (hstopped : stopped) (hsent : sent <+: (start.consume chunks).1)

theorem follows_fresh (start : Framer) (hattended : attended) :
    Follows start [] [] .active [] attended stopped :=
  .attending hattended (.messages rfl rfl)

/-- Nothing is sent on but messages of the chunks, in order. -/
theorem Follows.isPrefix (h : Follows start chunks sent stage events attended stopped) :
    sent <+: (start.consume chunks).1 := by
  cases h with
  | attending _ htells =>
    rw [← htells.filterMap_message?, List.filterMap_append, filterMap_message?_map_data]
    exact List.prefix_append _ _
  | complete _ hcomplete => exact hcomplete.sent.symm ▸ List.prefix_rfl
  | cut _ _ hsent => exact hsent

/-- While the connection is attended, what is missing waits. -/
theorem Follows.append_waiting (h : Follows start chunks sent stage events attended stopped)
    (hattended : attended) :
    sent ++ events.filterMap TransportEvent.message? = (start.consume chunks).1 := by
  cases h with
  | attending _ htells =>
    rw [← htells.filterMap_message?, List.filterMap_append, filterMap_message?_map_data]
  | complete hnot | cut hnot => exact absurd hattended hnot

/-- Unless it was broken off, an attendance that is over has sent everything on. -/
theorem Follows.complete_of_not (h : Follows start chunks sent stage events attended stopped)
    (hattended : ¬ attended) (hstopped : ¬ stopped) : Complete start chunks sent stage := by
  cases h with
  | attending hattended' => exact absurd hattended' hattended
  | complete _ hcomplete => exact hcomplete
  | cut _ hstopped' => exact absurd hstopped' hstopped

/-- Being told to stop changes nothing by itself. -/
theorem Follows.imp_stopped (h : Follows start chunks sent stage events attended stopped)
    (hstopped : stopped → stopped') : Follows start chunks sent stage events attended stopped' := by
  cases h with
  | attending hattended htells => exact .attending hattended htells
  | complete hattended hcomplete => exact .complete hattended hcomplete
  | cut hattended hcut hsent => exact .cut hattended (hstopped hcut) hsent

/-- The connection goes on by itself. While it is attended it has a receiver, and its chunks are fed
to the framer that its earlier chunks have made. -/
theorem Follows.moves (h : Follows start chunks sent c.stage c.events attended stopped)
    (hmoves : Moves held heard f c step new f' c') (hheard : attended → heard = true)
    (hframer : attended → new ≠ [] → (start.consume chunks).2 = .ok f) :
    Follows start (chunks ++ new) sent c'.stage c'.events attended stopped := by
  cases h with
  | attending hattended htells =>
    obtain rfl := hheard hattended
    exact .attending hattended (hmoves.tells htells (hframer hattended))
  | complete hattended hcomplete => exact .complete hattended (hcomplete.moves hmoves)
  | cut hattended hstopped hsent =>
    exact .cut hattended hstopped (hsent.trans (start.consume_isPrefix chunks new))

/-- A message is taken and sent on. -/
theorem Follows.take {message : Bytes}
    (h : Follows start chunks sent stage (.data message :: rest) attended stopped)
    (hattended : attended) :
    Follows start chunks (sent ++ [message]) stage rest attended stopped := by
  cases h with
  | attending _ htells =>
    refine .attending hattended ?_
    rwa [List.map_append, List.append_assoc]
  | complete hnot | cut hnot => exact absurd hattended hnot

/-- The receiver learns that nothing more comes: by an event without a message, or because the
connection has done all that it does. -/
inductive Over (stage : Stage) : List TransportEvent → List TransportEvent → Prop where
  | told {e : TransportEvent} (he : e.message? = none) (rest : List TransportEvent) :
      Over stage (e :: rest) rest
  | closed (hstage : stage = .ended) : Over stage [] []

/-- By then everything has been sent on. -/
theorem Follows.complete_of_over (h : Follows start chunks sent stage events attended stopped)
    (hattended : attended) (hover : Over stage events rest) :
    Complete start chunks sent stage := by
  cases h with
  | attending _ htells =>
    cases hover with
    | told he =>
      obtain ⟨hstage, hsent⟩ := htells.of_message?_eq_none he
      exact ⟨hstage, hsent⟩
    | closed hstage =>
      refine ⟨by rw [hstage]; nofun, ?_⟩
      rw [← htells.filterMap_message?, List.append_nil, filterMap_message?_map_data]
  | complete hnot | cut hnot => exact absurd hattended hnot

/-- An attendance does not begin anew, and unless everything has been sent on it ends because it is
told to stop. -/
theorem Follows.turn (h : Follows start chunks sent stage events attended stopped)
    (hbegins : attended' → attended) (hends : attended → attended' ∨ stopped) :
    Follows start chunks sent stage events attended' stopped := by
  have hsent := h.isPrefix
  cases h with
  | attending hattended htells =>
    by_cases hattended' : attended'
    · exact .attending hattended' htells
    · exact .cut hattended' ((hends hattended).resolve_left hattended') hsent
  | complete hnot hcomplete => exact .complete (fun h => hnot (hbegins h)) hcomplete
  | cut hnot hstopped => exact .cut (fun h => hnot (hbegins h)) hstopped hsent

end Switchboard.Connection
