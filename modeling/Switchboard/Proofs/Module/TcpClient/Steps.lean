import Switchboard.Module.TcpClient
import Switchboard.Proofs.Cancellation
import Switchboard.Proofs.Transport.Attendance

/-!
# What a step of a client does

`Steps` says what a step can do to a client in service, with one case for each kind of step.
-/

namespace Switchboard.TcpClient

open Connection

namespace Service

variable {s s' : Service} {action : Action} {n : Nat}

/-- The chunk that a connection reads in a step, if it reads one. -/
def readBy (s : Service) (n : Nat) : Action → List Bytes
  | .connection k step =>
    if k = n then
      match s.module.connections[n]? with
      | some c => c.readBy step
      | none => []
    else []
  | _ => []

/-- The chunks that a connection reads in a run, in order. -/
def reads (s : Service) (n : Nat) : List Action → List Bytes
  | [] => []
  | action :: rest => s.readBy n action ++ (s.step action).reads n rest

/-- The token of the start that makes a connection in a step, if one is made. -/
def madeBy (s : Service) : Action → List Token
  | .connected =>
    match s.phase with
    | .connecting token => [token]
    | _ => []
  | _ => []

/-- The tokens of the starts that make the connections of a run, in order. -/
def makers (s : Service) : List Action → List Token
  | [] => []
  | action :: rest => s.madeBy action ++ (s.step action).makers rest

/-- A step of a client. -/
inductive Steps (s : Service) : Action → Service → Prop where
  | control {action : Action} {module : TcpClient} {phase : Phase} {tokens : Cancellations}
      {deliveries : List Delivery} {answers : List (Except ModuleError Unit)} {returns : Nat}
      (hid : module.id = s.module.id) (hframing : module.framing = s.module.framing)
      (hconnections : module.connections = s.module.connections)
      (hframer : module.framer = s.module.framer)
      (hbegins : ∀ token n, phase = .attending token n → s.phase = .attending token n)
      (hends : ∀ token n, s.phase = .attending token n →
        phase = .attending token n ∨ s.tokens.isCancelled token = true)
      (htokens : ∀ token, s.tokens.isCancelled token = true → tokens.isCancelled token = true)
      (hread : ∀ n, s.readBy n action = []) (hmade : s.madeBy action = []) :
      Steps s action ⟨module, phase, tokens, deliveries, s.submitted, answers, returns⟩
  | clear {phase : Phase} {returns : Nat} (hbefore : ∀ token n, s.phase ≠ .attending token n)
      (hafter : ∀ token n, phase ≠ .attending token n) :
      Steps s .proceed { s with module := s.module.clearFramer, phase, returns }
  | connected {token : Token} (hphase : s.phase = .connecting token) :
      Steps s .connected
        { s with
          module := s.module.connect
          phase := .attending token s.module.connections.length }
  | moves {n : Nat} {c c' : Connection} {held : Bool} {step : Connection.Step} {f : Framer}
      (hc : s.module.connections[n]? = some c)
      (hmoves : Moves held (isHeard s.phase n) s.module.framer c step (c.readBy step) f c') :
      Steps s (.connection n step) { s with module := { s.module.update n c' with framer := f } }
  | take {token : Token} {n : Nat} {c : Connection} {message : Bytes} {rest : List TransportEvent}
      (hphase : s.phase = .attending token n) (hc : s.module.connections[n]? = some c)
      (hevents : c.events = .data message :: rest) :
      Steps s .attend
        { s with
          module := s.module.update n { c with events := rest }
          submitted := s.submitted ++ [⟨n, s.module.id, .bytes message⟩] }
  | leave {token : Token} {n : Nat} {c : Connection} {rest : List TransportEvent}
      (hphase : s.phase = .attending token n) (hc : s.module.connections[n]? = some c)
      (hover : Over c.stage c.events rest) :
      Steps s .attend
        { s with
          module := s.module.update n { c with events := rest }
          phase := .dropping token n }
  | queue {k n : Nat} {c : Connection} {deliveries : List Delivery}
      {answers : List (Except ModuleError Unit)} (messages : List Bytes)
      (hc : s.module.connections[n]? = some c) :
      Steps s (.deliver k)
        { s with
          module := s.module.update n { c with queue := messages }
          deliveries
          answers }

/-- A step that does nothing. -/
theorem Steps.still (hread : ∀ n, s.readBy n action = []) (hmade : s.madeBy action = []) :
    Steps s action s :=
  .control rfl rfl rfl rfl (fun _ _ h => h) (fun _ _ h => .inl h) (fun _ h => h) hread hmade

theorem steps_attend (s : Service) : Steps s .attend (s.step .attend) := by
  simp only [step]
  split
  · next token n hphase =>
    split
    · next c hc =>
      rcases receive_eq c with ⟨e, rest, hevents, hreceive⟩ | ⟨hevents, hstage, hreceive⟩ |
        ⟨-, -, hreceive⟩
      · rw [hreceive]
        cases e with
        | data message => exact .take hphase hc hevents
        | disconnected => exact .leave hphase hc (by rw [hevents]; exact .told rfl rest)
        | error reason => exact .leave hphase hc (by rw [hevents]; exact .told rfl rest)
      · rw [hreceive]
        have h : Steps s .attend _ := .leave hphase hc (by rw [hevents]; exact .closed hstage)
        rwa [← hevents] at h
      · rw [hreceive]
        exact .still (fun _ => rfl) rfl
    · exact .still (fun _ => rfl) rfl
  · exact .still (fun _ => rfl) rfl

/-- A step between two moments at which no connection is attended. -/
theorem Steps.unattended {module : TcpClient} {phase : Phase} {tokens : Cancellations}
    {deliveries : List Delivery} {answers : List (Except ModuleError Unit)} {returns : Nat}
    (hid : module.id = s.module.id) (hframing : module.framing = s.module.framing)
    (hconnections : module.connections = s.module.connections)
    (hframer : module.framer = s.module.framer) (hbefore : ∀ token n, s.phase ≠ .attending token n)
    (hafter : ∀ token n, phase ≠ .attending token n)
    (htokens : ∀ token, s.tokens.isCancelled token = true → tokens.isCancelled token = true)
    (hread : ∀ n, s.readBy n action = []) (hmade : s.madeBy action = []) :
    Steps s action ⟨module, phase, tokens, deliveries, s.submitted, answers, returns⟩ :=
  .control hid hframing hconnections hframer (fun token n h => absurd h (hafter token n))
    (fun token n h => absurd h (hbefore token n)) htokens hread hmade

theorem steps_notice (s : Service) : Steps s .notice (s.step .notice) := by
  simp only [step]
  split
  · next hphase =>
    split
    · exact .unattended rfl rfl rfl rfl (by simp [hphase]) (by simp) (fun _ h => h)
        (fun _ => rfl) rfl
    · exact .still (fun _ => rfl) rfl
  · next hphase =>
    split
    · exact .unattended rfl rfl rfl rfl (by simp [hphase]) (by simp) (fun _ h => h)
        (fun _ => rfl) rfl
    · exact .still (fun _ => rfl) rfl
  · next token n hphase =>
    split
    · next hcancelled =>
      refine .control rfl rfl rfl rfl (by simp) (fun token' n' h => .inr ?_) (fun _ h => h)
        (fun _ => rfl) rfl
      obtain ⟨rfl, rfl⟩ := Phase.attending.inj (hphase.symm.trans h)
      exact hcancelled
    · exact .still (fun _ => rfl) rfl
  · exact .still (fun _ => rfl) rfl

theorem steps_proceed (s : Service) : Steps s .proceed (s.step .proceed) := by
  simp only [step]
  split
  · next hphase =>
    exact .unattended rfl rfl rfl rfl (by simp [hphase]) (by simp) (fun _ h => h) (fun _ => rfl) rfl
  · next hphase => exact .clear (by simp [hphase]) (by simp)
  · next hphase =>
    exact .unattended rfl rfl rfl rfl (by simp [hphase]) (by simp) (fun _ h => h) (fun _ => rfl) rfl
  · next hphase =>
    exact .unattended rfl rfl rfl rfl (by simp [hphase]) (by simp) (fun _ h => h) (fun _ => rfl) rfl
  · next hphase => exact .clear (by simp [hphase]) (by simp)
  · exact .still (fun _ => rfl) rfl

/-- A step that is about deliveries only. -/
theorem Steps.deliveries {deliveries : List Delivery} (hread : ∀ n, s.readBy n action = [])
    (hmade : s.madeBy action = []) : Steps s action { s with deliveries } :=
  .control rfl rfl rfl rfl (fun _ _ h => h) (fun _ _ h => .inl h) (fun _ h => h) hread hmade

theorem steps_deliver (s : Service) (k : Nat) : Steps s (.deliver k) (s.deliver k) := by
  simp only [deliver]
  split
  · split
    · next c hc =>
      split
      all_goals
        next hsend =>
        obtain ⟨messages, rfl⟩ := (Offers.of_offer hsend).exists_queue
        exact .queue messages hc
    · exact .still (fun _ => rfl) rfl
  · exact .still (fun _ => rfl) rfl

/-- Every step is one of these. -/
theorem steps_step (s : Service) (action : Action) : Steps s action (s.step action) := by
  cases action with
  | start context =>
    simp only [step]
    split
    · next hphase =>
      exact .unattended rfl rfl rfl rfl (by simp [hphase]) (by simp)
        (fun _ h => StopSignal.isCancelled_begin context h) (fun _ => rfl) rfl
    · exact .still (fun _ => rfl) rfl
  | connected =>
    simp only [step]
    split
    · next hphase => exact .connected hphase
    · exact .still (fun _ => rfl) (by simp only [madeBy])
  | refused =>
    simp only [step]
    split
    · next hphase =>
      exact .unattended rfl rfl rfl rfl (by simp [hphase]) (by simp) (fun _ h => h)
        (fun _ => rfl) rfl
    · exact .still (fun _ => rfl) rfl
  | connection n step =>
    simp only [Service.step]
    split
    · next c hc => exact .moves hc (moves_step _ _ _ c step)
    · next hc =>
      refine .still (fun k => ?_) rfl
      simp only [readBy]
      split
      · next h =>
        subst h
        simp only [hc]
      · rfl
  | attend => exact s.steps_attend
  | notice => exact s.steps_notice
  | proceed => exact s.steps_proceed
  | output p =>
    simp only [step]
    split
    · exact .deliveries (fun _ => rfl) rfl
    · exact .still (fun _ => rfl) rfl
  | deliver k => exact s.steps_deliver k
  | giveUp k => exact .deliveries (fun _ => rfl) rfl
  | stop =>
    exact .control rfl rfl rfl rfl (fun _ _ h => h) (fun _ _ h => .inl h)
      (fun _ h => s.module.signal.isCancelled_stop h) (fun _ => rfl) rfl
  | cancel token =>
    exact .control rfl rfl rfl rfl (fun _ _ h => h) (fun _ _ h => .inl h)
      (fun _ h => Cancellations.isCancelled_cancel token h) (fun _ => rfl) rfl

end Service

end Switchboard.TcpClient
