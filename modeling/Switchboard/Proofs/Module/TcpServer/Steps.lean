import Switchboard.Module.TcpServer
import Switchboard.Proofs.Cancellation
import Switchboard.Proofs.Positions
import Switchboard.Proofs.Transport.Attendance

/-!
# What a step of a server does

`Changes` says what a step can do to a connection that has been accepted, and `Steps` what it can do
to a server, with one case for each kind of step.
-/

namespace Switchboard.TcpServer

open Connection

/-! ## One connection -/

/-- What a step does to a connection: the chunk that it reads, the messages that are sent on for it,
and what becomes of it. -/
inductive Changes (tokens : Cancellations) (sv : Served) :
    List Bytes → List Bytes → Served → Prop where
  | still : Changes tokens sv [] [] sv
  | moves {held heard : Bool} {step : Connection.Step} {new : List Bytes} {f : Framer}
      {c : Connection} (hheard : sv.attendance ≠ .over → heard = true)
      (hmoves : Moves held heard sv.framer sv.connection step new f c) :
      Changes tokens sv new [] { sv with framer := f, connection := c }
  | queue (messages : List Bytes) :
      Changes tokens sv [] [] { sv with connection := { sv.connection with queue := messages } }
  | take {message : Bytes} {rest : List TransportEvent} (hattending : sv.attendance = .attending)
      (hevents : sv.connection.events = .data message :: rest) :
      Changes tokens sv [] [message] { sv with connection := { sv.connection with events := rest } }
  | leave {rest : List TransportEvent} (hattending : sv.attendance = .attending)
      (hover : Over sv.connection.stage sv.connection.events rest) :
      Changes tokens sv [] []
        { sv with connection := { sv.connection with events := rest }, attendance := .leaving }
  | dismiss (hattending : sv.attendance = .attending)
      (hcancelled : tokens.isCancelled sv.token = true) :
      Changes tokens sv [] [] { sv with attendance := .leaving }
  | depart (hleaving : sv.attendance = .leaving) :
      Changes tokens sv [] [] { sv with attendance := .over }
  | abort (hcancelled : tokens.isCancelled sv.token = true) :
      Changes tokens sv [] [] { sv with attendance := .over }

/-- Where a connection comes from: its peer, and the token of the start that has accepted it. -/
def Served.origin (sv : Served) : Address × Token := (sv.peer, sv.token)

variable {tokens : Cancellations} {sv sv' : Served} {new more : List Bytes}

/-- A connection is that of its peer and of its start from beginning to end. -/
theorem Changes.origin_eq (h : Changes tokens sv new more sv') : sv'.origin = sv.origin := by
  cases h <;> rfl

/-- No attendance begins anew. -/
theorem Changes.attending (h : Changes tokens sv new more sv')
    (hattending : sv'.attendance = .attending) : sv.attendance = .attending := by
  cases h with
  | still | moves | queue => exact hattending
  | take hattending' => exact hattending'
  | leave | dismiss | depart | abort => cases hattending

/-- No connection begins to read anew. -/
theorem Changes.stage_eq_active (h : Changes tokens sv new more sv')
    (hstage : sv'.connection.stage = .active) : sv.connection.stage = .active := by
  cases h with
  | moves _ hmoves => exact hmoves.stage_eq_active (.inr hstage)
  | _ => exact hstage

/-- When everything has been sent on for a connection, nothing more is. -/
theorem Changes.complete {start : Framer} {chunks sent : List Bytes}
    (h : Changes tokens sv new more sv') (hattendance : sv.attendance ≠ .attending)
    (hcomplete : Complete start chunks sent sv.connection.stage) :
    more = [] ∧ Complete start (chunks ++ new) sent sv'.connection.stage := by
  cases h with
  | moves _ hmoves => exact ⟨rfl, hcomplete.moves hmoves⟩
  | take hattending | leave hattending | dismiss hattending => exact absurd hattending hattendance
  | still | queue | depart | abort =>
    rw [List.append_nil]
    exact ⟨rfl, hcomplete⟩

/-! ## The server -/

theorem update_eq_self {m : TcpServer} {n : Nat} (hsv : m.served[n]? = some sv) :
    m.update n sv = m := by
  rw [update, ← List.map_id (m.served.set n sv), map_set_eq_map hsv rfl, List.map_id]

/-- A message is queued at the connection. -/
def Served.queued (sv : Served) (message : Bytes) : Served :=
  { sv with connection := { sv.connection with queue := sv.connection.queue ++ [message] } }

/-- What becomes of a delivery that offers itself to a connection: the message is queued there, or
the server stays as it is. -/
inductive Offered (m : TcpServer) (d : Delivery) (target : Address × Nat)
    (rest : List (Address × Nat)) (line : List Nat) : TcpServer → Delivery → Prop where
  | missing (hsv : m.served[target.2]? = none) :
      Offered m d target rest line m { d with targets := rest, place := none }
  | queued {sv : Served} (hsv : m.served[target.2]? = some sv)
      (hsent : (sv.connection.offer line d.place d.message).1 = .queued) :
      Offered m d target rest line (m.update target.2 (sv.queued d.message))
        { d with targets := rest, delivered := d.delivered + 1, place := none }
  | waits {sv : Served} (hsv : m.served[target.2]? = some sv)
      (hsent : (sv.connection.offer line d.place d.message).1 = .waits) :
      Offered m d target rest line m { d with place := some (d.place.getD (behind line)) }
  | refused {sv : Served} {e : TransportError} (hsv : m.served[target.2]? = some sv)
      (hsent : (sv.connection.offer line d.place d.message).1 = .refused e) :
      Offered m d target rest line m
        { d with targets := rest, refused := some target, place := none }

theorem offered_offer (m : TcpServer) (d : Delivery) (target : Address × Nat)
    (rest : List (Address × Nat)) (line : List Nat) :
    Offered m d target rest line (m.offer d target rest line).1 (m.offer d target rest line).2 := by
  simp only [offer]
  split
  · next hsv => exact .missing hsv
  · next sv hsv =>
    split
    · next hsend =>
      cases Offers.of_offer hsend with
      | queued => exact .queued hsv (congrArg Prod.fst hsend)
    · next hsend =>
      cases Offers.of_offer hsend with
      | waits =>
        rw [update_eq_self hsv]
        exact .waits hsv (congrArg Prod.fst hsend)
    · next hsend =>
      cases Offers.of_offer hsend with
      | refused =>
        rw [update_eq_self hsv]
        exact .refused hsv (congrArg Prod.fst hsend)

namespace Service

variable {s s' : Service} {action : Action} {n k : Nat}

/-- The connection that a step is about: the one that is accepted, attended or left, that takes a
step of its own, or that a delivery has come to. -/
def about? (s : Service) : Action → Option Nat
  | .accept _ => some s.module.served.length
  | .connection n _ | .attend n | .dismiss n | .depart n => some n
  | .deliver k =>
    match s.deliveries[k]? with
    | some d =>
      match d.refused with
      | some target => some target.2
      | none => d.targets.head?.map Prod.snd
    | none => none
  | .start _ | .opened _ | .output _ | .giveUp _ | .reorder _ | .proceed | .stop | .cancel _ => none

/-- The chunk that a connection reads in a step, if it reads one. -/
def readBy (s : Service) (n : Nat) : Action → List Bytes
  | .connection k step =>
    if k = n then
      match s.module.served[n]? with
      | some served => served.connection.readBy step
      | none => []
    else []
  | _ => []

/-- The chunks that a connection reads in a run, in order. -/
def reads (s : Service) (n : Nat) : List Action → List Bytes
  | [] => []
  | action :: rest => s.readBy n action ++ (s.step action).reads n rest

/-- A step of a server. -/
inductive Steps (s : Service) : Action → Service → Prop where
  | control {action : Action} {module : TcpServer} {phase : Phase} {tokens : Cancellations}
      {returns : List (Except ModuleError Unit)} (hid : module.id = s.module.id)
      (hframing : module.framing = s.module.framing) (hserved : module.served = s.module.served)
      (hclients : module.clients.Perm s.module.clients)
      (hphase : ∀ token, s.phase = .accepting token → phase = .accepting token)
      (htokens : ∀ token, s.tokens.isCancelled token = true → tokens.isCancelled token = true)
      (hread : ∀ n, s.readBy n action = []) :
      Steps s action ⟨module, phase, tokens, s.deliveries, s.submitted, s.answers, returns⟩
  | accept {token : Token} {peer : Address} (hphase : s.phase = .accepting token) :
      Steps s (.accept peer) { s with module := s.module.accept token peer }
  | change {action : Action} {n : Nat} {sv sv' : Served} {new more : List Bytes}
      (habout : s.about? action = some n) (hsv : s.module.served[n]? = some sv)
      (hread : s.readBy n action = new) (hchanges : Changes s.tokens sv new more sv') :
      Steps s action
        { s with
          module := s.module.update n sv'
          submitted := s.submitted ++ more.map fun message => ⟨n, s.module.id, .bytes message⟩ }
  | depart {n : Nat} {sv : Served} (hsv : s.module.served[n]? = some sv)
      (hleaving : sv.attendance = .leaving) :
      Steps s (.depart n)
        { s with module := (s.module.forget sv.peer).update n { sv with attendance := .over } }
  | output {p : Payload} {d : Delivery} (hbegin : s.module.begin p = .ok d) :
      Steps s (.output p) { s with deliveries := s.deliveries ++ [d] }
  | drop {k : Nat} {d : Delivery} {target : Address × Nat} (hd : s.deliveries[k]? = some d)
      (hrefused : d.refused = some target) :
      Steps s (.deliver k)
        { s with
          module := s.module.forget target.1
          deliveries := s.deliveries.set k { d with refused := none } }
  | queue {k : Nat} {d d' : Delivery} {target : Address × Nat} {rest : List (Address × Nat)}
      {sv : Served} (hd : s.deliveries[k]? = some d) (hrefused : d.refused = none)
      (htargets : d.targets = target :: rest) (hrest : d'.targets = rest)
      (hrefused' : d'.refused = none) (hsv : s.module.served[target.2]? = some sv) :
      Steps s (.deliver k)
        { s with
          module := s.module.update target.2 (sv.queued d.message)
          deliveries := s.deliveries.set k d' }
  | pass {k : Nat} {d d' : Delivery} {target : Address × Nat} {rest : List (Address × Nat)}
      (hd : s.deliveries[k]? = some d) (hrefused : d.refused = none)
      (htargets : d.targets = target :: rest) (hrest : d'.targets = rest)
      (hrefused' : d'.refused = none ∨ d'.refused = some target) :
      Steps s (.deliver k) { s with deliveries := s.deliveries.set k d' }
  | wait {k : Nat} {d : Delivery} {place : Nat} (hd : s.deliveries[k]? = some d)
      (hrefused : d.refused = none) :
      Steps s (.deliver k) { s with deliveries := s.deliveries.set k { d with place } }
  | ended {action : Action} {k : Nat} {answers : List (Except ModuleError Unit)}
      (habout : s.about? action = none) (hread : ∀ n, s.readBy n action = []) :
      Steps s action { s with deliveries := s.deliveries.eraseIdx k, answers }
  | empty {token : Token} (hphase : s.phase = .accepting token)
      (hcancelled : s.tokens.isCancelled token = true) :
      Steps s .proceed { s with module := s.module.clearClients, phase := .emptied }
  | abort (hphase : s.phase = .emptied) :
      Steps s .proceed { s with module := s.module.abortAll, phase := .aborted }

/-- A step that does nothing. -/
theorem Steps.still (hread : ∀ n, s.readBy n action = []) : Steps s action s :=
  .control rfl rfl rfl (.refl _) (fun _ h => h) (fun _ h => h) hread

theorem steps_attend (s : Service) (n : Nat) : Steps s (.attend n) (s.attend n) := by
  simp only [attend]
  split
  · next sv hsv =>
    split
    · next hattending =>
      have hleave {rest : List TransportEvent}
          (hover : Over sv.connection.stage sv.connection.events rest) :
          Steps s (.attend n)
            { s with
              module := s.module.update n
                { sv with
                  connection := { sv.connection with events := rest }
                  attendance := .leaving } } := by
        have h : Steps s (.attend n) _ := .change rfl hsv rfl (.leave hattending hover)
        rwa [List.map_nil, List.append_nil] at h
      rcases receive_eq sv.connection with ⟨e, rest, hevents, hreceive⟩ |
        ⟨hevents, hstage, hreceive⟩ | ⟨-, -, hreceive⟩
      · rw [hreceive]
        cases e with
        | data message =>
          have h : Steps s (.attend n) _ := .change rfl hsv rfl (.take hattending hevents)
          exact h
        | disconnected => exact hleave (by rw [hevents]; exact .told rfl rest)
        | error reason => exact hleave (by rw [hevents]; exact .told rfl rest)
      · rw [hreceive]
        refine hleave ?_
        rw [hevents]
        exact .closed hstage
      · rw [hreceive]
        exact .still fun _ => rfl
    · exact .still fun _ => rfl
  · exact .still fun _ => rfl

theorem steps_dismiss (s : Service) (n : Nat) : Steps s (.dismiss n) (s.dismiss n) := by
  simp only [dismiss]
  split
  · next sv hsv =>
    split
    · next h =>
      have h : Steps s (.dismiss n) _ := .change rfl hsv rfl (.dismiss h.1 h.2)
      rwa [List.map_nil, List.append_nil] at h
    · exact .still fun _ => rfl
  · exact .still fun _ => rfl

theorem steps_depart (s : Service) (n : Nat) : Steps s (.depart n) (s.depart n) := by
  simp only [depart]
  split
  · next sv hsv =>
    split
    · next hleaving => exact .depart hsv hleaving
    · exact .still fun _ => rfl
  · exact .still fun _ => rfl

theorem steps_deliver (s : Service) (k : Nat) : Steps s (.deliver k) (s.deliver k) := by
  simp only [deliver]
  split
  · next d hd =>
    split
    · next target _ hrefused => exact .drop hd hrefused
    · next target rest hrefused htargets =>
      have hoffered := offered_offer s.module d target rest (s.line target.2)
      generalize s.module.offer d target rest (s.line target.2) = result at hoffered
      obtain ⟨m', d'⟩ := result
      cases hoffered with
      | missing => exact .pass hd hrefused htargets rfl (.inl hrefused)
      | queued hsv => exact .queue hd hrefused htargets rfl hrefused hsv
      | waits => exact .wait hd hrefused
      | refused => exact .pass hd hrefused htargets rfl (.inr rfl)
    · next hrefused htargets =>
      refine .ended ?_ fun _ => rfl
      simp only [about?, hd, hrefused, htargets]
      rfl
  · exact .still fun _ => rfl

/-- Every step is one of these. -/
theorem steps_step (s : Service) (action : Action) : Steps s action (s.step action) := by
  cases action with
  | start context =>
    simp only [step]
    split
    · next hphase =>
      exact .control rfl rfl rfl (.refl _) (by simp [hphase])
        (fun _ h => StopSignal.isCancelled_begin context h) fun _ => rfl
    · exact .still fun _ => rfl
  | opened result =>
    simp only [step]
    split
    · next hphase =>
      exact .control rfl rfl rfl (.refl _) (by simp [hphase]) (fun _ h => h)
        fun _ => rfl
    · next hphase =>
      exact .control rfl rfl rfl (.refl _) (by simp [hphase]) (fun _ h => h)
        fun _ => rfl
    · exact .still fun _ => rfl
  | accept peer =>
    simp only [step]
    split
    · next hphase => exact .accept hphase
    · exact .still fun _ => rfl
  | connection n step =>
    simp only [Service.step]
    split
    · next sv hsv =>
      have hmoves := moves_step (s.isHeld n) (decide (sv.attendance ≠ .over)) sv.framer
        sv.connection step
      have hread : s.readBy n (.connection n step) = sv.connection.readBy step := by
        simp only [readBy, hsv, if_true]
      have h : Steps s (.connection n step) _ :=
        .change rfl hsv hread (.moves decide_eq_true hmoves)
      rwa [List.map_nil, List.append_nil] at h
    · next hsv =>
      refine .still fun k => ?_
      simp only [readBy]
      split
      · next h =>
        subst h
        simp only [hsv]
      · rfl
  | attend n => exact s.steps_attend n
  | dismiss n => exact s.steps_dismiss n
  | depart n => exact s.steps_depart n
  | output p =>
    simp only [step]
    split
    · next hbegin => exact .output hbegin
    · exact .still fun _ => rfl
  | deliver k => exact s.steps_deliver k
  | giveUp k => exact .ended rfl fun _ => rfl
  | reorder order =>
    simp only [step]
    split
    · next horder =>
      exact .control rfl rfl rfl (List.isPerm_iff.1 horder) (fun _ h => h) (fun _ h => h)
        fun _ => rfl
    · exact .still fun _ => rfl
  | proceed =>
    simp only [step]
    split
    · next hphase =>
      split
      · next hcancelled => exact .empty hphase hcancelled
      · exact .still fun _ => rfl
    · next hphase => exact .abort hphase
    · next hphase =>
      exact .control rfl rfl rfl (.refl _) (by simp [hphase]) (fun _ h => h)
        fun _ => rfl
    · exact .still fun _ => rfl
  | stop =>
    exact .control rfl rfl rfl (.refl _) (fun _ h => h)
      (fun _ h => s.module.signal.isCancelled_stop h) fun _ => rfl
  | cancel token =>
    exact .control rfl rfl rfl (.refl _) (fun _ h => h)
      (fun _ h => Cancellations.isCancelled_cancel token h) fun _ => rfl

end Service

end Switchboard.TcpServer
