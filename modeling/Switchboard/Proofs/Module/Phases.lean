import Switchboard.Module.Interval
import Switchboard.Module.UdpClient
import Switchboard.Module.UdpServer
import Switchboard.Proofs.Module.TcpClient.Steps
import Switchboard.Proofs.Module.TcpServer.Steps

/-!
# What modules hold at the phases of a start

An address, a table of clients, a connection or a socket is had by a module only at some phases of a
start. For each type one invariant says at which, and every step keeps it; and a start that returns,
be it a failure or not, leads to the phase at which no start is in progress.
-/

namespace Switchboard

/-! ## Stream clients -/

namespace TcpClient

/-- The connection whose sender is held at a phase of a start. -/
def Phase.sender : Phase → Option Nat
  | .attending _ n | .dropping _ n => some n
  | .idle | .connecting _ | .clearing _ _ | .waiting _ | .leaving _ | .returning _ => none

namespace Service

variable {s : Service}

/-- The sender of a connection is held just as long as the start says. -/
theorem sender_step (h : s.module.sender = s.phase.sender) (action : Action) :
    (s.step action).module.sender = (s.step action).phase.sender := by
  cases action with
  | start context =>
    simp only [step]
    split
    · next hphase =>
      rw [hphase] at h
      exact h
    · exact h
  | connected =>
    simp only [step]
    split
    · rfl
    · exact h
  | refused =>
    simp only [step]
    split
    · next hphase =>
      rw [hphase] at h
      exact h
    · exact h
  | connection n step =>
    simp only [Service.step]
    split
    · exact h
    · exact h
  | attend =>
    simp only [step]
    split
    · next hphase =>
      split
      · split
        · exact h
        · rw [hphase] at h
          exact h
        · rw [hphase] at h
          exact h
        · exact h
      · exact h
    · exact h
  | notice =>
    simp only [step]
    split
    case h_1 hphase | h_2 hphase | h_3 hphase =>
      split
      · rw [hphase] at h
        exact h
      · exact h
    case h_4 => exact h
  | proceed =>
    simp only [step]
    split
    case h_1 | h_4 => rfl
    case h_2 hphase | h_3 hphase | h_5 hphase =>
      rw [hphase] at h
      exact h
    case h_6 => exact h
  | output p =>
    simp only [step]
    split <;> exact h
  | deliver k =>
    simp only [step, deliver]
    split
    · split
      · split <;> exact h
      · exact h
    · exact h
  | giveUp | stop | cancel => exact h

/-- A start returns to no start. -/
theorem returns_step (s : Service) (action : Action) :
    (s.step action).returns = s.returns ∨ (s.step action).phase = .idle := by
  cases action with
  | proceed =>
    simp only [step]
    split
    case h_5 => exact .inr rfl
    all_goals exact .inl rfl
  | attend =>
    simp only [step]
    split
    · split
      · split
        all_goals exact .inl rfl
      · exact .inl rfl
    · exact .inl rfl
  | notice =>
    simp only [step]
    split
    case h_4 => exact .inl rfl
    all_goals split <;> exact .inl rfl
  | start | connected | refused | connection | output =>
    simp only [step]
    split <;> exact .inl rfl
  | deliver k =>
    simp only [step, deliver]
    split
    · split
      · split <;> exact .inl rfl
      · exact .inl rfl
    · exact .inl rfl
  | giveUp | stop | cancel => exact .inl rfl

end Service

end TcpClient

/-! ## Stream servers -/

namespace TcpServer

variable {m : TcpServer} {n : Nat} {sv sv' : Served}

/-- No connection is attended. -/
def AllOver (m : TcpServer) : Prop := ∀ sv ∈ m.served, sv.attendance = .over

theorem AllOver.update (h : m.AllOver) (hover : sv.attendance = .over) :
    (m.update n sv).AllOver := by
  intro sv' hmem
  rcases List.mem_or_eq_of_mem_set hmem with hmem | rfl
  · exact h sv' hmem
  · exact hover

theorem allOver_abortAll (m : TcpServer) : m.abortAll.AllOver := by
  intro sv' hmem
  obtain ⟨sv, -, rfl⟩ := List.mem_map.1 hmem
  rfl

/-- A connection that is no longer attended stays so. -/
theorem Changes.over {tokens : Cancellations} {new more : List Bytes}
    (h : Changes tokens sv new more sv') (hover : sv.attendance = .over) :
    sv'.attendance = .over := by
  cases h with
  | still | moves | queue => exact hover
  | take hattending | leave hattending | dismiss hattending =>
    nomatch hover.symm.trans hattending
  | depart | abort => rfl

/-- What a server is without at a phase of a start: it has no address until it has taken one, and
gives up clients, connections and address one after the other. -/
def Phase.Without (m : TcpServer) : Phase → Prop
  | .idle | .opening _ => m.listening = none ∧ m.clients = [] ∧ m.AllOver
  | .accepting _ => True
  | .emptied => m.clients = []
  | .aborted => m.clients = [] ∧ m.AllOver

/-- Whether a start begins, takes its address or goes on to its end. -/
def Action.ofStart : Action → Bool
  | .start _ | .opened _ | .proceed => true
  | .accept _ | .connection _ _ | .attend _ | .dismiss _ | .depart _ | .output _ | .deliver _ |
    .giveUp _ | .reorder _ | .stop | .cancel _ => false

namespace Service

variable {s s' : Service} {action : Action}

/-- While nothing is accepted, the table takes in nobody. -/
theorem Steps.clients_eq_nil (h : Steps s action s') (hphase : ∀ token, s.phase ≠ .accepting token)
    (hclients : s.module.clients = []) : s'.module.clients = [] := by
  cases h with
  | control _ _ _ hclients' => exact (hclients ▸ hclients').eq_nil
  | accept hphase' => exact absurd hphase' (hphase _)
  | change | output | queue | pass | wait | ended | abort => exact hclients
  | depart | drop =>
    simp only [TcpServer.forget, TcpServer.update, hclients, List.filter_nil]
  | empty => rfl

/-- While nothing is accepted, no attendance begins. -/
theorem Steps.allOver (h : Steps s action s') (hphase : ∀ token, s.phase ≠ .accepting token)
    (hover : s.module.AllOver) : s'.module.AllOver := by
  cases h with
  | control _ _ hserved => exact fun sv hmem => hover sv (hserved ▸ hmem)
  | accept hphase' => exact absurd hphase' (hphase _)
  | change _ hsv _ hchanges =>
    exact hover.update (hchanges.over (hover _ (List.mem_of_getElem? hsv)))
  | @depart n sv =>
    have hforget : (s.module.forget sv.peer).AllOver := hover
    exact hforget.update rfl
  | queue _ _ _ _ _ hsv =>
    have hsv := hover _ (List.mem_of_getElem? hsv)
    exact hover.update hsv
  | output | drop | pass | wait | ended | empty => exact hover
  | abort => exact allOver_abortAll s.module

theorem step_of_not_ofStart (s : Service) (h : action.ofStart = false) :
    (s.step action).phase = s.phase ∧
      (s.step action).module.listening = s.module.listening ∧
      (s.step action).returns = s.returns := by
  cases action with
  | start | opened | proceed => nomatch h
  | accept | connection | output | reorder =>
    simp only [step]
    split <;> exact ⟨rfl, rfl, rfl⟩
  | attend n =>
    simp only [step, attend]
    split
    · split
      · split <;> exact ⟨rfl, rfl, rfl⟩
      · exact ⟨rfl, rfl, rfl⟩
    · exact ⟨rfl, rfl, rfl⟩
  | dismiss n | depart n =>
    simp only [step, dismiss, depart]
    split
    · split <;> exact ⟨rfl, rfl, rfl⟩
    · exact ⟨rfl, rfl, rfl⟩
  | deliver k =>
    simp only [step, deliver]
    split
    · next d _ =>
      split
      · exact ⟨rfl, rfl, rfl⟩
      · next target rest _ _ =>
        have hoffered := offered_offer s.module d target rest (s.line target.2)
        generalize s.module.offer d target rest (s.line target.2) = result at hoffered ⊢
        obtain ⟨m', d'⟩ := result
        cases hoffered <;> exact ⟨rfl, rfl, rfl⟩
      · exact ⟨rfl, rfl, rfl⟩
    · exact ⟨rfl, rfl, rfl⟩
  | giveUp | stop | cancel => exact ⟨rfl, rfl, rfl⟩

theorem Steps.without (h : Steps s action s') (hs : s.phase.Without s.module)
    (hphase : s'.phase = s.phase) (hlistening : s'.module.listening = s.module.listening) :
    s'.phase.Without s'.module := by
  rw [hphase]
  cases hp : s.phase with
  | idle | opening token =>
    rw [hp] at hs
    have haccepting : ∀ token, s.phase ≠ .accepting token := by simp [hp]
    exact ⟨hlistening.trans hs.1, h.clients_eq_nil haccepting hs.2.1, h.allOver haccepting hs.2.2⟩
  | accepting token => trivial
  | emptied =>
    rw [hp] at hs
    exact h.clients_eq_nil (by simp [hp]) hs
  | aborted =>
    rw [hp] at hs
    have haccepting : ∀ token, s.phase ≠ .accepting token := by simp [hp]
    exact ⟨h.clients_eq_nil haccepting hs.1, h.allOver haccepting hs.2⟩

/-- Every step keeps what a server is without. -/
theorem without_step (h : s.phase.Without s.module) (action : Action) :
    (s.step action).phase.Without (s.step action).module := by
  cases action with
  | start context =>
    simp only [step]
    split
    · next hphase =>
      rw [hphase] at h
      exact h
    · exact h
  | opened result =>
    simp only [step]
    split
    · trivial
    · next hphase =>
      rw [hphase] at h
      exact h
    · exact h
  | proceed =>
    simp only [step]
    split
    · split
      · rfl
      · exact h
    · next hphase =>
      rw [hphase] at h
      exact ⟨h, allOver_abortAll s.module⟩
    · next hphase =>
      rw [hphase] at h
      exact ⟨rfl, h⟩
    · exact h
  | _ =>
    refine (s.steps_step _).without h ?_ ?_
    · exact (s.step_of_not_ofStart rfl).1
    · exact (s.step_of_not_ofStart rfl).2.1

/-- A start returns to no start. -/
theorem returns_step (s : Service) (action : Action) :
    (s.step action).returns = s.returns ∨ (s.step action).phase = .idle := by
  cases action with
  | start context =>
    simp only [step]
    split <;> exact .inl rfl
  | opened result =>
    simp only [step]
    split
    · exact .inl rfl
    · exact .inr rfl
    · exact .inl rfl
  | proceed =>
    simp only [step]
    split
    · split <;> exact .inl rfl
    · exact .inl rfl
    · exact .inr rfl
    · exact .inl rfl
  | _ => exact .inl (s.step_of_not_ofStart rfl).2.2

end Service

end TcpServer

/-! ## Datagrams and ticks -/

namespace UdpServer

/-- What a receiver is without at a phase of a start. -/
def Phase.Without (m : UdpServer) : Phase → Prop
  | .idle | .opening _ => m.bound = none
  | .receiving _ => True

namespace Service

variable {s : Service}

theorem without_step (h : s.phase.Without s.module) (action : Action) :
    (s.step action).phase.Without (s.step action).module := by
  cases action with
  | start context =>
    simp only [step]
    split
    · next hphase =>
      rw [hphase] at h
      exact h
    · exact h
  | opened result =>
    simp only [step]
    split
    · trivial
    · next hphase =>
      rw [hphase] at h
      exact h
    · exact h
  | receive datagram =>
    simp only [step]
    split
    · exact h
    · exact h
  | closed =>
    simp only [step]
    split
    · rfl
    · exact h
  | leave =>
    simp only [step]
    split
    · split
      · rfl
      · exact h
    · exact h
  | stop | cancel => exact h

/-- A start returns to no start. -/
theorem returns_step (s : Service) (action : Action) :
    (s.step action).returns = s.returns ∨ (s.step action).phase = .idle := by
  cases action with
  | start | receive =>
    simp only [step]
    split <;> exact .inl rfl
  | opened result =>
    simp only [step]
    split
    · exact .inl rfl
    · exact .inr rfl
    · exact .inl rfl
  | closed =>
    simp only [step]
    split
    · exact .inr rfl
    · exact .inl rfl
  | leave =>
    simp only [step]
    split
    · split
      · exact .inr rfl
      · exact .inl rfl
    · exact .inl rfl
  | stop | cancel => exact .inl rfl

end Service

end UdpServer

namespace UdpClient

/-- What a sender is without at a phase of a start. -/
def Phase.Without (m : UdpClient) : Phase → Prop
  | .idle | .opening _ => m.socket = none
  | .sending _ => True

theorem socket_output (network : Network) (m : UdpClient) (p : Payload) :
    (output network m p).2.socket = m.socket := by
  simp only [output]
  split
  · rfl
  · split
    · rfl
    · split <;> rfl

namespace Service

variable {s : Service}

theorem without_step (h : s.phase.Without s.module) (action : Action) :
    (s.step action).phase.Without (s.step action).module := by
  cases action with
  | start context =>
    simp only [step]
    split
    · next hphase =>
      rw [hphase] at h
      exact h
    · exact h
  | opened result =>
    simp only [step]
    split
    · trivial
    · next hphase =>
      rw [hphase] at h
      exact h
    · exact h
  | output network p =>
    cases hphase : s.phase with
    | idle | opening token =>
      rw [hphase] at h
      simp only [step, hphase]
      exact (socket_output network s.module p).trans h
    | sending token =>
      simp only [step, hphase]
      trivial
  | leave =>
    simp only [step]
    split
    · split
      · rfl
      · exact h
    · exact h
  | stop | cancel => exact h

/-- A start returns to no start. -/
theorem returns_step (s : Service) (action : Action) :
    (s.step action).returns = s.returns ∨ (s.step action).phase = .idle := by
  cases action with
  | start =>
    simp only [step]
    split <;> exact .inl rfl
  | opened result =>
    simp only [step]
    split
    · exact .inl rfl
    · exact .inr rfl
    · exact .inl rfl
  | leave =>
    simp only [step]
    split
    · split
      · exact .inr rfl
      · exact .inl rfl
    · exact .inl rfl
  | output | stop | cancel => exact .inl rfl

end Service

end UdpClient

namespace Interval.Service

/-- A start returns to no start. -/
theorem returns_step (s : Service) (action : Action) :
    (s.step action).returns = s.returns ∨ (s.step action).phase = .idle := by
  cases action with
  | start | tick =>
    simp only [step]
    split <;> exact .inl rfl
  | leave =>
    simp only [step]
    split
    · split
      · exact .inr rfl
      · exact .inl rfl
    · exact .inl rfl
  | stop | cancel => exact .inl rfl

end Interval.Service

end Switchboard
