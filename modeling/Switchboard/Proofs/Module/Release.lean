import Switchboard.Module.Service
import Switchboard.Proofs.Module.Phases
import Switchboard.Proofs.Module.TcpServer.Reachable

/-!
# Modules between their starts

A module for use holds nothing while no start is in progress, whatever has happened to it before. So
it refuses every payload then, and as what it is: whether it could have taken the payload is not
asked.
-/

namespace Switchboard.Module.Service

variable {config : ModuleConfig} {made : Module} {s : Service}

/-- How a module refuses payloads while no start is in progress. -/
def refusal : Service → ModuleError
  | .tcpClient s => .notReady ("not connected to " ++ s.module.address)
  | .tcpServer s => .notReady ("TCP server " ++ s.module.id ++ " is not listening")
  | .udpServer _ => .unsupported (UdpServer.typeName ++ " is receive only")
  | .udpClient s => .notReady ("UDP client " ++ s.module.id ++ " is not started")
  | .interval _ => .unsupported (Interval.typeName ++ " does not accept output")

/-- The module reports no address, has no client and holds neither connection nor socket. -/
def IsReleased : Service → Prop
  | .tcpClient s =>
    s.module.sender = none ∧ s.module.isConnected = false ∧
      ∀ n, TcpClient.Service.isHeard s.phase n = false
  | .tcpServer s => s.module.listening = none ∧ s.module.clients = [] ∧ s.module.AllOver
  | .udpServer s => s.module.bound = none
  | .udpClient s => s.module.socket = none
  | .interval _ => True

/-- The module has what belongs to the phase of its start. -/
def Sound : Service → Prop
  | .tcpClient s => s.module.sender = s.phase.sender
  | .tcpServer s => s.phase.Without s.module
  | .udpServer s => s.phase.Without s.module
  | .udpClient s => s.phase.Without s.module
  | .interval _ => True

/-- A module of a type for use is built so that it can be started. -/
theorem exists_initial {given : Registration ModuleConstructor} {constructor : ModuleConstructor}
    (hgiven : given ∈ builtins) (hconstructor : given.constructor = some constructor)
    (hmade : constructor config = .ok made) :
    made.type = given.type ∧ ∃ s, initial? made = some s ∧ s.module = made ∧ s.Sound := by
  simp only [builtins, List.mem_cons, List.not_mem_nil, or_false] at hgiven
  rcases hgiven with rfl | rfl | rfl | rfl | rfl
  · obtain ⟨m, hm, rfl⟩ := exists_of_registration hconstructor hmade
    exact ⟨rfl, _, rfl, rfl, (TcpClient.of_ofConfig hm).2⟩
  · obtain ⟨m, hm, rfl⟩ := exists_of_registration hconstructor hmade
    obtain ⟨hserved, hclients⟩ := TcpServer.connections_of_ofConfig hm
    refine ⟨rfl, _, rfl, rfl, (TcpServer.of_ofConfig hm).2, hclients, ?_⟩
    intro sv hmem
    rw [TcpServer.Service.initial, hserved] at hmem
    exact absurd hmem List.not_mem_nil
  · obtain ⟨m, hm, rfl⟩ := exists_of_registration hconstructor hmade
    exact ⟨rfl, _, rfl, rfl, (UdpServer.of_ofConfig hm).2⟩
  · obtain ⟨m, hm, rfl⟩ := exists_of_registration hconstructor hmade
    exact ⟨rfl, _, rfl, rfl, (UdpClient.of_ofConfig hm).2⟩
  · obtain ⟨m, hm, rfl⟩ := exists_of_registration hconstructor hmade
    exact ⟨rfl, _, rfl, rfl, trivial⟩

theorem Sound.step (h : s.Sound) (action : Action) : (s.step action).Sound := by
  rcases s with s | s | s | s | s <;> rcases action with a | a | a | a | a
  case tcpClient.tcpClient => exact TcpClient.Service.sender_step h a
  case tcpServer.tcpServer => exact TcpServer.Service.without_step h a
  case udpServer.udpServer => exact UdpServer.Service.without_step h a
  case udpClient.udpClient => exact UdpClient.Service.without_step h a
  all_goals exact h

theorem Sound.run (h : s.Sound) (actions : List Action) : (s.run actions).Sound := by
  induction actions generalizing s with
  | nil => exact h
  | cons action rest ih => exact ih (h.step action)

theorem type_step (s : Service) (action : Action) :
    (s.step action).module.type = s.module.type := by
  rcases s with s | s | s | s | s <;> rcases action with a | a | a | a | a <;> rfl

theorem type_run (s : Service) (actions : List Action) :
    (s.run actions).module.type = s.module.type := by
  induction actions generalizing s with
  | nil => rfl
  | cons action rest ih => exact (ih (s.step action)).trans (s.type_step action)

/-- Without a start nothing is held. -/
theorem Sound.isReleased (h : s.Sound) (hidle : s.isIdle = true) : s.IsReleased := by
  cases s with
  | tcpClient s =>
    have hphase : s.phase = .idle := of_decide_eq_true hidle
    have hsender : s.module.sender = none := by
      rw [Sound, hphase] at h
      exact h
    refine ⟨hsender, ?_, fun n => ?_⟩
    · simp [TcpClient.isConnected, TcpClient.current?, hsender]
    · rw [hphase]
      rfl
  | tcpServer s | udpServer s | udpClient s =>
    rw [Sound, of_decide_eq_true hidle] at h
    exact h
  | interval s => trivial

/-- A start that returns leaves no start in progress. -/
theorem isIdle_step_of_returned (action : Action)
    (h : (s.step action).returned ≠ s.returned) : (s.step action).isIdle = true := by
  rcases s with s | s | s | s | s <;> rcases action with a | a | a | a | a
  case tcpClient.tcpClient =>
    exact decide_eq_true ((s.returns_step a).resolve_left h)
  case tcpServer.tcpServer =>
    exact decide_eq_true ((s.returns_step a).resolve_left (h ∘ congrArg List.length))
  case udpServer.udpServer =>
    exact decide_eq_true ((s.returns_step a).resolve_left (h ∘ congrArg List.length))
  case udpClient.udpClient =>
    exact decide_eq_true ((s.returns_step a).resolve_left (h ∘ congrArg List.length))
  case interval.interval =>
    exact decide_eq_true ((s.returns_step a).resolve_left (h ∘ congrArg List.length))
  all_goals exact absurd rfl h

/-- What holds nothing refuses every payload as what it is and is not changed by it. -/
theorem IsReleased.refuses (h : s.IsReleased) (network : Network) (p : Payload) :
    s.module.output network p = (.error s.refusal, s.module) ∧ s.give network p = s := by
  cases s with
  | tcpClient s =>
    have hbegin : s.module.begin p =
        .error (.notReady ("not connected to " ++ s.module.address)) := by
      simp [TcpClient.begin, TcpClient.current?, h.1]
    constructor
    · simp only [Service.module, Module.output, TcpClient.output, hbegin]
      rfl
    · simp only [give, TcpClient.Service.step, hbegin]
  | tcpServer s =>
    have hmessage : s.module.messageOf p =
        .error (.notReady ("TCP server " ++ s.module.id ++ " is not listening")) := by
      simp [TcpServer.messageOf, h.1]
    have hbegin : s.module.begin p = .error _ := congrArg (Except.map _) hmessage
    constructor
    · simp only [Service.module, Module.output, TcpServer.output, hmessage]
      rfl
    · simp only [give, TcpServer.Service.step, hbegin]
  | udpClient s =>
    have hsocket : s.module.socket = none := h
    have houtput : UdpClient.output network s.module p =
        (.error (.notReady ("UDP client " ++ s.module.id ++ " is not started")), s.module) := by
      simp [UdpClient.output, hsocket]
    constructor
    · simp only [Service.module, Module.output, houtput]
      rfl
    · simp only [give, UdpClient.Service.step, houtput]
  | udpServer s | interval s => exact ⟨rfl, rfl⟩

/-- **A module refuses payloads whenever no start is in progress.** Whatever has happened to a module
of a type for use, it holds nothing between its starts, refuses payloads of every kind as not ready or
as not supported and stays as it is; and every start that returns, be it with success or with an
error, leaves it so. -/
theorem refuses_outside_starts {given : Registration ModuleConstructor}
    {constructor : ModuleConstructor} (hgiven : given ∈ builtins)
    (hconstructor : given.constructor = some constructor) (hmade : constructor config = .ok made) :
    ∃ s₀, initial? made = some s₀ ∧ s₀.module = made ∧ ∀ actions : List Action,
      (s₀.run actions).module.type = given.type ∧
      ((s₀.run actions).isIdle = true → (s₀.run actions).IsReleased ∧
        ∀ (network : Network) (p : Payload),
          (s₀.run actions).module.output network p =
            (.error (s₀.run actions).refusal, (s₀.run actions).module) ∧
          (s₀.run actions).give network p = s₀.run actions) ∧
      ∀ action, ((s₀.run actions).step action).returned ≠ (s₀.run actions).returned →
        ((s₀.run actions).step action).isIdle = true ∧
          ((s₀.run actions).step action).IsReleased := by
  obtain ⟨htype, s₀, hinitial, hmodule, hsound⟩ := exists_initial hgiven hconstructor hmade
  refine ⟨s₀, hinitial, hmodule, fun actions => ⟨?_, fun hidle => ?_, fun action hreturned => ?_⟩⟩
  · rw [type_run, hmodule, htype]
  · have hreleased := (hsound.run actions).isReleased hidle
    exact ⟨hreleased, hreleased.refuses⟩
  · have hidle := isIdle_step_of_returned action hreturned
    exact ⟨hidle, ((hsound.run actions).step action).isReleased hidle⟩

/-- A server that could not take its address, was started again, had a client and was cancelled. -/
theorem refuses_outside_starts_again :
    let config : ModuleConfig :=
      ⟨"hub", TcpServer.typeName, ⟨[("port", .number (.integer 9000))]⟩⟩
    let m : TcpServer := ⟨"hub", "0.0.0.0:9000", .lf, none, [], [], .idle⟩
    let given := registration TcpServer.typeName TcpServer.ofConfig Module.tcpServer
    let constructor : ModuleConstructor := fun config =>
      (TcpServer.ofConfig config).map Module.tcpServer
    let actions : List Action := [.start .root, .opened (.error .addressInUse), .start .root,
      .opened (.ok ⟨"0.0.0.0", 9000⟩), .accept ⟨"10.0.0.1", 5000⟩, .cancel .root, .proceed,
      .proceed, .proceed].map Action.tcpServer
    let s := (Service.tcpServer (.initial m)).run actions
    given ∈ builtins ∧ given.constructor = some constructor ∧
      constructor config = .ok (.tcpServer m) ∧ s.returned = 2 ∧ s.isIdle = true ∧
      ∀ network : Network, s.module.output network (.int 5) =
        (.error (.notReady "TCP server hub is not listening"), s.module) := by
  intro config m given constructor actions s
  have hgiven : given ∈ builtins := by simp [builtins, given]
  have hmade : constructor config = .ok (.tcpServer m) := rfl
  have hidle : s.isIdle = true := rfl
  have hrefusal : s.refusal = .notReady "TCP server hub is not listening" := rfl
  obtain ⟨s₀, hinitial, -, h⟩ := refuses_outside_starts hgiven rfl hmade
  obtain rfl := Option.some.inj hinitial
  refine ⟨hgiven, rfl, hmade, rfl, hidle, fun network => ?_⟩
  rw [← hrefusal]
  exact (((h actions).2.1 hidle).2 network (.int 5)).1

end Switchboard.Module.Service
