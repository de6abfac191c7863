import Switchboard.Module.Basic
import Switchboard.Proofs.Params.Keys

/-!
# The keys of modules

The modules of each type know a few keys. Their constructors read these in order, whatever else the
parameters hold.
-/

namespace Switchboard

namespace Module

/-- The framing may be absent, but a name that is given must be that of one. -/
def framingKey : Key ModuleError :=
  .optional .param "framing" .string fun name =>
    match FramingMethod.ofName name with
    | .ok _ => none
    | .error e => some (.invalidConfig e.message)

/-- The time between two ticks must not be zero. -/
def intervalKey : Key ModuleError :=
  .required .param "interval_ms" .uint fun period =>
    if period = 0 then some (.param (.invalid "interval_ms" "must be greater than zero")) else none

/-- The keys that modules of a type know, in the order in which they are looked at. -/
def keys : String → List (Key ModuleError)
  | "net.tcp.client" => [.required .param "host" .string, .required .param "port" .port, framingKey,
      .optional .param "reconnect_ms" .uint]
  | "net.tcp.server" => [.optional .param "ip" .string, .required .param "port" .port, framingKey]
  | "net.udp.server" => [.optional .param "ip" .string, .required .param "port" .port]
  | "net.udp.client" => [.required .param "host" .string, .required .param "port" .port,
      .optional .param "bind_port" .port]
  | "time.interval" => [intervalKey]
  | _ => []

end Module

open Key (Reads ReadsAll reads_required reads_default reads_checked reads_checked_default reads_pure)

/-! ## Parameters that modules share -/

namespace ModuleError

theorem reads_framingOf : Reads [Module.framingKey] framingOf := by
  refine reads_checked_default param "framing" .string "LF" rfl ?_
  intro name e
  cases FramingMethod.ofName name with
  | ok method => exact iff_of_false nofun nofun
  | error why => simp [throw, throwThe, MonadExceptOf.throw]

theorem reads_remoteAddressOf :
    Reads [.required param "host" .string, .required param "port" .port] remoteAddressOf :=
  (reads_required param "host" .string).bind fun _ =>
    (reads_required param "port" .port).bind fun _ => reads_pure fun _ _ => rfl

theorem reads_listeningAddressOf :
    Reads [.optional param "ip" .string, .required param "port" .port] listeningAddressOf :=
  (reads_default param "ip" .string "0.0.0.0").bind fun _ =>
    (reads_required param "port" .port).bind fun _ => reads_pure fun _ _ => rfl

end ModuleError

/-! ## Constructors -/

open ModuleError (reads_framingOf reads_remoteAddressOf reads_listeningAddressOf)

variable (id type : String)

theorem TcpClient.reads_ofConfig :
    Reads (Module.keys typeName) fun p => ofConfig ⟨id, type, p⟩ :=
  reads_remoteAddressOf.bind fun _ => reads_framingOf.bind fun _ =>
    (reads_default ModuleError.param "reconnect_ms" .uint 2000).bind fun _ => reads_pure fun _ _ => rfl

theorem TcpServer.reads_ofConfig :
    Reads (Module.keys typeName) fun p => ofConfig ⟨id, type, p⟩ :=
  reads_listeningAddressOf.bind fun _ => reads_framingOf.bind fun _ => reads_pure fun _ _ => rfl

theorem UdpServer.reads_ofConfig :
    Reads (Module.keys typeName) fun p => ofConfig ⟨id, type, p⟩ :=
  reads_listeningAddressOf.bind fun _ => reads_pure fun _ _ => rfl

theorem UdpClient.reads_ofConfig :
    Reads (Module.keys typeName) fun p => ofConfig ⟨id, type, p⟩ :=
  reads_remoteAddressOf.bind fun _ =>
    (reads_default ModuleError.param "bind_port" .port 0).bind fun _ => reads_pure fun _ _ => rfl

theorem Interval.ofConfig_eq (p : Params) :
    ofConfig ⟨id, type, p⟩ = (p.getUint "interval_ms").mapError ModuleError.param >>= fun period =>
      if period = 0 then .error (.param (.invalid "interval_ms" "must be greater than zero"))
      else .ok ⟨id, ⟨period.toNat⟩, .idle⟩ := rfl

theorem Interval.reads_ofConfig :
    Reads (Module.keys typeName) fun p => ofConfig ⟨id, type, p⟩ := by
  simp only [ofConfig_eq]
  refine reads_checked ModuleError.param "interval_ms" .uint ?_
  intro period e
  split <;> simp

namespace Module

theorem readsAll_registration {M : Type} {name : String} {build : ModuleConfig → Except ModuleError M}
    {wrap : M → Module} {constructor : ModuleConstructor}
    (hbuild : Reads (keys name) fun p => build ⟨id, type, p⟩)
    (h : (registration name build wrap).constructor = some constructor) :
    ReadsAll (keys (registration name build wrap).type) (fun _ => none) fun p =>
      constructor ⟨id, type, p⟩ := by
  obtain rfl := Option.some.inj h
  exact (hbuild.map wrap).all

/-- Constructors that are registered read the keys of their type. -/
theorem readsAll_of_mem_builtins {given : Registration ModuleConstructor}
    {constructor : ModuleConstructor} (h : given ∈ builtins)
    (hconstructor : given.constructor = some constructor) :
    ReadsAll (keys given.type) (fun _ => none) fun p => constructor ⟨id, type, p⟩ := by
  simp only [builtins, List.mem_cons, List.not_mem_nil, or_false] at h
  rcases h with rfl | rfl | rfl | rfl | rfl
  · exact readsAll_registration id type (TcpClient.reads_ofConfig id type) hconstructor
  · exact readsAll_registration id type (TcpServer.reads_ofConfig id type) hconstructor
  · exact readsAll_registration id type (UdpServer.reads_ofConfig id type) hconstructor
  · exact readsAll_registration id type (UdpClient.reads_ofConfig id type) hconstructor
  · exact readsAll_registration id type (Interval.reads_ofConfig id type) hconstructor

end Module

end Switchboard
