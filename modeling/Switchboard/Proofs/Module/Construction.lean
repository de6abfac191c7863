import Switchboard.Module.Basic
import Switchboard.Proofs.Except

/-!
# What the constructors of the library make

A module that a constructor of the library makes carries the id of the entry that it is made of, and
it is at rest: it has no connection, address or socket before it is started.
-/

namespace Switchboard

variable {config : ModuleConfig}

theorem TcpClient.of_ofConfig {m : TcpClient} (h : TcpClient.ofConfig config = .ok m) :
    m.id = config.id ∧ m.sender = none := by
  obtain ⟨address, -, h⟩ := Except.exists_of_bind_eq_ok h
  obtain ⟨framing, -, h⟩ := Except.exists_of_bind_eq_ok h
  obtain ⟨reconnect, -, h⟩ := Except.exists_of_bind_eq_ok h
  obtain rfl := Except.ok.inj h
  exact ⟨rfl, rfl⟩

theorem TcpServer.of_ofConfig {m : TcpServer} (h : TcpServer.ofConfig config = .ok m) :
    m.id = config.id ∧ m.listening = none := by
  obtain ⟨address, -, h⟩ := Except.exists_of_bind_eq_ok h
  obtain ⟨framing, -, h⟩ := Except.exists_of_bind_eq_ok h
  obtain rfl := Except.ok.inj h
  exact ⟨rfl, rfl⟩

theorem UdpServer.of_ofConfig {m : UdpServer} (h : UdpServer.ofConfig config = .ok m) :
    m.id = config.id ∧ m.bound = none := by
  obtain ⟨address, -, h⟩ := Except.exists_of_bind_eq_ok h
  obtain rfl := Except.ok.inj h
  exact ⟨rfl, rfl⟩

theorem UdpClient.of_ofConfig {m : UdpClient} (h : UdpClient.ofConfig config = .ok m) :
    m.id = config.id ∧ m.socket = none := by
  obtain ⟨target, -, h⟩ := Except.exists_of_bind_eq_ok h
  obtain ⟨port, -, h⟩ := Except.exists_of_bind_eq_ok h
  obtain rfl := Except.ok.inj h
  exact ⟨rfl, rfl⟩

theorem Interval.of_ofConfig {m : Interval} (h : Interval.ofConfig config = .ok m) :
    m.id = config.id := by
  obtain ⟨period, -, h⟩ := Except.exists_of_bind_eq_ok h
  simp only at h
  split at h
  · obtain ⟨_, h, -⟩ := Except.exists_of_bind_eq_ok h
    nomatch h
  · obtain rfl := Except.ok.inj h
    rfl

theorem Mock.of_ofConfig {m : Mock} (h : Mock.ofConfig config = .ok m) : m.id = config.id := by
  unfold Mock.ofConfig at h
  simp only at h
  split at h
  · obtain ⟨emit, -, h⟩ := Except.exists_of_bind_eq_ok h
    obtain ⟨failOutput, -, h⟩ := Except.exists_of_bind_eq_ok h
    obtain ⟨failStart, -, h⟩ := Except.exists_of_bind_eq_ok h
    obtain rfl := Except.ok.inj h
    rfl
  · obtain ⟨emit, -, h⟩ := Except.exists_of_bind_eq_ok h
    obtain ⟨failOutput, -, h⟩ := Except.exists_of_bind_eq_ok h
    obtain ⟨failStart, -, h⟩ := Except.exists_of_bind_eq_ok h
    obtain rfl := Except.ok.inj h
    rfl
  · obtain ⟨emit, h, -⟩ := Except.exists_of_bind_eq_ok h
    nomatch h

namespace Module

/-- A module that has no connection, address or socket. -/
def AtRest : Module → Prop
  | .tcpClient m => m.sender = none
  | .tcpServer m => m.listening = none
  | .udpServer m => m.bound = none
  | .udpClient m => m.socket = none
  | .interval _ | .mock _ => True

/-- A constructor that comes with the library, be it for use or for trying routers. -/
def FromLibrary (constructor : ModuleConstructor) : Prop :=
  ∃ given ∈ builtins ++ trials, given.constructor = some constructor

theorem exists_of_registration {M : Type} {type : String} {wrap : M → Module}
    {build : ModuleConfig → Except ModuleError M} {constructor : ModuleConstructor} {made : Module}
    (hgiven : (registration type build wrap).constructor = some constructor)
    (hmade : constructor config = .ok made) : ∃ m, build config = .ok m ∧ wrap m = made := by
  obtain rfl := Option.some.inj hgiven
  cases hbuild : build config with
  | ok m =>
    simp only [hbuild, Except.map] at hmade
    exact ⟨m, rfl, Except.ok.inj hmade⟩
  | error e =>
    simp only [hbuild, Except.map] at hmade
    nomatch hmade

/-- A module of the library has the id of its entry, and it is at rest. -/
theorem FromLibrary.spec {constructor : ModuleConstructor} {made : Module}
    (h : FromLibrary constructor) (hmade : constructor config = .ok made) :
    made.id = config.id ∧ made.AtRest := by
  obtain ⟨given, hmem, hgiven⟩ := h
  simp only [builtins, trials, List.cons_append, List.nil_append, List.mem_cons, List.not_mem_nil,
    or_false] at hmem
  rcases hmem with rfl | rfl | rfl | rfl | rfl | rfl
  · obtain ⟨m, hm, rfl⟩ := exists_of_registration hgiven hmade
    exact TcpClient.of_ofConfig hm
  · obtain ⟨m, hm, rfl⟩ := exists_of_registration hgiven hmade
    exact TcpServer.of_ofConfig hm
  · obtain ⟨m, hm, rfl⟩ := exists_of_registration hgiven hmade
    exact UdpServer.of_ofConfig hm
  · obtain ⟨m, hm, rfl⟩ := exists_of_registration hgiven hmade
    exact UdpClient.of_ofConfig hm
  · obtain ⟨m, hm, rfl⟩ := exists_of_registration hgiven hmade
    exact ⟨Interval.of_ofConfig hm, trivial⟩
  · obtain ⟨m, hm, rfl⟩ := exists_of_registration hgiven hmade
    exact ⟨Mock.of_ofConfig hm, trivial⟩

end Module

end Switchboard
