import Switchboard.Proofs.Module.Construction
import Switchboard.Proofs.Module.TcpServer.Steps

/-!
# What servers come to

Whatever happens to a server, its connections stay where they are and keep their peers, its table
and its deliveries name connections by their own peers, and a connection outlives the start that has
accepted it only when that start has been cancelled.
-/

namespace Switchboard.TcpServer

variable {m : TcpServer} {config : ModuleConfig}

/-- A server that has been built has no connections. -/
theorem connections_of_ofConfig (h : ofConfig config = .ok m) : m.served = [] ∧ m.clients = [] := by
  obtain ⟨address, -, h⟩ := Except.exists_of_bind_eq_ok h
  obtain ⟨framing, -, h⟩ := Except.exists_of_bind_eq_ok h
  obtain rfl := Except.ok.inj h
  exact ⟨rfl, rfl⟩

theorem mem_forget {peer : Address} {target : Address × Nat} :
    target ∈ (m.forget peer).clients ↔ target ∈ m.clients ∧ target.1 ≠ peer := by
  simp [forget]

/-- The connections that a delivery is still to come to, and the one that has refused it. -/
def Delivery.Concerns (d : Delivery) (target : Address × Nat) : Prop :=
  target ∈ d.targets ∨ d.refused = some target

/-- A delivery begins with the connections of the table. -/
theorem exists_of_begin {p : Payload} {d : Delivery} (h : m.begin p = .ok d) :
    ∃ message, m.messageOf p = .ok message ∧ d = ⟨message, m.clients, 0, none, none⟩ := by
  simp only [begin] at h
  cases hmessage : m.messageOf p with
  | error e =>
    rw [hmessage] at h
    cases h
  | ok message =>
    rw [hmessage] at h
    exact ⟨message, rfl, (Except.ok.inj h).symm⟩

theorem concerns_begin {p : Payload} {d : Delivery} {target : Address × Nat}
    (h : m.begin p = .ok d) (htarget : d.Concerns target) : target ∈ m.clients := by
  obtain ⟨message, -, rfl⟩ := exists_of_begin h
  exact htarget.resolve_right nofun

namespace Service

variable {s s' : Service} {action : Action} {target : Address × Nat}

/-- Where the connections come from, in the order in which they were accepted. -/
def origins (s : Service) : List (Address × Token) := s.module.served.map Served.origin

/-- The peers of the connections, in this order. -/
def peers (s : Service) : List Address := s.module.served.map Served.peer

theorem peers_eq_map_origins (s : Service) : s.peers = s.origins.map Prod.fst := by
  rw [peers, origins, List.map_map]
  rfl

/-- The pair gives the number of a connection and its own peer. -/
def Names (s : Service) (target : Address × Nat) : Prop :=
  ∃ token, s.origins[target.2]? = some (target.1, token)

theorem Names.peer (h : s.Names target) : s.peers[target.2]? = some target.1 := by
  obtain ⟨token, htoken⟩ := h
  rw [peers_eq_map_origins, List.getElem?_map, htoken]
  rfl

theorem names_of_served {n : Nat} {sv : Served} (hsv : s.module.served[n]? = some sv) :
    s.Names (sv.peer, n) := by
  refine ⟨sv.token, ?_⟩
  rw [origins, List.getElem?_map, hsv]
  rfl

/-! ## One step -/

/-- Connections are only added, each by the start that accepts it. -/
theorem Steps.origins (h : Steps s action s') :
    s'.origins = s.origins ∨ ∃ peer token, action = .accept peer ∧ s.phase = .accepting token ∧
      s'.origins = s.origins ++ [(peer, token)] := by
  cases h with
  | control _ _ hserved => exact .inl (congrArg (List.map Served.origin) hserved)
  | @accept token peer hphase =>
    refine .inr ⟨peer, token, rfl, hphase, ?_⟩
    simp [Service.origins, TcpServer.accept, Served.origin]
  | change _ hsv _ hchanges => exact .inl (map_set_eq_map hsv hchanges.origin_eq)
  | depart hsv | queue _ _ _ _ _ hsv => exact .inl (map_set_eq_map hsv rfl)
  | output | drop | pass | wait | ended | empty => exact .inl rfl
  | abort => exact .inl (List.map_map ..)

theorem Steps.origins_isPrefix (h : Steps s action s') : s.origins <+: s'.origins := by
  rcases h.origins with horigins | ⟨peer, token, -, -, horigins⟩
  · exact horigins.symm ▸ List.prefix_rfl
  · rw [horigins]
    exact List.prefix_append _ _

theorem Steps.peers_isPrefix (h : Steps s action s') : s.peers <+: s'.peers := by
  rw [peers_eq_map_origins, peers_eq_map_origins]
  exact h.origins_isPrefix.map Prod.fst

theorem Names.of_isPrefix (h : s.Names target) (hmore : s.origins <+: s'.origins) :
    s'.Names target := by
  obtain ⟨token, htoken⟩ := h
  obtain ⟨more, hmore⟩ := hmore
  obtain ⟨hlt, -⟩ := List.getElem?_eq_some_iff.1 htoken
  exact ⟨token, by rw [← hmore, List.getElem?_append_left hlt, htoken]⟩

theorem Steps.isCancelled (h : Steps s action s') {token : Token}
    (htoken : s.tokens.isCancelled token = true) : s'.tokens.isCancelled token = true := by
  cases h with
  | control _ _ _ _ _ htokens => exact htokens token htoken
  | _ => exact htoken

/-- The table only ever takes in the connection that has just been accepted. -/
theorem Steps.mem_clients (h : Steps s action s') (hmem : target ∈ s'.module.clients) :
    target ∈ s.module.clients ∨
      ∃ token, s'.origins = s.origins ++ [(target.1, token)] ∧
        target.2 = s.module.served.length := by
  cases h with
  | control _ _ _ hclients => exact .inl (hclients.mem_iff.1 hmem)
  | @accept token peer =>
    rcases List.mem_append.1 hmem with hmem | hmem
    · exact .inl ((mem_forget.1 hmem).1)
    · obtain rfl := List.mem_singleton.1 hmem
      exact .inr ⟨token, by simp [Service.origins, TcpServer.accept, Served.origin], rfl⟩
  | change | output | queue | pass | wait | ended | abort => exact .inl hmem
  | depart | drop => exact .inl ((mem_forget.1 hmem).1)
  | empty => nomatch hmem

/-- A delivery only ever concerns connections that it has found in the table. -/
theorem Steps.concerns {d' : Delivery} (h : Steps s action s') (hd' : d' ∈ s'.deliveries)
    (htarget : d'.Concerns target) :
    (∃ d ∈ s.deliveries, d.Concerns target) ∨ target ∈ s.module.clients := by
  cases h with
  | control | accept | change | depart | empty | abort => exact .inl ⟨d', hd', htarget⟩
  | output hbegin =>
    rcases List.mem_append.1 hd' with hd' | hd'
    · exact .inl ⟨d', hd', htarget⟩
    · obtain rfl := List.mem_singleton.1 hd'
      exact .inr (concerns_begin hbegin htarget)
  | drop hd hrefused =>
    rcases List.mem_or_eq_of_mem_set hd' with hd' | rfl
    · exact .inl ⟨d', hd', htarget⟩
    · exact .inl ⟨_, List.mem_of_getElem? hd, .inl (htarget.resolve_right nofun)⟩
  | queue hd hrefused htargets hrest hrefused' =>
    rcases List.mem_or_eq_of_mem_set hd' with hd' | rfl
    · exact .inl ⟨d', hd', htarget⟩
    · rcases htarget with hmem | hnone
      · refine .inl ⟨_, List.mem_of_getElem? hd, .inl ?_⟩
        rw [htargets]
        exact List.mem_cons_of_mem _ (hrest ▸ hmem)
      · rw [hrefused'] at hnone
        nomatch hnone
  | @pass k d _ first rest hd hrefused htargets hrest hrefused' =>
    rcases List.mem_or_eq_of_mem_set hd' with hd' | rfl
    · exact .inl ⟨d', hd', htarget⟩
    · refine .inl ⟨d, List.mem_of_getElem? hd, .inl ?_⟩
      rw [htargets]
      rcases htarget with hmem | hsome
      · exact List.mem_cons_of_mem _ (hrest ▸ hmem)
      · rw [hsome] at hrefused'
        obtain rfl := Option.some.inj (hrefused'.resolve_left nofun)
        exact List.mem_cons_self
  | wait hd =>
    rcases List.mem_or_eq_of_mem_set hd' with hd' | rfl
    · exact .inl ⟨d', hd', htarget⟩
    · exact .inl ⟨_, List.mem_of_getElem? hd, htarget⟩
  | ended => exact .inl ⟨d', List.mem_of_mem_eraseIdx hd', htarget⟩

/-! ## Soundness -/

/-- What holds of a server in service that was built as `m`. It keeps its id. It keeps its framing.
The start of each connection still accepts, or has been cancelled. The table keeps the connections
by their own peers. So do deliveries. -/
structure Sound (m : TcpServer) (s : Service) : Prop where
  id : s.module.id = m.id
  framing : s.module.framing = m.framing
  covered : ∀ origin ∈ s.origins,
    s.phase = .accepting origin.2 ∨ s.tokens.isCancelled origin.2 = true
  clients : ∀ client ∈ s.module.clients, s.Names client
  deliveries : ∀ d ∈ s.deliveries, ∀ target, d.Concerns target → s.Names target

theorem sound_initial (h : ofConfig config = .ok m) : (initial m).Sound m where
  id := rfl
  framing := rfl
  covered := by
    rw [origins, initial, (connections_of_ofConfig h).1]
    nofun
  clients := by
    rw [initial, (connections_of_ofConfig h).2]
    nofun
  deliveries := nofun

/-- No step changes what the module was built as. -/
theorem Steps.module_eq (h : Steps s action s') :
    s'.module.id = s.module.id ∧ s'.module.framing = s.module.framing := by
  cases h with
  | control hid hframing => exact ⟨hid, hframing⟩
  | _ => exact ⟨rfl, rfl⟩

/-- A start accepts until it has been cancelled. -/
theorem Steps.covered (h : Steps s action s') {token : Token}
    (htoken : s.phase = .accepting token ∨ s.tokens.isCancelled token = true) :
    s'.phase = .accepting token ∨ s'.tokens.isCancelled token = true := by
  rcases htoken with hphase | hcancelled
  · cases h with
    | control _ _ _ _ hphase' => exact .inl (hphase' token hphase)
    | empty hphase' hcancelled =>
      obtain rfl := Phase.accepting.inj (hphase.symm.trans hphase')
      exact .inr hcancelled
    | abort hphase' => nomatch hphase.symm.trans hphase'
    | _ => exact .inl hphase
  · exact .inr (h.isCancelled hcancelled)

theorem Sound.steps (hs : s.Sound m) (h : Steps s action s') : s'.Sound m where
  id := h.module_eq.1.trans hs.id
  framing := h.module_eq.2.trans hs.framing
  covered := by
    intro origin hmem
    rcases h.origins with horigins | ⟨peer, token, -, hphase, horigins⟩
    · exact h.covered (hs.covered origin (horigins ▸ hmem))
    · rw [horigins] at hmem
      rcases List.mem_append.1 hmem with hmem | hmem
      · exact h.covered (hs.covered origin hmem)
      · obtain rfl := List.mem_singleton.1 hmem
        exact h.covered (.inl hphase)
  clients := by
    intro client hmem
    rcases h.mem_clients hmem with hmem | ⟨token, horigins, hnumber⟩
    · exact (hs.clients client hmem).of_isPrefix h.origins_isPrefix
    · exact ⟨token, by rw [horigins, hnumber, origins]; simp⟩
  deliveries := by
    intro d' hd' target htarget
    rcases h.concerns hd' htarget with ⟨d, hd, htarget⟩ | hmem
    · exact (hs.deliveries d hd target htarget).of_isPrefix h.origins_isPrefix
    · exact (hs.clients target hmem).of_isPrefix h.origins_isPrefix

/-! ## Runs -/

theorem Sound.run (hs : s.Sound m) (actions : List Action) : (s.run actions).Sound m := by
  induction actions generalizing s with
  | nil => exact hs
  | cons action rest ih => exact ih (hs.steps (s.steps_step action))

theorem origins_isPrefix_run (s : Service) (actions : List Action) :
    s.origins <+: (s.run actions).origins := by
  induction actions generalizing s with
  | nil => exact List.prefix_rfl
  | cons action rest ih => exact (s.steps_step action).origins_isPrefix.trans (ih _)

theorem peers_isPrefix_run (s : Service) (actions : List Action) :
    s.peers <+: (s.run actions).peers := by
  rw [peers_eq_map_origins, peers_eq_map_origins]
  exact (s.origins_isPrefix_run actions).map Prod.fst

theorem isCancelled_run {token : Token} (h : s.tokens.isCancelled token = true)
    (actions : List Action) : (s.run actions).tokens.isCancelled token = true := by
  induction actions generalizing s with
  | nil => exact h
  | cons action rest ih => exact ih ((s.steps_step action).isCancelled h)

theorem run_append (s : Service) (front back : List Action) :
    s.run (front ++ back) = (s.run front).run back := List.foldl_append

theorem reads_append (s : Service) (n : Nat) (front back : List Action) :
    s.reads n (front ++ back) = s.reads n front ++ (s.run front).reads n back := by
  induction front generalizing s with
  | nil => rfl
  | cons action rest ih => rw [List.cons_append, reads, reads, ih, List.append_assoc]; rfl

end Service

end Switchboard.TcpServer
