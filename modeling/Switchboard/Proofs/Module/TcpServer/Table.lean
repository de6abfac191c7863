import Mathlib
import Switchboard.Proofs.Module.TcpServer.Reachable

/-!
# How long the table keeps a connection

The table keeps one connection for each peer, and entries are taken out by peer. So the connection
that a peer has made last is taken out on behalf of an earlier one, when the attendant of the
earlier one departs late or a message that was on its way to the earlier one is refused. Nothing
else takes it out while its start is running.
-/

namespace Switchboard.TcpServer.Service

variable {m : TcpServer} {config : ModuleConfig} {s s' : Service} {action : Action}
variable {peer : Address} {token : Token} {n k : Nat}

/-- A step takes a peer from the table on behalf of a connection: its attendant departs, or the
delivery that it has refused goes on. -/
inductive Removes (s : Service) : Action → Address × Nat → Prop where
  | departs {n : Nat} {sv : Served} (hsv : s.module.served[n]? = some sv)
      (hleaving : sv.attendance = .leaving) : Removes s (.depart n) (sv.peer, n)
  | refused {i : Nat} {d : Delivery} {target : Address × Nat} (hd : s.deliveries[i]? = some d)
      (hrefused : d.refused = some target) : Removes s (.deliver i) target

/-- Then the table has no connection of this peer, whichever it was. -/
theorem Removes.not_mem_clients (h : Removes s action (peer, k)) :
    (peer, n) ∉ (s.step action).module.clients := by
  intro hmem
  cases h with
  | departs hsv hleaving =>
    simp only [step, depart, hsv, hleaving, if_true] at hmem
    exact (mem_forget.1 hmem).2 rfl
  | refused hd hrefused =>
    simp only [step, deliver, hd, hrefused] at hmem
    exact (mem_forget.1 hmem).2 rfl

/-- One step, while the start of the connection is running and its peer does not connect again. -/
theorem mem_clients_step_iff (hsound : s.Sound m) (horigin : s.origins[n]? = some (peer, token))
    (hrunning : s.tokens.isCancelled token = false)
    (hnewest : (s.step action).peers ≠ s.peers ++ [peer]) :
    (peer, n) ∈ (s.step action).module.clients ↔
      (peer, n) ∈ s.module.clients ∧ ∀ k, ¬ Removes s action (peer, k) := by
  have hsteps := s.steps_step action
  constructor
  case mp =>
    intro hmem
    refine ⟨?_, fun k hremoves => hremoves.not_mem_clients hmem⟩
    rcases hsteps.mem_clients hmem with hmem | ⟨_, -, hnumber⟩
    · exact hmem
    · have hlt := (List.getElem?_eq_some_iff.1 horigin).1
      rw [origins, List.length_map, ← hnumber] at hlt
      exact absurd hlt (Nat.lt_irrefl _)
  case mpr =>
    rintro ⟨hmem, hkept⟩
    generalize hs' : s.step action = s' at hsteps hnewest ⊢
    cases hsteps with
    | control _ _ _ hclients => exact hclients.mem_iff.2 hmem
    | @accept _ peer' =>
      refine List.mem_append_left _ (mem_forget.2 ⟨hmem, ?_⟩)
      rintro rfl
      exact hnewest (by simp [peers, TcpServer.accept])
    | change | output | queue | pass | wait | ended | abort => exact hmem
    | depart hsv hleaving =>
      refine mem_forget.2 ⟨hmem, ?_⟩
      rintro rfl
      exact hkept _ (.departs hsv hleaving)
    | @drop _ _ target hd hrefused =>
      refine mem_forget.2 ⟨hmem, ?_⟩
      rintro rfl
      exact hkept target.2 (.refused hd hrefused)
    | empty hphase hcancelled =>
      -- Only a start that has been cancelled empties the table, and this one still runs.
      rcases hsound.covered _ (List.mem_of_getElem? horigin) with hphase' | hcancelled'
      · obtain rfl := Phase.accepting.inj (hphase.symm.trans hphase')
        rw [hrunning] at hcancelled
        cases hcancelled
      · rw [hrunning] at hcancelled'
        cases hcancelled'

/-- A run keeps the latest connection of a peer in the table unless one of its steps takes the peer
out. -/
theorem mem_clients_run_iff (hsound : s.Sound m) (horigin : s.origins[n]? = some (peer, token))
    (actions : List Action) (hrunning : (s.run actions).tokens.isCancelled token = false)
    (hnewest : ∀ k, n < k → (s.run actions).peers[k]? ≠ some peer) :
    (peer, n) ∈ (s.run actions).module.clients ↔
      (peer, n) ∈ s.module.clients ∧ ∀ before action after, actions = before ++ action :: after →
        ∀ k, ¬ Removes (s.run before) action (peer, k) := by
  induction actions generalizing s with
  | nil =>
    refine ⟨fun hmem => ⟨hmem, fun before action after h => ?_⟩, fun h => h.1⟩
    cases (List.append_eq_nil_iff.1 h.symm).2
  | cons action rest ih =>
    have hsteps := s.steps_step action
    obtain ⟨hlt, -⟩ := List.getElem?_eq_some_iff.1 horigin
    have horigin' : (s.step action).origins[n]? = some (peer, token) := by
      obtain ⟨more, hmore⟩ := hsteps.origins_isPrefix
      rw [← hmore, List.getElem?_append_left hlt, horigin]
    have hrunning' : s.tokens.isCancelled token = false := by
      rw [← Bool.not_eq_true]
      intro hcancelled
      have hend := isCancelled_run hcancelled (action :: rest)
      rw [hrunning] at hend
      cases hend
    have hnewest' : (s.step action).peers ≠ s.peers ++ [peer] := by
      -- A connection that the peer made now would have a greater number.
      intro hpeers
      have hlength : s.peers.length = s.origins.length := by
        rw [peers_eq_map_origins, List.length_map]
      obtain ⟨more, hmore⟩ := (s.step action).peers_isPrefix_run rest
      refine hnewest s.peers.length (hlength ▸ hlt) ?_
      show ((s.step action).run rest).peers[s.peers.length]? = some peer
      rw [← hmore, hpeers]
      simp
    have hstep := mem_clients_step_iff hsound horigin hrunning' hnewest'
    have hrest := ih (hsound.steps hsteps) horigin' hrunning hnewest
    rw [forall_split_cons_iff, ← and_assoc]
    exact hrest.trans (and_congr hstep Iff.rfl)

/-- **How long the table keeps the latest connection of a peer.** As long as its start is running
and its own attendant has not departed and no refusal of its own has been acted on, it is in the
table exactly when nothing has taken its peer out on behalf of another connection. -/
theorem mem_clients_iff (h : ofConfig config = .ok m) {front back : List Action}
    (hphase : ((initial m).run front).phase = .accepting token)
    (hn : ((initial m).run front).module.served.length = n)
    (hrunning : ((initial m).run (front ++ .accept peer :: back)).tokens.isCancelled token = false)
    (hnewest : ∀ k, n < k → ((initial m).run (front ++ .accept peer :: back)).peers[k]? ≠ some peer)
    (hown : ∀ before action after, back = before ++ action :: after →
      ¬ Removes ((initial m).run (front ++ .accept peer :: before)) action (peer, n)) :
    (peer, n) ∈ ((initial m).run (front ++ .accept peer :: back)).module.clients ↔
      ∀ before action after, back = before ++ action :: after → ∀ k, k ≠ n →
        ¬ Removes ((initial m).run (front ++ .accept peer :: before)) action (peer, k) := by
  have hsplit (actions : List Action) : (initial m).run (front ++ .accept peer :: actions) =
      (((initial m).run front).step (.accept peer)).run actions := run_append _ _ _
  have hsound : (((initial m).run front).step (.accept peer)).Sound m :=
    ((sound_initial h).run front).steps (steps_step _ _)
  generalize hs : (initial m).run front = s at hphase hn hsplit hsound
  have haccept : s.step (.accept peer) = { s with module := s.module.accept token peer } := by
    simp only [step, hphase]
  have horigin : (s.step (.accept peer)).origins[n]? = some (peer, token) := by
    subst hn
    simp [haccept, origins, TcpServer.accept, Served.origin]
  have hmem : (peer, n) ∈ (s.step (.accept peer)).module.clients := by
    subst hn
    rw [haccept]
    exact List.mem_append_right _ (List.mem_singleton.2 rfl)
  simp only [hsplit] at hrunning hnewest hown ⊢
  rw [mem_clients_run_iff hsound horigin back hrunning hnewest, and_iff_right hmem]
  constructor
  · intro hkept before action after hback k _
    exact hkept before action after hback k
  · intro hkept before action after hback k hremoves
    by_cases hk : k = n
    · subst hk
      exact hown before action after hback hremoves
    · exact hkept before action after hback k hk hremoves

/-- A peer that connects again after the attendant of its earlier connection has departed. -/
theorem mem_clients_iff_reconnected :
    let config : ModuleConfig := ⟨"hub", typeName, ⟨[("port", .number (.integer 9000))]⟩⟩
    let m : TcpServer := ⟨"hub", "0.0.0.0:9000", .lf, none, [], [], .idle⟩
    let peer : Address := ⟨"10.0.0.1", 5000⟩
    let front : List Action := [.start .root, .opened (.ok ⟨"0.0.0.0", 9000⟩), .accept peer,
      .connection 0 .endOfStream, .attend 0, .depart 0]
    let back : List Action := [.depart 0]
    ofConfig config = .ok m ∧
      ((initial m).run (front ++ .accept peer :: back)).peers = [peer, peer] ∧
      (peer, 1) ∈ ((initial m).run (front ++ .accept peer :: back)).module.clients := by
  intro config m peer front back
  have h : ofConfig config = .ok m := rfl
  have hpeers : ((initial m).run (front ++ .accept peer :: back)).peers = [peer, peer] := by cbv
  have hphase : ((initial m).run front).phase = .accepting ⟨[0]⟩ := by cbv
  have hlength : ((initial m).run front).module.served.length = 1 := by cbv
  have hrunning : ((initial m).run (front ++ .accept peer :: back)).tokens.isCancelled ⟨[0]⟩ =
      false := by cbv
  have hnewest (k : Nat) (hk : 1 < k) :
      ((initial m).run (front ++ .accept peer :: back)).peers[k]? ≠ some peer := by
    rw [hpeers, List.getElem?_eq_none (by exact hk)]
    exact (Option.some_ne_none peer).symm
  -- The attendant of the earlier connection has departed before, so that it removes nothing now.
  have hover : (((initial m).run (front ++ [.accept peer])).module.served[0]?).map
      Served.attendance = some .over := by cbv
  have hkept (k : Nat) : ∀ before action after, back = before ++ action :: after →
      ¬ Removes ((initial m).run (front ++ .accept peer :: before)) action (peer, k) := by
    refine forall_split_cons_iff.2 ⟨?_, fun _ _ _ hnil => ?_⟩
    case refine_2 => cases (List.append_eq_nil_iff.1 hnil.symm).2
    intro hremoves
    generalize (peer, k) = target at hremoves
    cases hremoves with
    | departs hsv hleaving =>
      rw [hsv, Option.map_some, hleaving] at hover
      cases hover
  refine ⟨h, hpeers, (mem_clients_iff h hphase hlength hrunning hnewest (hkept 1)).2 ?_⟩
  intro before action after hback k _
  exact hkept k before action after hback

/-- A peer connects again from its address before its earlier connection is done with. In the first
run the attendant of the earlier connection departs late, in the second a message that was on its
way to the earlier connection is refused. Both times the table loses the later connection, although
it is attended and nothing was sent to it, and for want of a sender that connection then gives
up. -/
theorem latest_connection_leaves_table :
    let config : ModuleConfig := ⟨"hub", typeName, ⟨[("port", .number (.integer 9000))]⟩⟩
    let m : TcpServer := ⟨"hub", "0.0.0.0:9000", .lf, none, [], [], .idle⟩
    let peer : Address := ⟨"10.0.0.1", 5000⟩
    let opening : List Action := [.start .root, .opened (.ok ⟨"0.0.0.0", 9000⟩), .accept peer]
    let late : List Action := [.connection 0 .endOfStream, .attend 0, .accept peer, .depart 0]
    let refused : List Action :=
      [.output (.bytes [0x61]), .connection 0 .endOfStream, .connection 0 .clear,
        .connection 0 .finish, .accept peer, .deliver 0, .deliver 0]
    ofConfig config = .ok m ∧ ∀ actions ∈ [opening ++ late, opening ++ refused],
      ((initial m).run actions).peers = [peer, peer] ∧
        ((initial m).run actions).tokens.isCancelled ⟨[0]⟩ = false ∧
        (((initial m).run actions).module.served[1]?).map Served.attendance = some .attending ∧
        (((initial m).run actions).module.served[1]?).map Served.connection = some .fresh ∧
        ((initial m).run actions).module.clients = [] ∧
        (((initial m).run (actions ++ [.connection 1 .abandoned])).module.served[1]?).map
          (·.connection.stage) = some .leaving := by
  intro config m peer opening late refused
  refine ⟨rfl, ?_⟩
  rw [List.forall_mem_cons, List.forall_mem_singleton]
  constructor
  · exact ⟨by cbv, by cbv, by cbv, by cbv, by cbv, by cbv⟩
  · exact ⟨by cbv, by cbv, by cbv, by cbv, by cbv, by cbv⟩

end Switchboard.TcpServer.Service
