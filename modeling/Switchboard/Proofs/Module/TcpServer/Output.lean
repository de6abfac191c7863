import Switchboard.Proofs.Module.Submission
import Switchboard.Proofs.Module.TcpServer.Awaiting

/-!
# What a server does with a payload

A payload goes to every connection of the table, in the order in which the table is gone through.
Going through connections of different numbers queues the message once at each whose sender takes it
and takes the peers of those that refuse from the table; since a table has one connection for each
peer, it keeps exactly the others. A connection whose queue is full keeps the message, and all
connections behind it, waiting until it has room or ends.
-/

namespace Switchboard.TcpServer

variable {m : TcpServer} {config : ModuleConfig} {message : Bytes} {d : Delivery} {n : Nat}
variable {client target : Address × Nat} {targets : List (Address × Nat)} {p : Payload}
variable {change : Nat → Served → Served} {live : Nat → Bool}

/-! ## The table -/

/-- The table has one connection for each of its peers, and each is that of its own peer. No peer
comes twice. Each entry gives the number of a connection of its peer. -/
structure Tabled (m : TcpServer) : Prop where
  peers : (m.clients.map Prod.fst).Nodup
  served : ∀ client ∈ m.clients, ∃ sv, m.served[client.2]? = some sv ∧ sv.peer = client.1

/-- Entries of one number are the same. -/
theorem Tabled.eq_of_number_eq (h : m.Tabled) (hclient : client ∈ m.clients)
    (htarget : target ∈ m.clients) (heq : client.2 = target.2) : client = target := by
  obtain ⟨sv, hsv, hpeer⟩ := h.served client hclient
  obtain ⟨sv', hsv', hpeer'⟩ := h.served target htarget
  rw [heq, hsv'] at hsv
  obtain rfl := Option.some.inj hsv
  exact Prod.ext (hpeer.symm.trans hpeer') heq

theorem Tabled.numbers (h : m.Tabled) : (m.clients.map Prod.snd).Nodup :=
  List.Nodup.map_on (fun _ hclient _ htarget => h.eq_of_number_eq hclient htarget)
    (List.Nodup.of_map _ h.peers)

theorem Tabled.lt (h : m.Tabled) (hclient : client ∈ m.clients) : client.2 < m.served.length :=
  let ⟨_, hsv, _⟩ := h.served client hclient
  (List.getElem?_eq_some_iff.1 hsv).1

/-- The server when entries of its table have been gone through: their connections have become what
`change` says, and those that are not live are no longer in the table. -/
def after (m : TcpServer) (change : Nat → Served → Served) (live : Nat → Bool)
    (targets : List (Address × Nat)) : TcpServer :=
  { m with
    served := m.served.mapIdx fun n sv => if (sv.peer, n) ∈ targets then change n sv else sv
    clients := m.clients.filter fun client => client ∉ targets ∨ live client.2 = true }

/-- Going through entries of a table removes the entries themselves. -/
theorem Tabled.goneThrough_eq_after (h : m.Tabled) (htargets : targets ⊆ m.clients) :
    m.goneThrough change live targets = m.after change live targets := by
  have hserved : (m.goneThrough change live targets).served =
      (m.after change live targets).served := by
    refine List.ext_getElem? fun n => ?_
    rw [goneThrough, after, List.getElem?_mapIdx, List.getElem?_mapIdx]
    cases hsv : m.served[n]? with
    | none => rfl
    | some sv =>
      have hmem : n ∈ targets.map Prod.snd ↔ (sv.peer, n) ∈ targets := by
        constructor
        · intro hn
          obtain ⟨t, ht, rfl⟩ := List.mem_map.1 hn
          obtain ⟨sv', hsv', hpeer⟩ := h.served t (htargets ht)
          obtain rfl := Option.some.inj (hsv.symm.trans hsv')
          rw [hpeer]
          exact ht
        · exact List.mem_map_of_mem
      simp only [Option.map_some, hmem]
  have hclients : (m.goneThrough change live targets).clients =
      (m.after change live targets).clients := by
    refine List.filter_congr fun client hclient => decide_eq_decide.2 ?_
    constructor
    · intro hall
      by_cases htarget : client ∈ targets
      · exact .inr (hall client htarget rfl)
      · exact .inl htarget
    · intro hkept t ht hpeer
      -- A table has no other entry of the same peer.
      obtain rfl := List.inj_on_of_nodup_map h.peers (htargets ht) hclient hpeer
      exact hkept.resolve_left (not_not_intro ht)
  exact congrArg₂ (fun served clients => { m with served, clients }) hserved hclients

/-! ## Messages -/

theorem messageOf_eq_ok {a : Address} (ha : m.listening = some a) (hclients : m.clients ≠ [])
    (hmessage : p = .bytes message ∨ ∃ t, p = .text t ∧ message = Utf8.encode t) :
    m.messageOf p = .ok message := by
  simp [messageOf, ha, hclients, Payload.intoBytes_eq_ok hmessage, Except.mapError]

theorem messageOf_of_not_bytes {a : Address} (ha : m.listening = some a) (hclients : m.clients ≠ [])
    (hbytes : ∀ b, p ≠ .bytes b) (htext : ∀ t, p ≠ .text t) :
    m.messageOf p = .error (.payload ⟨"bytes", p.kind⟩) := by
  simp [messageOf, ha, hclients, Payload.intoBytes_eq_error hbytes htext, Except.mapError]

/-- What handing a message to the connections of the table comes to. -/
theorem Tabled.sendAll_clients (h : m.Tabled) :
    m.sendAll message m.clients = (m.clients.countP fun t => m.takes message t.2,
      m.after (fun _ sv => sv.awaited message) (m.takes message) m.clients) := by
  rw [sendAll_eq (fun t ht => (h.served t ht).imp fun _ hsv => hsv.1) h.numbers,
    h.goneThrough_eq_after (List.Subset.refl _)]

namespace Service

variable {s s' : Service} {action : Action} {k : Nat}

/-- What the sender of the connection of a number answers when it is given a message, behind those
that wait in its line. -/
def sends (s : Service) (message : Bytes) (n : Nat) : Connection.Sent :=
  match s.module.served[n]? with
  | some sv => (sv.connection.send (s.line n).length message).1
  | none => .refused .notConnected

/-- The server when a message has been given to the senders of some entries of the table: the live
ones have queued it once, and those that have refused it are no longer in the table. -/
def afterSending (s : Service) (message : Bytes) (targets : List (Address × Nat)) : TcpServer :=
  s.module.after (fun n sv => if s.sends message n = .queued then sv.queued message else sv)
    (fun n => s.sends message n = .queued) targets

/-- What a server in service does with a payload when nothing else happens. It takes none while it is
not listening, whatever the payload is, nor while its table is empty, and sends nothing but bytes and
texts: then nothing changes. A connection that is connected and has not ended is live when there is
room in its queue for the message and for those that wait in its line, and full when there is none.
If no connection of the table is full, every live one has the message queued once, exactly the others
are taken from the table, and the answer tells whether there was a live one. If one is full, this
happens to those before the first full one, where the delivery waits: none of its own steps changes
anything from then on, nothing is answered, and the full one and those behind it get nothing. -/
structure Broadcasts (s : Service) (p : Payload) : Prop where
  notListening : s.module.listening = none →
    s.module.output p =
        (.error (.notReady ("TCP server " ++ s.module.id ++ " is not listening")), s.module) ∧
      s.step (.output p) = s
  noClients : s.module.listening ≠ none → s.module.clients = [] →
    s.module.output p =
        (.error (.notReady ("TCP server " ++ s.module.id ++ " has no connected clients")),
          s.module) ∧
      s.step (.output p) = s
  mismatch : s.module.listening ≠ none → s.module.clients ≠ [] → (∀ b, p ≠ .bytes b) →
    (∀ t, p ≠ .text t) →
      s.module.output p = (.error (.payload ⟨"bytes", p.kind⟩), s.module) ∧
        s.step (.output p) = s
  answer : ∀ message n sv, s.module.served[n]? = some sv →
    (s.sends message n = .queued ↔ sv.connection.connected = true ∧ sv.connection.stage ≠ .ended ∧
        sv.connection.queue.length + (s.line n).length < 1000) ∧
      (s.sends message n = .waits ↔ sv.connection.connected = true ∧ sv.connection.stage ≠ .ended ∧
        1000 ≤ sv.connection.queue.length + (s.line n).length)
  sent : s.module.listening ≠ none → s.module.clients ≠ [] → ∀ message,
    (p = .bytes message ∨ ∃ t, p = .text t ∧ message = Utf8.encode t) →
    (∀ client ∈ s.module.clients, s.sends message client.2 ≠ .waits) →
      (s.afterSending message s.module.clients).clients =
          s.module.clients.filter (fun client => s.sends message client.2 = .queued) ∧
        ∃ count, s.run (.output p :: List.replicate count (.deliver s.deliveries.length)) =
          { s with
            module := s.afterSending message s.module.clients
            answers := s.answers ++
              [if ∃ client ∈ s.module.clients, s.sends message client.2 = .queued then .ok ()
                else .error (.connectionFailed
                  ("TCP server " ++ s.module.id ++ " could not reach any client"))] }
  waits : s.module.listening ≠ none → ∀ message,
    (p = .bytes message ∨ ∃ t, p = .text t ∧ message = Utf8.encode t) →
    ∀ before client behind, s.module.clients = before ++ client :: behind →
    (∀ t ∈ before, s.sends message t.2 ≠ .waits) → s.sends message client.2 = .waits →
      ∃ count place,
        let s' := s.run (.output p :: List.replicate count (.deliver s.deliveries.length))
        s' = { s with
            module := s.afterSending message before
            deliveries := s.deliveries ++
              [⟨message, client :: behind,
                before.countP fun t => s.sends message t.2 = .queued, none, some place⟩] } ∧
          s'.step (.deliver s.deliveries.length) = s'

/-- What a server does with a message when the connections that it waits for write or end. A
connection takes the message if it is connected and reads or has room. It has written the first of
its queue, if there was no room, and has the message queued behind what is left; exactly the others
are taken from the table, and the answer tells whether one has taken it. A delivery in service comes
to the same by its own steps and those of the connections, when nobody else waits in line. -/
structure Completes (s : Service) (p : Payload) (message : Bytes) : Prop where
  takes : ∀ n sv, s.module.served[n]? = some sv → (s.module.takes message n = true ↔
    sv.connection.connected = true ∧ sv.connection.stage ≠ .ended ∧
      (sv.connection.stage = .active ∨ sv.connection.queue.length < 1000))
  gains : ∀ n sv, s.module.served[n]? = some sv →
    ∃ done, sv.connection.queue ++ (if s.module.takes message n then [message] else []) =
        done ++ (sv.awaited message).connection.queue ∧
      (sv.awaited message).connection.written =
        sv.connection.written ++ done.flatMap sv.framer.encode
  output : s.module.output p =
    (if ∃ client ∈ s.module.clients, s.module.takes message client.2 = true then .ok ()
      else .error (.connectionFailed
        ("TCP server " ++ s.module.id ++ " could not reach any client")),
      { s.module with
        served := s.module.served.mapIdx fun n sv =>
          if (sv.peer, n) ∈ s.module.clients then sv.awaited message else sv
        clients := s.module.clients.filter fun client => s.module.takes message client.2 })
  run : (∀ d ∈ s.deliveries, d.place = none) →
    ∃ own, (∀ a ∈ own, a = .deliver s.deliveries.length ∨
        ∃ client ∈ s.module.clients, ∃ step, a = .connection client.2 step) ∧
      s.run (.output p :: own) =
        { s with
          module := (s.module.output p).2
          answers := s.answers ++ [(s.module.output p).1] }

/-! ### The beginning -/

theorem step_output_of_error {e : ModuleError} (h : s.module.messageOf p = .error e) :
    s.module.output p = (.error e, s.module) ∧ s.step (.output p) = s := by
  have hbegin : s.module.begin p = .error e := congrArg (Except.map _) h
  constructor
  · simp only [TcpServer.output, h]
  · simp only [step, hbegin]

theorem step_output (h : s.module.messageOf p = .ok message) :
    s.step (.output p) =
      { s with deliveries := s.deliveries ++ [⟨message, s.module.clients, 0, none, none⟩] } := by
  have hbegin : s.module.begin p = .ok ⟨message, s.module.clients, 0, none, none⟩ :=
    congrArg (Except.map _) h
  simp only [step, hbegin]

/-- A delivery that has just begun is answered as a sender is that comes now. -/
theorem answerTo_begun (message : Bytes) (n : Nat) :
    answerTo { s with deliveries := s.deliveries ++ [⟨message, s.module.clients, 0, none, none⟩] }
      ⟨message, s.module.clients, 0, none, none⟩ n = s.sends message n := by
  have hplace : Delivery.placeAt ⟨message, s.module.clients, 0, none, none⟩ n = none :=
    placeAt_of_none rfl n
  have hline : line
      { s with deliveries := s.deliveries ++ [⟨message, s.module.clients, 0, none, none⟩] } n =
        s.line n := by
    rw [line, line, List.filterMap_append]
    simp [hplace]
  simp only [answerTo, sends, hplace, hline]
  rfl

theorem sentTo_begun (h : s.module.Tabled) (htargets : targets ⊆ s.module.clients) :
    sentTo { s with deliveries := s.deliveries ++ [⟨message, s.module.clients, 0, none, none⟩] }
      ⟨message, s.module.clients, 0, none, none⟩ targets = s.afterSending message targets := by
  rw [sentTo, h.goneThrough_eq_after htargets]
  simp only [answerTo_begun]
  rfl

/-- What the sender of a connection answers, in terms of the connection and of its line. -/
theorem sends_eq {sv : Served} (hsv : s.module.served[n]? = some sv) (message : Bytes) :
    s.sends message n = (sv.connection.send (s.line n).length message).1 := by
  simp only [sends, hsv]

theorem countTo_begun (message : Bytes) (targets : List (Address × Nat)) :
    countTo { s with deliveries := s.deliveries ++ [⟨message, s.module.clients, 0, none, none⟩] }
      ⟨message, s.module.clients, 0, none, none⟩ targets =
        targets.countP fun t => s.sends message t.2 = .queued := by
  simp only [countTo, answerTo_begun]

theorem answer_countP (targets : List (Address × Nat)) (live : Nat → Bool) :
    m.answer (targets.countP fun t => live t.2) =
      if ∃ t ∈ targets, live t.2 = true then .ok ()
      else .error (.connectionFailed ("TCP server " ++ m.id ++ " could not reach any client")) := by
  rw [answer]
  by_cases hlive : ∃ t ∈ targets, live t.2 = true
  · rw [if_pos hlive, if_neg (Nat.ne_of_gt (List.countP_pos_iff.2 hlive))]
  · rw [if_neg hlive, if_pos]
    rw [List.countP_eq_zero]
    exact fun t ht hyes => hlive ⟨t, ht, hyes⟩

theorem goesOn_begun (h : s.module.Tabled) (message : Bytes) :
    GoesOn { s with deliveries := s.deliveries ++ [⟨message, s.module.clients, 0, none, none⟩] }
      s.deliveries.length ⟨message, s.module.clients, 0, none, none⟩ :=
  goesOn List.getElem?_concat_length rfl
    (fun t ht => (h.served t ht).imp fun _ hsv => hsv.1) h.numbers

theorem broadcasts_of_tabled (h : s.module.Tabled) (p : Payload) : s.Broadcasts p where
  notListening := fun hlistening =>
    step_output_of_error (by simp [messageOf, hlistening])
  noClients := by
    intro hlistening hclients
    obtain ⟨a, ha⟩ := Option.ne_none_iff_exists'.1 hlistening
    exact step_output_of_error (by simp [messageOf, ha, hclients])
  mismatch := by
    intro hlistening hclients hbytes htext
    obtain ⟨a, ha⟩ := Option.ne_none_iff_exists'.1 hlistening
    exact step_output_of_error (messageOf_of_not_bytes ha hclients hbytes htext)
  answer := by
    intro message n sv hsv
    rw [sends_eq hsv]
    exact ⟨Connection.send_eq_queued_iff, Connection.send_eq_waits_iff⟩
  sent := by
    intro hlistening hclients message hmessage hroom
    obtain ⟨a, ha⟩ := Option.ne_none_iff_exists'.1 hlistening
    have hbegun := step_output (messageOf_eq_ok ha hclients hmessage)
    constructor
    · refine List.filter_congr fun client hclient => ?_
      simp [hclient]
    · obtain ⟨count, hrun⟩ := (goesOn_begun h message).returns fun t ht => by
        rw [answerTo_begun]
        exact hroom t ht
      have hanswer := answer_countP (m := s.module) s.module.clients
        fun n => s.sends message n = .queued
      simp only [decide_eq_true_eq] at hanswer
      refine ⟨count, ?_⟩
      change (s.step (.output p)).run _ = _
      rw [hbegun, hrun, sentTo_begun h (List.Subset.refl _), countTo_begun, Nat.zero_add,
        eraseIdx_concat_length, hanswer]
  waits := by
    intro hlistening message hmessage before client behind hclients hroom hwaits
    obtain ⟨a, ha⟩ := Option.ne_none_iff_exists'.1 hlistening
    have hne : s.module.clients ≠ [] := by simp [hclients]
    have hbegun := step_output (messageOf_eq_ok ha hne hmessage)
    obtain ⟨count, place, hrun, hstays⟩ := (goesOn_begun h message).waits before client behind
      hclients (fun t ht => by rw [answerTo_begun]; exact hroom t ht)
      (by rw [answerTo_begun]; exact hwaits)
    refine ⟨count, place, ?_, ?_⟩
    · change (s.step (.output p)).run _ = _
      have hbefore : before ⊆ s.module.clients := hclients ▸ List.subset_append_left _ _
      rw [hbegun, hrun, sentTo_begun h hbefore, countTo_begun, Nat.zero_add]
      simp
    · change ((s.step (.output p)).run _).step _ = (s.step (.output p)).run _
      rw [hbegun]
      exact hstays

/-! ### Messages that are waited for -/

/-- A connection takes a message if it is connected and reads or has room. -/
theorem takes_iff {sv : Served} (hsv : m.served[n]? = some sv) :
    m.takes message n = true ↔ sv.connection.connected = true ∧ sv.connection.stage ≠ .ended ∧
      (sv.connection.stage = .active ∨ sv.connection.queue.length < 1000) := by
  simp only [takes, hsv, decide_eq_true_eq]
  exact Connection.await_eq_queued_iff

theorem gains_awaited {sv : Served} (hsv : m.served[n]? = some sv) :
    ∃ done, sv.connection.queue ++ (if m.takes message n then [message] else []) =
        done ++ (sv.awaited message).connection.queue ∧
      (sv.awaited message).connection.written =
        sv.connection.written ++ done.flatMap sv.framer.encode := by
  have hawaits := Connection.awaits_await sv.framer sv.connection message
  simp only [takes, hsv, Served.awaited]
  generalize sv.connection.await sv.framer message = result at hawaits ⊢
  obtain ⟨sent, f, c⟩ := result
  cases hawaits with
  | refused | ended | queued => exact ⟨[], by simp⟩
  | relieved count =>
    refine ⟨sv.connection.queue.take count, ?_, rfl⟩
    rw [← List.append_assoc, List.take_append_drop]
    rfl

theorem completes_of_tabled (h : s.module.Tabled) (hlistening : s.module.listening ≠ none)
    (hclients : s.module.clients ≠ [])
    (hmessage : p = .bytes message ∨ ∃ t, p = .text t ∧ message = Utf8.encode t) :
    s.Completes p message where
  takes := fun _ _ hsv => takes_iff hsv
  gains := fun _ _ hsv => gains_awaited hsv
  output := by
    obtain ⟨a, ha⟩ := Option.ne_none_iff_exists'.1 hlistening
    simp only [TcpServer.output, messageOf_eq_ok ha hclients hmessage, h.sendAll_clients,
      answer_countP]
    have hkept : (s.module.clients.filter fun client =>
        client ∉ s.module.clients ∨ s.module.takes message client.2 = true) =
          s.module.clients.filter fun client => s.module.takes message client.2 :=
      List.filter_congr fun client hclient => by simp [hclient]
    rw [after, hkept]
  run := by
    intro hplaces
    obtain ⟨a, ha⟩ := Option.ne_none_iff_exists'.1 hlistening
    have hok := messageOf_eq_ok ha hclients hmessage
    obtain ⟨own, hown, hrun⟩ := exists_run_sendAll (k := s.deliveries.length)
      (s := { s with
        deliveries := s.deliveries ++ [⟨message, s.module.clients, 0, none, none⟩] })
      (d := ⟨message, s.module.clients, 0, none, none⟩)
      (by
        intro d hd
        rcases List.mem_append.1 hd with hd | hd
        · exact hplaces d hd
        · rw [List.mem_singleton.1 hd])
      List.getElem?_concat_length rfl rfl fun t ht => h.lt ht
    refine ⟨own, hown, ?_⟩
    change (s.step (.output p)).run own = _
    have hanswer : (s.module.sendAll message s.module.clients).2.answer = s.module.answer := by
      rw [h.sendAll_clients]
      rfl
    rw [step_output hok, hrun, eraseIdx_concat_length, Nat.zero_add]
    simp only [TcpServer.output, hok, hanswer]

/-! ### Runs -/

/-- No step brings a peer into the table that is there already. -/
theorem Steps.peers_nodup (h : Steps s action s')
    (hs : (s.module.clients.map Prod.fst).Nodup) : (s'.module.clients.map Prod.fst).Nodup := by
  have hforget (peer : Address) : ((s.module.forget peer).clients.map Prod.fst).Nodup :=
    hs.sublist ((List.filter_sublist (l := s.module.clients)).map Prod.fst)
  cases h with
  | control _ _ _ hclients => exact (hclients.map Prod.fst).nodup_iff.2 hs
  | @accept token peer =>
    rw [TcpServer.accept, List.map_append, List.map_singleton, ← List.concat_eq_append]
    refine (List.nodup_concat _ _).2 ⟨fun hmem => ?_, hforget peer⟩
    obtain ⟨client, hclient, hpeer⟩ := List.mem_map.1 hmem
    exact (mem_forget.1 hclient).2 hpeer
  | change | output | queue | pass | wait | ended | abort => exact hs
  | depart | drop => exact hforget _
  | empty => exact .nil

theorem Names.exists_served (h : s.Names target) :
    ∃ sv, s.module.served[target.2]? = some sv ∧ sv.peer = target.1 := by
  have hpeer := h.peer
  rw [peers, List.getElem?_map, Option.map_eq_some_iff] at hpeer
  exact hpeer

/-- What deliveries need to go on: the table keeps connections by their peers, and no delivery comes
to a connection twice. -/
structure Orderly (s : Service) : Prop where
  peers : (s.module.clients.map Prod.fst).Nodup
  targets : ∀ d ∈ s.deliveries, (d.targets.map Prod.snd).Nodup

theorem Sound.tabled (hsound : s.Sound m) (h : s.Orderly) : s.module.Tabled where
  peers := h.peers
  served := fun client hclient => (hsound.clients client hclient).exists_served

theorem Orderly.steps (h : s.Orderly) (hsound : s.Sound m) (hsteps : Steps s action s') :
    s'.Orderly where
  peers := hsteps.peers_nodup h.peers
  targets := by
    have hset {k : Nat} {d d' : Delivery} (hd : s.deliveries[k]? = some d)
        (htargets : d'.targets.Sublist d.targets) :
        ∀ d'' ∈ s.deliveries.set k d', (d''.targets.map Prod.snd).Nodup := by
      intro d'' hmem
      rcases List.mem_or_eq_of_mem_set hmem with hmem | rfl
      · exact h.targets d'' hmem
      · exact (h.targets d (List.mem_of_getElem? hd)).sublist (htargets.map Prod.snd)
    cases hsteps with
    | control | accept | change | depart | empty | abort => exact h.targets
    | output hbegin =>
      intro d hmem
      rcases List.mem_append.1 hmem with hmem | hmem
      · exact h.targets d hmem
      · obtain ⟨message, -, hd⟩ := exists_of_begin hbegin
        rw [List.mem_singleton.1 hmem, hd]
        exact (hsound.tabled h).numbers
    | drop hd | wait hd => exact hset hd (.refl _)
    | queue hd _ htargets hrest | pass hd _ htargets hrest =>
      exact hset hd (by rw [htargets, hrest]; exact List.sublist_cons_self _ _)
    | ended => exact fun d hmem => h.targets d (List.mem_of_mem_eraseIdx hmem)

theorem Orderly.run (h : s.Orderly) (hsound : s.Sound m) (actions : List Action) :
    (s.run actions).Orderly := by
  induction actions generalizing s with
  | nil => exact h
  | cons action rest ih =>
    have hsteps := s.steps_step action
    exact ih (h.steps hsound hsteps) (hsound.steps hsteps)

theorem orderly_initial (h : ofConfig config = .ok m) : (initial m).Orderly where
  peers := by
    rw [initial, (connections_of_ofConfig h).2]
    exact .nil
  targets := nofun

/-- A delivery that is on its way can go on. -/
theorem Orderly.goesOn (h : s.Orderly) (hsound : s.Sound m) (hd : s.deliveries[k]? = some d)
    (hrefused : d.refused = none) : s.GoesOn k d := by
  have hmem := List.mem_of_getElem? hd
  refine Service.goesOn hd hrefused (fun t ht => ?_) (h.targets d hmem)
  exact (hsound.deliveries d hmem t (.inl ht)).exists_served.imp fun _ hsv => hsv.1

/-- **A payload reaches every live connection of a server once.** Whatever has happened to the server
and in whichever order its table is gone through, it does with a payload what `Broadcasts` says while
nothing else happens, what `Completes` says while the connections that it waits for go on, and a
delivery that has been left waiting, or that something else has come between, goes on as `GoesOn`
says. -/
theorem output_reaches_live_clients_once (h : ofConfig config = .ok m) (actions : List Action)
    {order : List (Address × Nat)} (horder : order.Perm ((initial m).run actions).module.clients)
    (p : Payload) :
    let s := (initial m).run (actions ++ [.reorder order])
    s.module.clients = order ∧ s.Broadcasts p ∧
      (s.module.listening ≠ none → order ≠ [] → ∀ message,
        (p = .bytes message ∨ ∃ t, p = .text t ∧ message = Utf8.encode t) → s.Completes p message) ∧
      ∀ k d, s.deliveries[k]? = some d → d.refused = none → s.GoesOn k d := by
  intro s
  have hclients : s.module.clients = order := by
    simp only [s, run_append]
    change (step _ (.reorder order)).module.clients = order
    simp only [step, List.isPerm_iff.2 horder, if_true]
  have hsound : s.Sound m := (sound_initial h).run _
  have horderly : s.Orderly := (orderly_initial h).run (sound_initial h) _
  have htabled := hsound.tabled horderly
  refine ⟨hclients, broadcasts_of_tabled htabled p, ?_, fun k d => horderly.goesOn hsound⟩
  intro hlistening hne message hmessage
  exact completes_of_tabled htabled hlistening (hclients ▸ hne) hmessage

/-- A server that hands a message to its only connection. -/
theorem run_hand (message : Bytes) {a peer : Address} {sv : Served}
    (hlistening : s.module.listening = some a) (hclients : s.module.clients = [(peer, 0)])
    (hserved : s.module.served = [sv]) (hdeliveries : s.deliveries = [])
    (hconnected : sv.connection.connected = true) (hstage : sv.connection.stage ≠ .ended)
    (hroom : sv.connection.queue.length < Connection.capacity) :
    s.run [.output (.bytes message), .deliver 0, .deliver 0] =
      { s with
        module := { s.module with served := [sv.queued message] }
        answers := s.answers ++ [.ok ()] } := by
  have hne : s.module.clients ≠ [] := by simp [hclients]
  have hmessage : s.module.messageOf (.bytes message) = .ok message :=
    messageOf_eq_ok hlistening hne (.inl rfl)
  have hfirst := step_output hmessage
  rw [hdeliveries, hclients, List.nil_append] at hfirst
  have hsend : sv.connection.send 0 message =
      (.queued, { sv.connection with queue := sv.connection.queue ++ [message] }) := by
    rw [Connection.send, if_pos hconnected, Connection.enqueue_of_lt hstage hroom]
  simp only [run, List.foldl_cons, List.foldl_nil, hfirst]
  simp [step, deliver, TcpServer.offer, hserved, Connection.offer, line, Delivery.placeAt,
    Connection.ahead, hsend, update, answer, Served.queued, hdeliveries]

/-- A server that hands messages to its only connection, which writes none of them. -/
theorem run_hand_replicate (message : Bytes) (count : Nat) {a peer : Address} {sv : Served}
    (hlistening : s.module.listening = some a) (hclients : s.module.clients = [(peer, 0)])
    (hserved : s.module.served = [sv]) (hdeliveries : s.deliveries = [])
    (hconnected : sv.connection.connected = true) (hstage : sv.connection.stage ≠ .ended)
    (hroom : sv.connection.queue.length + count ≤ Connection.capacity) :
    s.run (List.replicate count [.output (.bytes message), .deliver 0, .deliver 0]).flatten =
      { s with
        module := { s.module with
          served := [{ sv with connection := { sv.connection with
            queue := sv.connection.queue ++ List.replicate count message } }] }
        answers := s.answers ++ List.replicate count (.ok ()) } := by
  induction count generalizing s sv with
  | zero =>
    simp only [List.replicate_zero, List.flatten_nil, List.append_nil, ← hserved]
    rfl
  | succ count ih =>
    have hfirst := run_hand message hlistening hclients hserved hdeliveries hconnected
      hstage (Nat.lt_of_lt_of_le (Nat.lt_add_of_pos_right (Nat.succ_pos count)) hroom)
    rw [List.replicate_succ, List.flatten_cons, run_append, hfirst]
    refine Eq.trans (ih ?_ ?_ (show _ = [sv.queued message] from rfl) ?_ hconnected hstage ?_) ?_
    · exact hlistening
    · exact hclients
    · exact hdeliveries
    · simp only [Served.queued, List.length_append, List.length_singleton]
      omega
    · simp [Served.queued, List.replicate_succ]

/-- Three connections of which one has ended and the others have room, and a connection alone that is
full. -/
theorem output_reaches_live_clients_once_gone_or_full :
    let config : ModuleConfig := ⟨"hub", typeName, ⟨[("port", .number (.integer 9000))]⟩⟩
    let m : TcpServer := ⟨"hub", "0.0.0.0:9000", .lf, none, [], [], .idle⟩
    let peer (port : Nat) : Address := ⟨"10.0.0.1", port⟩
    let opening : List Action :=
      [.start .root, .opened (.ok ⟨"0.0.0.0", 9000⟩), .accept (peer 5000)]
    let more : List Action := [.accept (peer 5001), .accept (peer 5002),
      .connection 1 .endOfStream, .connection 1 .clear, .connection 1 .finish]
    let order : List (Address × Nat) := [(peer 5002, 2), (peer 5001, 1), (peer 5000, 0)]
    let filling : List Action :=
      (List.replicate 1000 [.output (.bytes []), .deliver 0, .deliver 0]).flatten
    let roomy := (initial m).run ((opening ++ more) ++ [.reorder order])
    let full := (initial m).run ((opening ++ filling) ++ [.reorder [(peer 5000, 0)]])
    ofConfig config = .ok m ∧
      roomy.module.clients = order ∧
      (∃ count, roomy.run (.output (.text "hi") :: List.replicate count (.deliver 0)) =
        { roomy with module := roomy.afterSending [0x68, 0x69] order, answers := [.ok ()] }) ∧
      (roomy.afterSending [0x68, 0x69] order).clients = [(peer 5002, 2), (peer 5000, 0)] ∧
      (roomy.afterSending [0x68, 0x69] order).served.map (·.connection.queue) =
        [[[0x68, 0x69]], [], [[0x68, 0x69]]] ∧
      full.module.clients = [(peer 5000, 0)] ∧
      (∃ count place, full.run (.output (.text "hi") :: List.replicate count (.deliver 0)) =
        { full with
          module := full.afterSending [0x68, 0x69] []
          deliveries := [⟨[0x68, 0x69], [(peer 5000, 0)], 0, none, some place⟩] }) ∧
      (full.module.output (.text "hi")).1 = .ok () := by
  intro config m peer opening more order filling roomy full
  have hroomy : roomy = (initial m).run ((opening ++ more) ++ [.reorder order]) := rfl
  have hfull : full = (initial m).run ((opening ++ filling) ++ [.reorder [(peer 5000, 0)]]) := rfl
  clear_value roomy full
  have h : ofConfig config = .ok m := rfl
  have hmessage : (Payload.text "hi" = .bytes [0x68, 0x69]) ∨
      ∃ t, Payload.text "hi" = .text t ∧ ([0x68, 0x69] : Bytes) = Utf8.encode t :=
    .inr ⟨"hi", rfl, by decide +kernel⟩
  -- A server of which all connections have room.
  have horder : order.Perm ((initial m).run (opening ++ more)).module.clients :=
    List.isPerm_iff.1 (by decide +kernel)
  have hmain := output_reaches_live_clients_once h (opening ++ more) horder (.text "hi")
  simp only at hmain
  rw [← hroomy] at hmain
  obtain ⟨hclients, hbroadcasts, -⟩ := hmain
  have hlistening : roomy.module.listening ≠ none := by
    rw [hroomy]
    decide +kernel
  have hroom : ∀ client ∈ order, roomy.sends [0x68, 0x69] client.2 ≠ .waits := by
    rw [hroomy]
    decide +kernel
  have hlive : ∃ client ∈ order, roomy.sends [0x68, 0x69] client.2 = .queued := by
    rw [hroomy]
    decide +kernel
  have hbegun : roomy.deliveries.length = 0 ∧ roomy.answers.length = 0 := by
    rw [hroomy]
    decide +kernel
  have hafter :
      (roomy.afterSending [0x68, 0x69] order).clients = [(peer 5002, 2), (peer 5000, 0)] ∧
        (roomy.afterSending [0x68, 0x69] order).served.map (·.connection.queue) =
          [[[0x68, 0x69]], [], [[0x68, 0x69]]] := by
    rw [hroomy]
    decide +kernel
  have hne : roomy.module.clients ≠ [] := hclients ▸ List.cons_ne_nil _ _
  obtain ⟨-, count, hsent⟩ :=
    hbroadcasts.sent hlistening hne [0x68, 0x69] hmessage (hclients ▸ hroom)
  rw [hclients, if_pos hlive, hbegun.1, List.length_eq_zero_iff.1 hbegun.2] at hsent
  refine ⟨h, hclients, ⟨count, hsent⟩, hafter.1, hafter.2, ?_⟩
  -- A server whose only connection has written nothing of a thousand messages.
  have hserved : ((initial m).run opening).module.served =
      [⟨peer 5000, FramingMethod.lf.build, .fresh, ⟨[0]⟩, .attending⟩] := rfl
  have hfilled : (initial m).run (opening ++ filling) = _ :=
    (run_append _ _ _).trans
      (run_hand_replicate [] 1000 rfl rfl hserved rfl rfl (by simp [Connection.fresh])
        (Nat.le_refl _))
  have horder : ([(peer 5000, 0)] : List (Address × Nat)).Perm
      ((initial m).run (opening ++ filling)).module.clients := by
    rw [hfilled]
    exact .refl _
  have hmain := output_reaches_live_clients_once h (opening ++ filling) horder (.text "hi")
  simp only at hmain
  rw [← hfull] at hmain
  rw [run_append, hfilled] at hfull
  obtain ⟨hclients, hbroadcasts, hcompletes, -⟩ := hmain
  have hlistening : full.module.listening ≠ none := by
    rw [hfull]
    exact Option.some_ne_none _
  have hwaits : full.sends [0x68, 0x69] 0 = .waits := by
    rw [hfull]
    decide +kernel
  have htakes : full.module.takes [0x68, 0x69] 0 = true := by
    rw [hfull]
    decide +kernel
  have hbegun : full.deliveries.length = 0 := by
    rw [hfull]
    rfl
  obtain ⟨count', place, hwaiting, -⟩ :=
    hbroadcasts.waits hlistening [0x68, 0x69] hmessage [] (peer 5000, 0) [] hclients (by simp) hwaits
  rw [hbegun, List.length_eq_zero_iff.1 hbegun] at hwaiting
  refine ⟨hclients, ⟨count', place, hwaiting⟩, ?_⟩
  have houtput := (hcompletes hlistening (List.cons_ne_nil _ _) [0x68, 0x69] hmessage).output
  rw [houtput, if_pos]
  rw [hclients]
  exact ⟨_, List.mem_singleton.2 rfl, htakes⟩

end Service

end Switchboard.TcpServer
