import Mathlib
import Switchboard.Proofs.Module.Submission
import Switchboard.Proofs.Module.TcpServer.Reachable

/-!
# Connections of a server do not meet

Whatever the order in which connections are accepted, read, written, attended and ended: what a
server sends on for each of them are the messages of its own chunks under a framer of its own, and
what happens to one connection leaves every other as it is.
-/

namespace Switchboard.TcpServer

open Connection

variable {m : TcpServer} {config : ModuleConfig}

namespace Service

variable {s s' : Service} {action : Action} {n k : Nat} {sv : Served}
variable {chunks sent : List Bytes}

/-! ## One connection through a step -/

/-- The connection of a number, and the messages that have been sent on for it. -/
structure Serves (s : Service) (n : Nat) (sent : List Bytes) (sv : Served) : Prop where
  served : s.module.served[n]? = some sv
  submitted : Submission.ofConnection n s.submitted =
    sent.map fun message => ⟨n, s.module.id, .bytes message⟩

/-- Nothing is read by a connection that a step is not about. -/
theorem readBy_eq_nil_of_about? (habout : s.about? action = some k) (hne : k ≠ n) :
    s.readBy n action = [] := by
  cases action with
  | connection k' step =>
    obtain rfl := Option.some.inj habout
    simp only [readBy, if_neg hne]
  | _ => rfl

theorem readBy_eq_nil_of_none (hn : s.module.served[n]? = none) (action : Action) :
    s.readBy n action = [] := by
  cases action with
  | connection k step =>
    simp only [readBy, hn]
    split <;> rfl
  | _ => rfl

/-- What a step does to connection number `k` it does to none other. -/
theorem Serves.update {svk sv' : Served} {new more : List Bytes} (h : s.Serves n sent sv)
    (hsv : s.module.served[k]? = some svk) (hchanges : Changes s.tokens svk new more sv')
    (hread : s.readBy k action = new) (hother : k ≠ n → s.readBy n action = [])
    (hserved : s'.module.served = s.module.served.set k sv') (hid : s'.module.id = s.module.id)
    (hsubmitted : s'.submitted =
      s.submitted ++ more.map fun message => ⟨k, s.module.id, .bytes message⟩) :
    ∃ more sv', s'.Serves n (sent ++ more) sv' ∧
      Changes s.tokens sv (s.readBy n action) more sv' := by
  by_cases hk : k = n
  · subst hk
    obtain rfl := Option.some.inj (hsv.symm.trans h.served)
    refine ⟨more, sv', ⟨?_, ?_⟩, hread ▸ hchanges⟩
    · rw [hserved, List.getElem?_set_self (List.getElem?_eq_some_iff.1 h.served).1]
    · rw [hsubmitted, Submission.ofConnection_append, h.submitted,
        Submission.ofConnection_map_bytes, hid, List.map_append]
  · refine ⟨[], sv, ⟨?_, ?_⟩, ?_⟩
    · rw [hserved, List.getElem?_set_ne hk, h.served]
    · rw [hsubmitted, Submission.ofConnection_append, h.submitted,
        Submission.ofConnection_map_bytes_of_ne _ _ hk, hid, List.append_nil, List.append_nil]
    · rw [hother hk]
      exact .still

/-- A step changes a connection in one of the ways in which connections change. -/
theorem Serves.step (h : s.Serves n sent sv) (hsound : s.Sound m) (hsteps : Steps s action s') :
    ∃ more sv', s'.Serves n (sent ++ more) sv' ∧
      Changes s.tokens sv (s.readBy n action) more sv' := by
  have hstill : sent ++ [] = sent := List.append_nil sent
  cases hsteps with
  | control hid _ hserved _ _ _ hread =>
    refine ⟨[], sv, ⟨?_, ?_⟩, ?_⟩
    · rw [hserved, h.served]
    · rw [hstill, h.submitted, hid]
    · rw [hread n]
      exact .still
  | accept =>
    have hlt : n < s.module.served.length := (List.getElem?_eq_some_iff.1 h.served).1
    refine ⟨[], sv, ⟨?_, ?_⟩, .still⟩
    · rw [TcpServer.accept, List.getElem?_append_left hlt, h.served]
    · rw [hstill]
      exact h.submitted
  | change habout hsv hread hchanges =>
    exact h.update hsv hchanges hread (readBy_eq_nil_of_about? habout) rfl rfl rfl
  | depart hsv hleaving =>
    exact h.update hsv (.depart hleaving) rfl (fun _ => rfl) rfl rfl (List.append_nil _).symm
  | queue _ _ _ _ _ hsv =>
    exact h.update hsv (.queue _) rfl (fun _ => rfl) rfl rfl (List.append_nil _).symm
  | output | drop | pass | wait | empty =>
    exact ⟨[], sv, ⟨h.served, hstill.symm ▸ h.submitted⟩, .still⟩
  | ended _ hread =>
    rw [hread n]
    exact ⟨[], sv, ⟨h.served, hstill.symm ▸ h.submitted⟩, .still⟩
  | abort hphase =>
    have hmem : sv.origin ∈ s.origins := List.mem_map_of_mem (List.mem_of_getElem? h.served)
    have hcancelled := (hsound.covered _ hmem).resolve_left (by simp [hphase])
    refine ⟨[], { sv with attendance := .over }, ⟨?_, ?_⟩, .abort hcancelled⟩
    · simp [TcpServer.abortAll, h.served]
    · rw [hstill]
      exact h.submitted

/-- Before it is accepted, nothing is read by a connection or sent on for it. -/
theorem Steps.of_none (h : Steps s action s') (hn : s.module.served[n]? = none)
    (hsubmitted : Submission.ofConnection n s.submitted = []) :
    s.readBy n action = [] ∧ Submission.ofConnection n s'.submitted = [] ∧
      (s'.module.served[n]? = none ∨ ∃ peer token, s'.module.served[n]? =
        some ⟨peer, s.module.framing.build, .fresh, token, .attending⟩) := by
  have hle : s.module.served.length ≤ n := List.getElem?_eq_none_iff.1 hn
  have hset (k : Nat) (sv : Served) : (s.module.served.set k sv)[n]? = none := by
    rw [List.getElem?_eq_none_iff, List.length_set]
    exact hle
  refine ⟨readBy_eq_nil_of_none hn action, ?_⟩
  cases h with
  | control _ _ hserved =>
    refine ⟨hsubmitted, .inl ?_⟩
    rw [hserved, hn]
  | @accept token peer =>
    refine ⟨hsubmitted, ?_⟩
    rcases Nat.eq_or_lt_of_le hle with rfl | hlt
    · refine .inr ⟨peer, token, ?_⟩
      simp [TcpServer.accept]
    · refine .inl ?_
      simp only [TcpServer.accept, List.getElem?_eq_none_iff, List.length_append,
        List.length_singleton]
      exact hlt
  | @change _ k _ _ _ more _ hsv =>
    have hk : k ≠ n := by
      rintro rfl
      cases hn.symm.trans hsv
    refine ⟨?_, .inl (hset _ _)⟩
    rw [Submission.ofConnection_append, hsubmitted,
      Submission.ofConnection_map_bytes_of_ne _ _ hk, List.append_nil]
  | depart | queue => exact ⟨hsubmitted, .inl (hset _ _)⟩
  | output | drop | pass | wait | ended | empty => exact ⟨hsubmitted, .inl hn⟩
  | abort =>
    refine ⟨hsubmitted, .inl ?_⟩
    simp [TcpServer.abortAll, hn]

/-! ## One connection through a run -/

/-- What holds of a connection that has read some chunks and for which some messages have been sent
on, under a framer that was built as `start`. What has been sent on is what its attendant has taken
of the messages of the chunks. While it reads, its framer is what its chunks have made of it. -/
structure Faithful (start : Framer) (tokens : Cancellations) (chunks sent : List Bytes)
    (sv : Served) : Prop where
  follows : Follows start chunks sent sv.connection.stage sv.connection.events
    (sv.attendance = .attending) (tokens.isCancelled sv.token = true)
  framer : sv.connection.stage = .active → (start.consume chunks).2 = .ok sv.framer

theorem faithful_fresh (start : Framer) (tokens : Cancellations) (peer : Address) (token : Token) :
    Faithful start tokens [] [] ⟨peer, start, .fresh, token, .attending⟩ where
  follows := follows_fresh start rfl
  framer := fun _ => rfl

theorem Faithful.changes {start : Framer} {tokens : Cancellations} {new more : List Bytes}
    {sv' : Served} (h : Faithful start tokens chunks sent sv)
    (hchanges : Changes tokens sv new more sv') :
    Faithful start tokens (chunks ++ new) (sent ++ more) sv' := by
  cases hchanges with
  | still | queue =>
    rw [List.append_nil, List.append_nil]
    exact ⟨h.follows, h.framer⟩
  | moves hheard hmoves =>
    rw [List.append_nil]
    constructor
    case follows =>
      refine h.follows.moves hmoves (fun hattending => hheard ?_) fun _ hnew => ?_
      · rw [hattending]
        simp
      · exact h.framer (hmoves.stage_eq_active (.inl hnew))
    case framer =>
      intro hstage
      exact hmoves.consume_eq_ok (h.framer (hmoves.stage_eq_active (.inr hstage))) hstage
  | take hattending hevents =>
    rw [List.append_nil]
    exact ⟨(hevents ▸ h.follows).take hattending, h.framer⟩
  | leave hattending hover =>
    rw [List.append_nil, List.append_nil]
    exact ⟨.complete (by simp) (h.follows.complete_of_over hattending hover), h.framer⟩
  | dismiss hattending hcancelled =>
    rw [List.append_nil, List.append_nil]
    exact ⟨h.follows.turn (by simp) (fun _ => .inr hcancelled), h.framer⟩
  | depart hleaving =>
    rw [List.append_nil, List.append_nil]
    refine ⟨h.follows.turn (by simp) fun hattending => ?_, h.framer⟩
    cases hleaving.symm.trans hattending
  | abort hcancelled =>
    rw [List.append_nil, List.append_nil]
    exact ⟨h.follows.turn (by simp) (fun _ => .inr hcancelled), h.framer⟩

/-- A connection that has read some chunks, or that is still to be accepted. -/
inductive Reached (start : Framer) (n : Nat) (chunks : List Bytes) (s : Service) : Prop where
  | unborn (hserved : s.module.served[n]? = none) (hchunks : chunks = [])
      (hsubmitted : Submission.ofConnection n s.submitted = [])
  | served {sent : List Bytes} {sv : Served} (hserves : s.Serves n sent sv)
      (hfaithful : Faithful start s.tokens chunks sent sv)

theorem Reached.steps (h : Reached m.framing.build n chunks s) (hsound : s.Sound m)
    (hsteps : Steps s action s') : Reached m.framing.build n (chunks ++ s.readBy n action) s' := by
  cases h with
  | unborn hn hchunks hsubmitted =>
    subst hchunks
    obtain ⟨hread, hsubmitted', hn' | ⟨peer, token, hserved⟩⟩ := hsteps.of_none hn hsubmitted
    · exact .unborn hn' hread hsubmitted'
    · have hserves : s'.Serves n [] _ := ⟨hserved, hsubmitted'⟩
      rw [hread, ← hsound.framing]
      exact .served hserves (faithful_fresh _ _ peer token)
  | served hserves hfaithful =>
    obtain ⟨more, sv', hserves', hchanges⟩ := hserves.step hsound hsteps
    have hfaithful' := hfaithful.changes hchanges
    exact .served hserves'
      ⟨hfaithful'.follows.imp_stopped fun h => hsteps.isCancelled h, hfaithful'.framer⟩

theorem Reached.run (h : Reached m.framing.build n chunks s) (hsound : s.Sound m)
    (actions : List Action) :
    Reached m.framing.build n (chunks ++ s.reads n actions) (s.run actions) := by
  induction actions generalizing chunks s with
  | nil =>
    rw [reads, List.append_nil]
    exact h
  | cons action rest ih =>
    have hsteps := s.steps_step action
    rw [reads, ← List.append_assoc]
    exact ih (h.steps hsound hsteps) (hsound.steps hsteps)

/-- What has been sent on for a connection stays as it is when everything has been. -/
theorem Serves.run_of_complete {start : Framer} (h : s.Serves n sent sv) (hsound : s.Sound m)
    (hattendance : sv.attendance ≠ .attending)
    (hcomplete : Complete start chunks sent sv.connection.stage) (actions : List Action) :
    ∃ sv', (s.run actions).Serves n sent sv' ∧
      Complete start (chunks ++ s.reads n actions) sent sv'.connection.stage := by
  induction actions generalizing chunks s sv with
  | nil =>
    rw [reads, List.append_nil]
    exact ⟨sv, h, hcomplete⟩
  | cons action rest ih =>
    have hsteps := s.steps_step action
    obtain ⟨more, sv', hserves, hchanges⟩ := h.step hsound hsteps
    obtain ⟨hmore, hcomplete'⟩ := hchanges.complete hattendance hcomplete
    rw [hmore, List.append_nil] at hserves
    rw [reads, ← List.append_assoc]
    exact ih hserves (hsound.steps hsteps) (fun h => hattendance (hchanges.attending h)) hcomplete'

/-! ## The others -/

/-- Among connections of pairwise distinct peers, a peer has one number. -/
theorem Names.eq {peer : Address} {i j : Nat} (hpeers : s.peers.Nodup) (hi : s.Names (peer, i))
    (hj : s.Names (peer, j)) : i = j := by
  have hlt : i < s.peers.length := (List.getElem?_eq_some_iff.1 hi.peer).1
  exact (List.getElem?_inj hlt hpeers).1 (hi.peer.trans hj.peer.symm)

/-- A connection that a step leaves as it is: itself, what has been sent on for it, its place in the
table, and whether anybody holds a sender of it. -/
structure Unchanged (k : Nat) (s s' : Service) : Prop where
  served : s'.module.served[k]? = s.module.served[k]?
  submitted : Submission.ofConnection k s'.submitted = Submission.ofConnection k s.submitted
  clients : ∀ peer, (peer, k) ∈ s'.module.clients ↔ (peer, k) ∈ s.module.clients
  held : s'.isHeld k = s.isHeld k

/-- A sender is held as long as the table and the deliveries keep it. -/
theorem isHeld_eq
    (hclients : ∀ peer, (peer, k) ∈ s'.module.clients ↔ (peer, k) ∈ s.module.clients)
    (hdeliveries : (s'.deliveries.any fun d => d.targets.any fun target => target.2 == k) =
      s.deliveries.any fun d => d.targets.any fun target => target.2 == k) :
    s'.isHeld k = s.isHeld k := by
  have hany (l : List (Address × Nat)) :
      (l.any fun client => client.2 == k) = true ↔ ∃ peer, (peer, k) ∈ l := by
    simp
  have htable : (s'.module.clients.any fun client => client.2 == k) =
      s.module.clients.any fun client => client.2 == k := by
    rw [Bool.eq_iff_iff, hany, hany]
    exact exists_congr hclients
  rw [isHeld, isHeld, htable, hdeliveries]

/-- While peers are pairwise distinct, taking the peer of a connection from the table takes no other
connection from it. -/
theorem Sound.mem_forget_iff {peer peer' : Address} (hsound : s.Sound m) (hpeers : s.peers.Nodup)
    (hn : s.Names (peer, n)) (hne : n ≠ k) :
    (peer', k) ∈ (s.module.forget peer).clients ↔ (peer', k) ∈ s.module.clients := by
  rw [mem_forget, and_iff_left_iff_imp]
  rintro hmem rfl
  exact hne (hn.eq hpeers (hsound.clients _ hmem))

/-- A step about one connection leaves the others as they are, when no two have the same peer. -/
theorem Steps.unchanged (h : Steps s action s') (hsound : s.Sound m) (hpeers : s'.peers.Nodup)
    (habout : s.about? action = some n) (hne : n ≠ k) : Unchanged k s s' := by
  have hold : s.peers.Nodup := hpeers.sublist h.peers_isPrefix.sublist
  cases h with
  | control _ _ hserved hclients =>
    have htable (peer : Address) := hclients.mem_iff (a := (peer, k))
    exact ⟨by rw [hserved], rfl, htable, isHeld_eq htable rfl⟩
  | @accept token peer =>
    obtain rfl := Option.some.inj habout
    have hnew : peer ∉ s.peers := by
      have hdisjoint := (List.nodup_append.1 (by simpa [peers, TcpServer.accept] using hpeers)).2.2
      exact fun hmem => hdisjoint peer hmem peer (List.mem_singleton.2 rfl) rfl
    have htable (peer' : Address) :
        (peer', k) ∈ (s.module.accept token peer).clients ↔ (peer', k) ∈ s.module.clients := by
      have hlast : (peer', k) ∉ [(peer, s.module.served.length)] := by
        rw [List.mem_singleton]
        exact fun h => hne (congrArg Prod.snd h).symm
      rw [TcpServer.accept, List.mem_append, or_iff_left hlast, mem_forget, and_iff_left_iff_imp]
      rintro hmem rfl
      exact hnew (List.mem_of_getElem? (hsound.clients _ hmem).peer)
    refine ⟨?_, rfl, htable, isHeld_eq htable rfl⟩
    -- The new connection has the next number, so that all smaller ones and all greater ones keep.
    rcases Nat.lt_or_gt_of_ne hne with hlt | hlt
    · simp only [TcpServer.accept]
      rw [List.getElem?_eq_none (Nat.le_of_lt hlt), List.getElem?_eq_none]
      rw [List.length_append]
      exact hlt
    · exact List.getElem?_append_left hlt
  | change habout' hsv =>
    obtain rfl := Option.some.inj (habout.symm.trans habout')
    refine ⟨List.getElem?_set_ne hne, ?_, fun _ => Iff.rfl, rfl⟩
    rw [Submission.ofConnection_append, Submission.ofConnection_map_bytes_of_ne _ _ hne,
      List.append_nil]
  | @depart _ sv hsv =>
    obtain rfl := Option.some.inj habout
    have htable (peer : Address) :
        (peer, k) ∈ (s.module.forget sv.peer).clients ↔ (peer, k) ∈ s.module.clients :=
      hsound.mem_forget_iff hold (names_of_served hsv) hne
    exact ⟨List.getElem?_set_ne hne, rfl, htable, isHeld_eq htable rfl⟩
  | output => cases habout
  | @drop i d target hd hrefused =>
    simp only [about?, hd, hrefused] at habout
    obtain rfl := Option.some.inj habout
    have hnames := hsound.deliveries d (List.mem_of_getElem? hd) target (.inr hrefused)
    have htable (peer : Address) :
        (peer, k) ∈ (s.module.forget target.1).clients ↔ (peer, k) ∈ s.module.clients :=
      hsound.mem_forget_iff hold hnames hne
    exact ⟨rfl, rfl, htable, isHeld_eq htable (any_set_eq_any hd rfl)⟩
  | @queue i d d' target rest sv hd hrefused htargets hrest _ hsv =>
    simp only [about?, hd, hrefused, htargets] at habout
    obtain rfl := Option.some.inj habout
    refine ⟨List.getElem?_set_ne hne, rfl, fun _ => Iff.rfl,
      isHeld_eq (fun _ => Iff.rfl) (any_set_eq_any hd ?_)⟩
    rw [htargets, hrest, List.any_cons, beq_false_of_ne hne, Bool.false_or]
  | @pass i d d' target rest hd hrefused htargets hrest =>
    simp only [about?, hd, hrefused, htargets] at habout
    obtain rfl := Option.some.inj habout
    refine ⟨rfl, rfl, fun _ => Iff.rfl, isHeld_eq (fun _ => Iff.rfl) (any_set_eq_any hd ?_)⟩
    rw [htargets, hrest, List.any_cons, beq_false_of_ne hne, Bool.false_or]
  | wait hd =>
    exact ⟨rfl, rfl, fun _ => Iff.rfl, isHeld_eq (fun _ => Iff.rfl) (any_set_eq_any hd rfl)⟩
  | ended habout' => cases habout.symm.trans habout'
  | empty | abort => cases habout

/-! ## The end of a connection -/

/-- The steps that a connection and its attendant take for themselves. -/
inductive IsOwn (n : Nat) : Action → Prop where
  | connection (step : Connection.Step) : IsOwn n (.connection n step)
  | attend : IsOwn n (.attend n)
  | depart : IsOwn n (.depart n)

theorem IsOwn.about?_eq (h : IsOwn n action) (s : Service) : s.about? action = some n := by
  cases h <;> rfl

theorem Unchanged.trans {s'' : Service} (h : Unchanged k s s') (h' : Unchanged k s' s'') :
    Unchanged k s s'' where
  served := h'.served.trans h.served
  submitted := h'.submitted.trans h.submitted
  clients := fun peer => (h'.clients peer).trans (h.clients peer)
  held := h'.held.trans h.held

/-- What a connection does for itself leaves the others as they are. -/
theorem unchanged_run {actions : List Action} (hsound : s.Sound m) (hpeers : s.peers.Nodup)
    (hown : ∀ action ∈ actions, IsOwn n action) (hne : n ≠ k) : Unchanged k s (s.run actions) := by
  induction actions generalizing s with
  | nil => exact ⟨rfl, rfl, fun _ => Iff.rfl, rfl⟩
  | cons action rest ih =>
    have hsteps := s.steps_step action
    have haction := hown action List.mem_cons_self
    have horigins : (s.step action).origins = s.origins := by
      rcases hsteps.origins with horigins | ⟨peer, token, rfl, -⟩
      · exact horigins
      · cases haction
    have hpeers' : (s.step action).peers.Nodup := by
      rwa [peers_eq_map_origins, horigins, ← peers_eq_map_origins]
    have hfirst := hsteps.unchanged hsound hpeers' (haction.about?_eq s) hne
    exact hfirst.trans (ih (hsound.steps hsteps) hpeers'
      fun action haction => hown action (List.mem_cons_of_mem _ haction))

theorem readBy_eq_nil_of_stage (hsv : s.module.served[n]? = some sv)
    (hstage : sv.connection.stage ≠ .active) (action : Action) : s.readBy n action = [] := by
  cases action with
  | connection k step =>
    simp only [readBy, hsv]
    split
    · cases step <;> simp only [Connection.readBy, if_neg hstage]
    · rfl
  | _ => rfl

/-- A connection that has stopped reading never reads again, whatever happens. -/
theorem Serves.run_of_stage (h : s.Serves n sent sv) (hsound : s.Sound m)
    (hstage : sv.connection.stage ≠ .active) (actions : List Action) :
    s.reads n actions = [] ∧
      ∃ sent' sv', (s.run actions).Serves n sent' sv' ∧ sv'.connection.stage ≠ .active := by
  induction actions generalizing s sent sv with
  | nil => exact ⟨rfl, sent, sv, h, hstage⟩
  | cons action rest ih =>
    have hsteps := s.steps_step action
    obtain ⟨more, sv', hserves, hchanges⟩ := h.step hsound hsteps
    have hstage' : sv'.connection.stage ≠ .active := fun h => hstage (hchanges.stage_eq_active h)
    obtain ⟨hreads, hend⟩ := ih hserves (hsound.steps hsteps) hstage'
    refine ⟨?_, hend⟩
    rw [reads, hreads, readBy_eq_nil_of_stage h.served hstage, List.append_nil]

theorem exists_step_connection (hsv : s.module.served[n]? = some sv) (step : Connection.Step) :
    ∃ held heard, (s.step (.connection n step)).module.served[n]? = some
      { sv with
        framer := (sv.connection.step held heard sv.framer step).1
        connection := (sv.connection.step held heard sv.framer step).2 } := by
  refine ⟨s.isHeld n, decide (sv.attendance ≠ .over), ?_⟩
  simp only [Service.step, hsv]
  exact List.getElem?_set_self (List.getElem?_eq_some_iff.1 hsv).1

/-- The attendant takes the event that has waited the longest. -/
theorem exists_served_attend {e : TransportEvent} {rest : List TransportEvent}
    (hsv : s.module.served[n]? = some sv) (hattending : sv.attendance = .attending)
    (hevents : sv.connection.events = e :: rest) :
    ∃ attendance, (s.step (.attend n)).module.served[n]? = some { sv with
      connection := { sv.connection with events := rest }
      attendance := attendance } := by
  have hlt := (List.getElem?_eq_some_iff.1 hsv).1
  change ∃ attendance, (s.attend n).module.served[n]? = _
  simp only [attend, hsv, hattending, receive, hevents, if_true]
  cases e with
  | data message => exact ⟨.attending, hattending ▸ List.getElem?_set_self hlt⟩
  | disconnected => exact ⟨.leaving, List.getElem?_set_self hlt⟩
  | error text => exact ⟨.leaving, List.getElem?_set_self hlt⟩

/-- The attendant leaves when nothing waits and nothing more will come. -/
theorem served_attend_of_ended (hsv : s.module.served[n]? = some sv)
    (hattending : sv.attendance = .attending) (hevents : sv.connection.events = [])
    (hstage : sv.connection.stage = .ended) :
    (s.step (.attend n)).module.served[n]? = some { sv with attendance := .leaving } := by
  change (s.attend n).module.served[n]? = _
  simp only [attend, hsv, hattending, receive, hevents, hstage, if_true]
  exact List.getElem?_set_self (List.getElem?_eq_some_iff.1 hsv).1

/-- The attendant of a connection that has ended comes to the last of its events. -/
theorem exists_run_attend (hsv : s.module.served[n]? = some sv)
    (hstage : sv.connection.stage = .ended) :
    ∃ count sv', (s.run (List.replicate count (.attend n))).module.served[n]? = some sv' ∧
      sv'.connection.stage = .ended ∧ sv'.attendance ≠ .attending := by
  generalize hevents : sv.connection.events = events
  induction events generalizing s sv with
  | nil =>
    by_cases hattending : sv.attendance = .attending
    · have hleft := served_attend_of_ended hsv hattending hevents hstage
      exact ⟨1, _, hleft, hstage, by simp⟩
    · exact ⟨0, sv, hsv, hstage, hattending⟩
  | cons e rest ih =>
    by_cases hattending : sv.attendance = .attending
    · obtain ⟨attendance, htaken⟩ := exists_served_attend hsv hattending hevents
      obtain ⟨count, sv', hend⟩ := ih htaken hstage rfl
      exact ⟨count + 1, sv', hend⟩
    · exact ⟨0, sv, hsv, hstage, hattending⟩

/-- An attendant that has taken the last of the events takes the peer from the table and ends. -/
theorem over_depart (hsv : s.module.served[n]? = some sv)
    (hattendance : sv.attendance ≠ .attending) :
    (s.step (.depart n)).module.served[n]? = some { sv with attendance := .over } := by
  have hlt := (List.getElem?_eq_some_iff.1 hsv).1
  change (s.depart n).module.served[n]? = _
  simp only [depart, hsv]
  split
  · exact List.getElem?_set_self hlt
  · next hleaving =>
    have hover : sv.attendance = .over := by
      cases h : sv.attendance with
      | attending => exact absurd h hattendance
      | leaving => exact absurd h hleaving
      | _ => rfl
    rw [hsv, ← hover]

/-- How a connection comes to its end by itself: it clears its framer and tells its senders, and its
attendant takes so many events and departs. -/
def ending (n count : Nat) : List Action :=
  .connection n .clear :: .connection n .finish :: (List.replicate count (.attend n) ++ [.depart n])

theorem isOwn_of_mem_ending {count : Nat} (h : action ∈ ending n count) : IsOwn n action := by
  simp only [ending, List.mem_cons, List.mem_append, List.mem_replicate, List.mem_nil_iff,
    or_false] at h
  rcases h with rfl | rfl | ⟨-, rfl⟩ | rfl
  · exact .connection .clear
  · exact .connection .finish
  · exact .attend
  · exact .depart

/-- A connection that has stopped reading comes to its end by itself. -/
theorem exists_run_ending (hsv : s.module.served[n]? = some sv)
    (hstage : sv.connection.stage ≠ .active) :
    ∃ count sv', (s.run (ending n count)).module.served[n]? = some sv' ∧
      sv'.connection.stage = .ended ∧ sv'.attendance = .over := by
  obtain ⟨held, heard, hclear⟩ := exists_step_connection hsv .clear
  obtain ⟨held', heard', hfinish⟩ := exists_step_connection hclear .finish
  have hended := stage_clear_finish held heard held' heard' sv.framer
    (sv.connection.step held heard sv.framer .clear).1 hstage
  obtain ⟨count, sv', hattended, hstage', hattendance⟩ := exists_run_attend hfinish hended
  refine ⟨count, { sv' with attendance := .over }, ?_, hstage', rfl⟩
  change ((((s.step _).step _).run _)).module.served[n]? = _
  rw [run_append]
  exact over_depart hattended hattendance

/-- A chunk of the connection has been refused, or its stream has come to its end or has broken. -/
def Closes (m : TcpServer) (n : Nat) (actions : List Action) : Prop :=
  (∃ e, (m.framing.build.consume ((initial m).reads n actions)).2 = .error e) ∨
    ∃ front step back, actions = front ++ .connection n step :: back ∧
      n < ((initial m).run front).module.served.length ∧
      (step = .endOfStream ∨ ∃ reason, step = .broken reason)

/-- A connection that is closed stops reading. -/
theorem Serves.stage_of_closes {step : Connection.Step} (h : s.Serves n sent sv)
    (hsound : s.Sound m) (hstep : step = .endOfStream ∨ ∃ reason, step = .broken reason) :
    ∃ sent' sv', (s.step (.connection n step)).Serves n sent' sv' ∧
      sv'.connection.stage ≠ .active := by
  obtain ⟨more, sv', hserves, -⟩ := h.step hsound (s.steps_step (.connection n step))
  obtain ⟨held, heard, hserved⟩ := exists_step_connection h.served step
  obtain rfl := Option.some.inj (hserves.served.symm.trans hserved)
  refine ⟨_, _, hserves, ?_⟩
  rcases hstep with rfl | ⟨reason, rfl⟩
  all_goals
    simp only [Connection.step]
    split
    · simp [leave]
    · assumption

/-! ## All connections through a run -/

/-- What is to be sent on for a connection: the messages that a framer of its own, as it is built,
finds in the chunks that the connection reads until a chunk is refused. -/
def expected (m : TcpServer) (n : Nat) (actions : List Action) : List Submission :=
  (m.framing.build.consume ((initial m).reads n actions)).1.map
    fun message => ⟨n, m.id, .bytes message⟩

/-- What a server that was built as `m` makes of its connections in a run. Nothing is sent on for a
connection but its own messages, in order, under the id of the module. While a connection is
attended, what has not been sent on yet waits for its attendant. When the attendance comes to its
end before the module is stopped, everything is sent on. All that is sent on is an interleaving of
what is sent on for the connections. What happens to a connection leaves every other as it is. A
connection that is closed never reads again and comes to its end by itself, and meanwhile every other
stays as it is. -/
structure Isolation (m : TcpServer) (actions : List Action) : Prop where
  own : ∀ n, Submission.ofConnection n ((initial m).run actions).submitted <+: expected m n actions
  attended : ∀ n sv, ((initial m).run actions).module.served[n]? = some sv →
    sv.attendance = .attending →
      Submission.ofConnection n ((initial m).run actions).submitted ++
          (sv.connection.events.filterMap TransportEvent.message?).map
            (fun message => ⟨n, m.id, .bytes message⟩) =
        expected m n actions
  complete : ∀ front back n sv, actions = front ++ back →
    ((initial m).run front).module.served[n]? = some sv → sv.attendance ≠ .attending →
      ((initial m).run front).tokens.isCancelled sv.token = false →
        Submission.ofConnection n ((initial m).run actions).submitted = expected m n actions
  interleaved : Interleaving
    ((List.range ((initial m).run actions).module.served.length).map fun n =>
      (Submission.ofConnection n ((initial m).run actions).submitted).map Submission.event)
    (((initial m).run actions).submitted.map Submission.event)
  alone : ∀ front action back n k, actions = front ++ action :: back →
    ((initial m).run front).about? action = some n → n ≠ k →
      Unchanged k ((initial m).run front) ((initial m).run (front ++ [action]))
  ends : ∀ n, Closes m n actions →
    (∀ more, ((initial m).run actions).reads n more = []) ∧
      ∃ count sv, ((initial m).run (actions ++ ending n count)).module.served[n]? = some sv ∧
        sv.connection.stage = .ended ∧ sv.attendance = .over ∧
        ∀ k, n ≠ k →
          Unchanged k ((initial m).run actions) ((initial m).run (actions ++ ending n count))

theorem reached_initial (h : ofConfig config = .ok m) (n : Nat) :
    Reached m.framing.build n [] (initial m) := by
  refine .unborn ?_ rfl rfl
  rw [initial, (connections_of_ofConfig h).1]
  rfl

theorem reached_run (h : ofConfig config = .ok m) (n : Nat) (actions : List Action) :
    Reached m.framing.build n ((initial m).reads n actions) ((initial m).run actions) :=
  (reached_initial h n).run (sound_initial h) actions

theorem Serves.submitted_eq (h : s.Serves n sent sv) (hsound : s.Sound m) :
    Submission.ofConnection n s.submitted = sent.map fun message => ⟨n, m.id, .bytes message⟩ := by
  rw [h.submitted, hsound.id]

/-- A connection that has been closed does not read any more. -/
theorem exists_serves_of_closes (h : ofConfig config = .ok m) {actions : List Action}
    (hcloses : Closes m n actions) :
    ∃ sent sv, ((initial m).run actions).Serves n sent sv ∧ sv.connection.stage ≠ .active := by
  rcases hcloses with ⟨e, he⟩ | ⟨front, step, back, rfl, hlt, hstep⟩
  · cases reached_run h n actions with
    | unborn _ hreads =>
      rw [hreads] at he
      cases he
    | served hserves hfaithful =>
      refine ⟨_, _, hserves, fun hstage => ?_⟩
      cases he.symm.trans (hfaithful.framer hstage)
  · have hsound : ((initial m).run front).Sound m := (sound_initial h).run front
    cases reached_run h n front with
    | unborn hserved => exact absurd hlt (Nat.not_lt_of_le (List.getElem?_eq_none_iff.1 hserved))
    | served hserves hfaithful =>
      obtain ⟨_, _, hserves', hstage⟩ := hserves.stage_of_closes hsound hstep
      have hend := (hserves'.run_of_stage (hsound.steps (steps_step _ _)) hstage back).2
      rw [run_append]
      exact hend

/-- **The connections of a server are isolated**, whichever framing it has, however many connections
from pairwise distinct peers it accepts, and in whichever order everything happens. -/
theorem run_isolated (h : ofConfig config = .ok m) (actions : List Action)
    (hpeers : ((initial m).run actions).peers.Nodup) : Isolation m actions := by
  have hsound (actions : List Action) : ((initial m).run actions).Sound m :=
    (sound_initial h).run actions
  constructor
  case own =>
    intro n
    cases reached_run h n actions with
    | unborn _ _ hsubmitted =>
      rw [hsubmitted]
      exact List.nil_prefix
    | served hserves hfaithful =>
      rw [hserves.submitted_eq (hsound actions)]
      exact hfaithful.follows.isPrefix.map _
  case attended =>
    intro n sv hsv hattending
    cases reached_run h n actions with
    | unborn hserved => cases hserved.symm.trans hsv
    | served hserves hfaithful =>
      obtain rfl := Option.some.inj (hserves.served.symm.trans hsv)
      rw [hserves.submitted_eq (hsound actions), ← List.map_append,
        hfaithful.follows.append_waiting hattending, expected]
  case complete =>
    intro front back n sv hactions hsv hattendance hcancelled
    subst hactions
    cases reached_run h n front with
    | unborn hserved => cases hserved.symm.trans hsv
    | @served sent _ hserves hfaithful =>
      obtain rfl := Option.some.inj (hserves.served.symm.trans hsv)
      have hcomplete := hfaithful.follows.complete_of_not hattendance (by simp [hcancelled])
      obtain ⟨sv', hserves', hcomplete'⟩ :=
        hserves.run_of_complete (hsound front) hattendance hcomplete back
      rw [← run_append] at hserves'
      rw [hserves'.submitted_eq (hsound _), expected, reads_append, ← hcomplete'.sent]
  case interleaved =>
    refine Submission.interleaving_ofConnection fun submission hmem => ?_
    cases reached_run h submission.connection actions with
    | served hserves => exact (List.getElem?_eq_some_iff.1 hserves.served).1
    | unborn _ _ hsubmitted =>
      have hown : submission ∈ Submission.ofConnection submission.connection
          ((initial m).run actions).submitted := List.mem_filter.2 ⟨hmem, beq_self_eq_true _⟩
      rw [hsubmitted] at hown
      cases hown
  case alone =>
    intro front action back n k hactions habout hne
    have hsplit : actions = (front ++ [action]) ++ back := by
      rw [hactions, List.append_assoc, List.singleton_append]
    rw [hsplit, run_append] at hpeers
    have hnodup := hpeers.sublist (peers_isPrefix_run _ back).sublist
    rw [run_append] at hnodup ⊢
    exact (steps_step _ action).unchanged (hsound front) hnodup habout hne
  case ends =>
    intro n hcloses
    obtain ⟨sent, sv, hserves, hstage⟩ := exists_serves_of_closes h hcloses
    refine ⟨fun more => (hserves.run_of_stage (hsound actions) hstage more).1, ?_⟩
    obtain ⟨count, sv', hend⟩ := exists_run_ending hserves.served hstage
    rw [← run_append] at hend
    refine ⟨count, sv', hend.1, hend.2.1, hend.2.2, fun k hne => ?_⟩
    rw [run_append]
    exact unchanged_run (hsound actions) hpeers (fun _ => isOwn_of_mem_ending) hne

/-- Two peers at once, one of which goes in the middle of a message. -/
theorem run_isolated_two_peers :
    let config : ModuleConfig :=
      ⟨"hub", typeName, ⟨[("framing", .string "SLIP"), ("port", .number (.integer 9000))]⟩⟩
    let m : TcpServer := ⟨"hub", "0.0.0.0:9000", .slip, none, [], [], .idle⟩
    let actions : List Action := [.start .root, .opened (.ok ⟨"0.0.0.0", 9000⟩),
      .accept ⟨"10.0.0.1", 5000⟩, .accept ⟨"10.0.0.2", 5000⟩,
      .connection 0 (.read [0x61, 0xC0, 0x62]), .connection 1 (.read [0x63]),
      .connection 0 .endOfStream, .output (.bytes [0x64]), .deliver 0,
      .connection 1 (.read [0x65, 0xC0, 0x66]), .attend 1, .attend 0, .connection 0 .clear,
      .attend 0, .depart 0, .deliver 0, .connection 1 .write, .connection 1 (.read [0xC0])]
    ofConfig config = .ok m ∧ Isolation m actions ∧
      ((initial m).run actions).peers = [⟨"10.0.0.1", 5000⟩, ⟨"10.0.0.2", 5000⟩] ∧
      (initial m).reads 0 actions = [[0x61, 0xC0, 0x62]] ∧
      (initial m).reads 1 actions = [[0x63], [0x65, 0xC0, 0x66], [0xC0]] ∧
      ((initial m).run actions).submitted =
        [⟨1, "hub", .bytes [0x63, 0x65]⟩, ⟨0, "hub", .bytes [0x61]⟩] ∧
      expected m 0 actions = [⟨0, "hub", .bytes [0x61]⟩] ∧
      expected m 1 actions = [⟨1, "hub", .bytes [0x63, 0x65]⟩, ⟨1, "hub", .bytes [0x66]⟩] ∧
      Closes m 0 actions ∧
      ((initial m).run (actions ++ ending 0 0)).module.served.map
        (fun sv => (sv.connection.stage, sv.attendance)) =
          [(.ended, .over), (.active, .attending)] := by
  intro config m actions
  have h : ofConfig config = .ok m := rfl
  have hpeers : ((initial m).run actions).peers = [⟨"10.0.0.1", 5000⟩, ⟨"10.0.0.2", 5000⟩] := by cbv
  have hisolated := run_isolated h actions (hpeers ▸ by decide)
  have hcloses : Closes m 0 actions :=
    .inr ⟨actions.take 6, .endOfStream, actions.drop 7, rfl, by decide +kernel, .inl rfl⟩
  exact ⟨h, hisolated, hpeers, by cbv, by cbv, by cbv, by cbv, by cbv, hcloses, by cbv⟩

end Service

end Switchboard.TcpServer
