import Mathlib
import Switchboard.Proofs.Module.Submission
import Switchboard.Proofs.Module.TcpClient.Reachable

/-!
# Connections of a client, one after the other

The connections of a client share a framer, and the one that ends clears it in its own time. As long
as none reads before all earlier ones have cleared it, what is sent on for each connection are the
messages of its own chunks under a framer as it is built. An ended connection that clears it later
takes what the next one has already read.
-/

namespace Switchboard.TcpClient

open Connection

variable {m : TcpClient} {config : ModuleConfig}

namespace Service

variable {s s' : Service} {action : Action} {n k : Nat} {token : Token}
variable {start : Framer} {chunks sent : List Bytes} {c c' : Connection}

/-! ## Order -/

/-- All connections before the one of a number have cleared the framer. -/
def Clean (s : Service) (n : Nat) : Prop := ∀ c ∈ s.module.connections.take n, c.Settled

instance (s : Service) (n : Nat) : Decidable (s.Clean n) :=
  inferInstanceAs (Decidable (∀ c ∈ s.module.connections.take n,
    c.stage = .cleared ∨ c.stage = .ended))

/-- A step reads no chunk by a connection before all earlier ones have cleared the framer. -/
def Ready (s : Service) : Action → Prop
  | .connection n step => s.readBy n (.connection n step) ≠ [] → s.Clean n
  | _ => True

/-- In a run, no connection reads before all earlier ones have cleared the framer. -/
def Orderly (s : Service) : List Action → Prop
  | [] => True
  | action :: rest => s.Ready action ∧ (s.step action).Orderly rest

instance decidableReady (s : Service) : (action : Action) → Decidable (s.Ready action)
  | .connection n step =>
    inferInstanceAs (Decidable (s.readBy n (.connection n step) ≠ [] → s.Clean n))
  | .start _ | .connected | .refused | .attend | .notice | .proceed | .output _ | .deliver _
  | .giveUp _ | .stop | .cancel _ => .isTrue trivial

instance decidableOrderly (s : Service) : (actions : List Action) → Decidable (s.Orderly actions)
  | [] => .isTrue trivial
  | action :: rest =>
    have := (s.step action).decidableOrderly rest
    inferInstanceAs (Decidable (s.Ready action ∧ (s.step action).Orderly rest))

theorem Ready.clean (h : s.Ready action) (hread : s.readBy n action ≠ []) : s.Clean n := by
  cases action with
  | connection k step =>
    by_cases hk : k = n
    · subst hk
      exact h hread
    · rw [readBy, if_neg hk] at hread
      exact absurd rfl hread
  | _ => exact absurd rfl hread

/-! ## One connection through a step -/

/-- What holds of a connection that has read some chunks and for which some messages have been sent
on, when a start has made it and framers are built as `start`. It is the start that has made it
which attends it. What has been sent on is what has been taken of the messages of the chunks. Once
it has the framer for itself, the framer is what its chunks have made of it. Before that it has not
read. -/
structure Holds (start : Framer) (token : Token) (n : Nat) (chunks sent : List Bytes) (s : Service)
    (c : Connection) : Prop where
  connection : s.module.connections[n]? = some c
  submitted : Submission.ofConnection n s.submitted =
    sent.map fun message => ⟨n, s.module.id, .bytes message⟩
  maker : ∀ other, s.phase = .attending other n → other = token
  follows : Follows start chunks sent c.stage c.events (s.phase = .attending token n)
    (s.tokens.isCancelled token = true)
  framer : s.phase = .attending token n → s.Clean n → c.stage = .active →
    (start.consume chunks).2 = .ok s.module.framer
  unread : s.phase = .attending token n → ¬ s.Clean n → chunks = []

/-- A step that is about other connections. It may give the connection the framer for itself, which
is as it is built then. -/
theorem Holds.other (h : Holds start token n chunks sent s c)
    (hconnection : s'.module.connections[n]? = some c) (hid : s'.module.id = s.module.id)
    (hsubmitted : Submission.ofConnection n s'.submitted = Submission.ofConnection n s.submitted)
    (htokens : ∀ other, s.tokens.isCancelled other = true → s'.tokens.isCancelled other = true)
    (hbegins : ∀ other, s'.phase = .attending other n → s.phase = .attending other n)
    (hends : s.phase = .attending token n →
      s'.phase = .attending token n ∨ s.tokens.isCancelled token = true)
    (hframer : s'.phase = .attending token n → (s.Clean n → s'.Clean n) ∧ (s'.Clean n →
      s.Clean n ∧ s'.module.framer = s.module.framer ∨ ¬ s.Clean n ∧ s'.module.framer = start)) :
    Holds start token n chunks sent s' c where
  connection := hconnection
  submitted := by rw [hsubmitted, h.submitted, hid]
  maker := fun other hphase => h.maker other (hbegins other hphase)
  follows := (h.follows.turn (hbegins token) hends).imp_stopped (htokens token)
  framer := by
    intro hphase hclean hstage
    rcases (hframer hphase).2 hclean with ⟨hbefore, hsame⟩ | ⟨hbefore, hstart⟩
    · rw [hsame]
      exact h.framer (hbegins token hphase) hbefore hstage
    · -- The last of the others has just cleared it, and nothing has been read before.
      rw [h.unread (hbegins token hphase) hbefore, hstart]
      rfl
  unread := by
    intro hphase hclean
    exact h.unread (hbegins token hphase) fun hbefore => hclean ((hframer hphase).1 hbefore)

/-- The connection takes a step of its own. -/
theorem Holds.moves {held : Bool} {step : Connection.Step} {f : Framer}
    (h : Holds start token n chunks sent s c) (hready : s.Ready (.connection n step))
    (hmoves : Moves held (isHeard s.phase n) s.module.framer c step (c.readBy step) f c') :
    Holds start token n (chunks ++ c.readBy step) sent
      { s with module := { s.module.update n c' with framer := f } } c' := by
  have hread : s.readBy n (.connection n step) = c.readBy step := by
    simp only [readBy, h.connection, if_true]
  have hclean : ({ s with module := { s.module.update n c' with framer := f } } : Service).Clean n ↔
      s.Clean n := by
    simp only [Clean, update, List.take_set_of_le (Nat.le_refl n)]
  constructor
  case connection => exact List.getElem?_set_self (List.getElem?_eq_some_iff.1 h.connection).1
  case submitted => exact h.submitted
  case maker => exact h.maker
  case follows =>
    refine h.follows.moves hmoves (fun hphase => ?_) fun hphase hnew => ?_
    · simp only [hphase, isHeard, beq_self_eq_true]
    · exact h.framer hphase (hready.clean (hread.symm ▸ hnew)) (hmoves.stage_eq_active (.inl hnew))
  case framer =>
    intro hphase hafter hstage
    have hbefore := h.framer hphase (hclean.1 hafter) (hmoves.stage_eq_active (.inr hstage))
    exact hmoves.consume_eq_ok hbefore hstage
  case unread =>
    intro hphase hafter
    have hbefore : ¬ s.Clean n := fun hbefore => hafter (hclean.2 hbefore)
    have hnew : c.readBy step = [] := by
      by_cases hnew : c.readBy step = []
      · exact hnew
      · exact absurd (hready.clean (hread.symm ▸ hnew)) hbefore
    rw [hnew, List.append_nil]
    exact h.unread hphase hbefore

/-- A connection that has just been made. When all earlier ones have cleared the framer, it finds it
as it is built. -/
theorem holds_fresh (hsound : s.Sound m)
    (hsubmitted : Submission.ofConnection s.module.connections.length s.submitted = []) :
    Holds m.framing.build token s.module.connections.length [] []
      { s with
        module := s.module.connect
        phase := .attending token s.module.connections.length } .fresh where
  connection := List.getElem?_concat_length
  submitted := hsubmitted
  maker := fun _ hphase => (Phase.attending.inj hphase).1.symm
  follows := follows_fresh _ rfl
  framer := by
    intro _ hclean _
    have htake : s.module.connect.connections.take s.module.connections.length =
        s.module.connections := List.take_left
    exact congrArg Except.ok (hsound.cleared (htake ▸ hclean)).symm
  unread := fun _ _ => rfl

/-- Another connection takes a step of its own, which may be the one by which it clears the
framer. -/
theorem Holds.moves_other {held : Bool} {step : Connection.Step} {new : List Bytes} {f : Framer}
    {ck ck' : Connection} (h : Holds m.framing.build token n chunks sent s c) (hsound : s.Sound m)
    (hne : k ≠ n) (hck : s.module.connections[k]? = some ck)
    (hmoves : Moves held (isHeard s.phase k) s.module.framer ck step new f ck') :
    Holds m.framing.build token n chunks sent
      { s with module := { s.module.update k ck' with framer := f } } c := by
  refine h.other ?_ rfl rfl (fun _ h => h) (fun _ h => h) .inl fun hphase => ?_
  · exact (List.getElem?_set_ne hne).trans h.connection
  · -- The attended connection is the last, so that the other one is among those before it.
    have hlt : k < n := by
      have hlast := hsound.last token n hphase
      have hk := (List.getElem?_eq_some_iff.1 hck).1
      omega
    have hckn : (s.module.connections.take n)[k]? = some ck := by
      rw [List.getElem?_take_of_lt hlt, hck]
    simp only [Clean, update, List.take_set]
    constructor
    · intro hclean x hx
      rcases List.mem_or_eq_of_mem_set hx with hx | rfl
      · exact hclean x hx
      · exact (hmoves.settled (hclean ck (List.mem_of_getElem? hckn))).1
    · intro hclean
      rcases settled_of_set hckn hmoves hclean with hsame | ⟨hbefore, hclear⟩
      · exact .inl hsame
      · exact .inr ⟨hbefore, hclear.trans hsound.clear_eq⟩

/-- It does not matter for the framer what waits at a connection. -/
theorem clean_set_iff {ck ck' : Connection} (hck : s.module.connections[k]? = some ck)
    (hstage : ck'.stage = ck.stage)
    (hconnections : s'.module.connections = s.module.connections.set k ck') :
    s'.Clean n ↔ s.Clean n := by
  rw [Clean, hconnections, List.take_set]
  by_cases hlt : k < n
  · refine forall_mem_set_iff (a := ck) ?_ ?_
    · rw [List.getElem?_take_of_lt hlt, hck]
    · rw [Settled, Settled, hstage]
  · rw [List.set_eq_of_length_le (Nat.le_trans (List.length_take_le ..) (Nat.le_of_not_lt hlt))]
    exact Iff.rfl

/-- The module takes what waits at the connection, or queues something at it. -/
theorem Holds.update {sent' : List Bytes} (h : Holds start token n chunks sent s c)
    (hconnections : s'.module.connections = s.module.connections.set n c')
    (hstage : c'.stage = c.stage) (hphase : s'.phase = s.phase)
    (hframer : s'.module.framer = s.module.framer)
    (hsubmitted : Submission.ofConnection n s'.submitted =
      sent'.map fun message => ⟨n, s'.module.id, .bytes message⟩)
    (hfollows : Follows start chunks sent' c'.stage c'.events (s.phase = .attending token n)
      (s'.tokens.isCancelled token = true)) : Holds start token n chunks sent' s' c' := by
  have hclean : s'.Clean n ↔ s.Clean n := clean_set_iff h.connection hstage hconnections
  constructor
  case connection =>
    rw [hconnections, List.getElem?_set_self (List.getElem?_eq_some_iff.1 h.connection).1]
  case submitted => exact hsubmitted
  case maker => exact hphase ▸ h.maker
  case follows => exact hphase ▸ hfollows
  case framer =>
    intro hattending hafter hactive
    rw [hframer]
    exact h.framer (hphase ▸ hattending) (hclean.1 hafter) (hstage ▸ hactive)
  case unread =>
    intro hattending hafter
    exact h.unread (hphase ▸ hattending) fun hbefore => hafter (hclean.2 hbefore)

/-- The module takes what waits at another connection, or queues something there. -/
theorem Holds.update_other {ck ck' : Connection} (h : Holds start token n chunks sent s c)
    (hne : k ≠ n) (hck : s.module.connections[k]? = some ck)
    (hconnections : s'.module.connections = s.module.connections.set k ck')
    (hstage : ck'.stage = ck.stage) (hid : s'.module.id = s.module.id) (hphase : s'.phase = s.phase)
    (hframer : s'.module.framer = s.module.framer) (htokens : s'.tokens = s.tokens)
    (hsubmitted : Submission.ofConnection n s'.submitted = Submission.ofConnection n s.submitted) :
    Holds start token n chunks sent s' c := by
  have hclean : s'.Clean n ↔ s.Clean n := clean_set_iff hck hstage hconnections
  refine h.other ?_ hid hsubmitted (fun _ h => htokens ▸ h) (fun _ h => hphase ▸ h)
    (fun h => .inl (hphase ▸ h)) fun _ => ?_
  · rw [hconnections, List.getElem?_set_ne hne, h.connection]
  · exact ⟨hclean.2, fun hafter => .inl ⟨hclean.1 hafter, hframer⟩⟩

/-- Every step, whichever connection it is about. -/
theorem Holds.steps (h : Holds m.framing.build token n chunks sent s c) (hsound : s.Sound m)
    (hready : s.Ready action) (hsteps : Steps s action s') :
    ∃ more c',
      Holds m.framing.build token n (chunks ++ s.readBy n action) (sent ++ more) s' c' := by
  have hlt : n < s.module.connections.length := (List.getElem?_eq_some_iff.1 h.connection).1
  have hsame {c' : Connection} (hread : s.readBy n action = [])
      (hholds : Holds m.framing.build token n chunks sent s' c') : ∃ more c',
        Holds m.framing.build token n (chunks ++ s.readBy n action) (sent ++ more) s' c' := by
    refine ⟨[], c', ?_⟩
    rwa [hread, List.append_nil, List.append_nil]
  cases hsteps with
  | control hid _ hconnections hframer hbegins hends htokens hread =>
    refine hsame (hread n) (h.other ?_ hid rfl htokens (fun other => hbegins other n)
      (hends token n) fun _ => ?_)
    · rw [hconnections, h.connection]
    · simp only [Clean, hconnections]
      exact ⟨fun hclean => hclean, fun hclean => .inl ⟨hclean, hframer⟩⟩
  | clear hbefore hafter =>
    exact hsame rfl (h.other h.connection rfl rfl (fun _ h => h)
      (fun other hphase => absurd hphase (hafter other n))
      (fun hphase => absurd hphase (hbefore token n))
      fun hphase => absurd hphase (hafter token n))
  | connected hphase =>
    have hne {other t : Token} :
        Phase.attending t s.module.connections.length ≠ .attending other n := by
      intro hattending
      exact Nat.ne_of_gt hlt (Phase.attending.inj hattending).2
    refine hsame rfl (h.other ?_ rfl rfl (fun _ h => h)
      (fun _ hphase => absurd hphase hne) (by simp [hphase]) fun hphase => absurd hphase hne)
    rw [connect, List.getElem?_append_left hlt, h.connection]
  | @moves k ck ck' held step f hc hmoves =>
    by_cases hk : k = n
    · subst hk
      obtain rfl := Option.some.inj (hc.symm.trans h.connection)
      have hread : s.readBy k (.connection k step) = ck.readBy step := by
        simp only [readBy, hc, if_true]
      refine ⟨[], ck', ?_⟩
      rw [hread, List.append_nil]
      exact h.moves hready hmoves
    · exact hsame (if_neg hk) (h.moves_other hsound hk hc hmoves)
  | @take t k ck message rest hphase hc hevents =>
    by_cases hk : k = n
    · subst hk
      obtain rfl := Option.some.inj (hc.symm.trans h.connection)
      obtain rfl := h.maker t hphase
      have hown := Submission.ofConnection_map_bytes s.module.id k [message]
      rw [List.map_singleton] at hown
      refine ⟨[message], { ck with events := rest }, ?_⟩
      rw [show chunks ++ s.readBy k .attend = chunks from List.append_nil chunks]
      refine h.update rfl rfl rfl rfl ?_ ((hevents ▸ h.follows).take hphase)
      rw [Submission.ofConnection_append, h.submitted, hown, List.map_append, List.map_singleton]
      rfl
    · have hother := Submission.ofConnection_map_bytes_of_ne s.module.id [message] hk
      rw [List.map_singleton] at hother
      refine hsame rfl (h.update_other hk hc rfl rfl rfl rfl rfl rfl ?_)
      rw [Submission.ofConnection_append, hother, List.append_nil]
  | @leave t k ck rest hphase hc hover =>
    by_cases hk : k = n
    · subst hk
      obtain rfl := Option.some.inj (hc.symm.trans h.connection)
      obtain rfl := h.maker t hphase
      have hcomplete := h.follows.complete_of_over hphase hover
      exact hsame rfl ⟨List.getElem?_set_self hlt, h.submitted, by simp,
        .complete (by simp) hcomplete, by simp, by simp⟩
    · refine hsame rfl (h.other ?_ rfl rfl (fun _ h => h) (by simp)
        (fun hattending => ?_) (by simp))
      · exact (List.getElem?_set_ne hk).trans h.connection
      · exact absurd (Phase.attending.inj (hphase.symm.trans hattending)).2 hk
  | @queue _ k ck _ _ _ hc =>
    by_cases hk : k = n
    · subst hk
      obtain rfl := Option.some.inj (hc.symm.trans h.connection)
      exact hsame rfl (h.update rfl rfl rfl rfl h.submitted h.follows)
    · exact hsame rfl (h.update_other hk hc rfl rfl rfl rfl rfl rfl rfl)

/-- Before it is made, nothing is read by a connection or sent on for it. -/
theorem Steps.of_none (hsteps : Steps s action s') (hsound : s.Sound m)
    (hn : s.module.connections[n]? = none)
    (hsubmitted : Submission.ofConnection n s.submitted = []) :
    s.readBy n action = [] ∧
      (s'.module.connections[n]? = none ∧ Submission.ofConnection n s'.submitted = [] ∨
        ∃ token c, n = s.module.connections.length ∧ s.madeBy action = [token] ∧
          Holds m.framing.build token n [] [] s' c) := by
  have hle : s.module.connections.length ≤ n := List.getElem?_eq_none_iff.1 hn
  have hset (k : Nat) (c : Connection) : (s.module.connections.set k c)[n]? = none := by
    rw [List.getElem?_eq_none_iff, List.length_set]
    exact hle
  cases hsteps with
  | control _ _ hconnections _ _ _ _ hread =>
    refine ⟨hread n, .inl ⟨?_, hsubmitted⟩⟩
    rw [hconnections, hn]
  | clear => exact ⟨rfl, .inl ⟨hn, hsubmitted⟩⟩
  | @connected token hphase =>
    refine ⟨rfl, ?_⟩
    rcases Nat.eq_or_lt_of_le hle with rfl | hlt
    · refine .inr ⟨token, .fresh, rfl, by simp only [madeBy, hphase], ?_⟩
      exact holds_fresh hsound hsubmitted
    · refine .inl ⟨?_, hsubmitted⟩
      rw [connect, List.getElem?_eq_none_iff, List.length_append]
      exact hlt
  | @moves k c _ _ step _ hc =>
    refine ⟨?_, .inl ⟨hset _ _, hsubmitted⟩⟩
    simp only [readBy, hn]
    split <;> rfl
  | @take _ k _ message _ _ hc =>
    have hk : k ≠ n := by
      rintro rfl
      cases hn.symm.trans hc
    refine ⟨rfl, .inl ⟨hset _ _, ?_⟩⟩
    rw [Submission.ofConnection_append, hsubmitted]
    exact Submission.ofConnection_map_bytes_of_ne s.module.id [message] hk
  | leave | queue => exact ⟨rfl, .inl ⟨hset _ _, hsubmitted⟩⟩

/-- Each connection is made by one start. -/
theorem Steps.length_eq (hsteps : Steps s action s') :
    s'.module.connections.length = s.module.connections.length + (s.madeBy action).length := by
  cases hsteps with
  | control _ _ hconnections _ _ _ _ _ hmade =>
    rw [hconnections, hmade]
    rfl
  | clear => rfl
  | connected hphase =>
    simp only [madeBy, hphase, connect, List.length_append, List.length_singleton]
  | moves | take | leave | queue => exact List.length_set ..

/-- A connection that has ended its reading reads no more. -/
theorem Steps.stage_ne_active (hsteps : Steps s action s')
    (hc : s.module.connections[n]? = some c) (hstage : c.stage ≠ .active) :
    s.readBy n action = [] ∧
      ∃ c', s'.module.connections[n]? = some c' ∧ c'.stage ≠ .active := by
  have hset {k : Nat} {ck ck' : Connection} (hck : s.module.connections[k]? = some ck)
      (hstage' : ck.stage ≠ .active → ck'.stage ≠ .active) :
      ∃ c', (s.module.connections.set k ck')[n]? = some c' ∧ c'.stage ≠ .active := by
    by_cases hk : k = n
    · subst hk
      obtain rfl := Option.some.inj (hck.symm.trans hc)
      exact ⟨ck', List.getElem?_set_self (List.getElem?_eq_some_iff.1 hc).1, hstage' hstage⟩
    · exact ⟨c, (List.getElem?_set_ne hk).trans hc, hstage⟩
  cases hsteps with
  | control _ _ hconnections _ _ _ _ hread => exact ⟨hread n, c, by rw [hconnections, hc], hstage⟩
  | clear => exact ⟨rfl, c, hc, hstage⟩
  | connected =>
    refine ⟨rfl, c, ?_, hstage⟩
    rw [connect, List.getElem?_append_left (List.getElem?_eq_some_iff.1 hc).1, hc]
  | @moves k ck ck' held step f hck hmoves =>
    refine ⟨?_, hset hck fun hne hactive => hne (hmoves.stage_eq_active (.inr hactive))⟩
    by_cases hk : k = n
    · subst hk
      obtain rfl := Option.some.inj (hck.symm.trans hc)
      simp only [readBy, hc, if_true]
      by_cases hnew : ck.readBy step = []
      · exact hnew
      · exact absurd (hmoves.stage_eq_active (.inl hnew)) hstage
    · exact if_neg hk
  | take _ hck | leave _ hck | queue _ hck => exact ⟨rfl, hset hck fun h => h⟩

/-! ## One connection through a run -/

/-- A connection that has read some chunks, or that is still to be made. -/
inductive Reached (start : Framer) (n : Nat) (makers : List Token) (chunks : List Bytes)
    (s : Service) : Prop where
  | unmade (hmaker : makers[n]? = none) (hconnection : s.module.connections[n]? = none)
      (hchunks : chunks = []) (hsubmitted : Submission.ofConnection n s.submitted = [])
  | made {token : Token} {sent : List Bytes} {c : Connection} (hmaker : makers[n]? = some token)
      (hholds : Holds start token n chunks sent s c)

theorem Reached.steps {makers : List Token} (h : Reached m.framing.build n makers chunks s)
    (hlength : makers.length = s.module.connections.length) (hsound : s.Sound m)
    (hready : s.Ready action) (hsteps : Steps s action s') :
    Reached m.framing.build n (makers ++ s.madeBy action) (chunks ++ s.readBy n action) s' := by
  cases h with
  | unmade _ hn hchunks hsubmitted =>
    subst hchunks
    obtain ⟨hread, ⟨hn', hsubmitted'⟩ | ⟨token, c, hnumber, hmade, hholds⟩⟩ :=
      hsteps.of_none hsound hn hsubmitted
    · refine .unmade ?_ hn' hread hsubmitted'
      rw [List.getElem?_eq_none_iff, List.length_append, hlength, ← hsteps.length_eq]
      exact List.getElem?_eq_none_iff.1 hn'
    · rw [hread, hmade]
      refine .made ?_ hholds
      rw [hnumber, ← hlength, List.getElem?_concat_length]
  | made hmaker hholds =>
    obtain ⟨more, c', hholds'⟩ := hholds.steps hsound hready hsteps
    refine .made ?_ hholds'
    rw [List.getElem?_append_left (List.getElem?_eq_some_iff.1 hmaker).1, hmaker]

theorem Reached.run {makers : List Token} (h : Reached m.framing.build n makers chunks s)
    (hlength : makers.length = s.module.connections.length) (hsound : s.Sound m)
    {actions : List Action} (horderly : s.Orderly actions) :
    Reached m.framing.build n (makers ++ s.makers actions) (chunks ++ s.reads n actions)
      (s.run actions) := by
  induction actions generalizing makers chunks s with
  | nil =>
    rw [Service.makers, reads, List.append_nil, List.append_nil]
    exact h
  | cons action rest ih =>
    have hsteps := s.steps_step action
    have hlength' : (makers ++ s.madeBy action).length =
        (s.step action).module.connections.length := by
      rw [List.length_append, hlength, hsteps.length_eq]
    rw [Service.makers, reads, ← List.append_assoc, ← List.append_assoc]
    exact ih (h.steps hlength hsound horderly.1 hsteps) hlength' (hsound.steps hsteps) horderly.2

theorem Holds.run (h : Holds m.framing.build token n chunks sent s c) (hsound : s.Sound m)
    {actions : List Action} (horderly : s.Orderly actions) : ∃ more c',
      Holds m.framing.build token n (chunks ++ s.reads n actions) (sent ++ more) (s.run actions)
        c' := by
  induction actions generalizing chunks sent s c with
  | nil =>
    refine ⟨[], c, ?_⟩
    rw [reads, List.append_nil, List.append_nil]
    exact h
  | cons action rest ih =>
    have hsteps := s.steps_step action
    obtain ⟨more, c', hholds⟩ := h.steps hsound horderly.1 hsteps
    obtain ⟨more', c'', hholds'⟩ := ih hholds (hsound.steps hsteps) horderly.2
    refine ⟨more ++ more', c'', ?_⟩
    rw [reads, ← List.append_assoc, ← List.append_assoc]
    exact hholds'

theorem reads_eq_nil (hc : s.module.connections[n]? = some c) (hstage : c.stage ≠ .active)
    (actions : List Action) : s.reads n actions = [] := by
  induction actions generalizing s c with
  | nil => rfl
  | cons action rest ih =>
    obtain ⟨hread, c', hc', hstage'⟩ := (s.steps_step action).stage_ne_active hc hstage
    rw [reads, hread, ih hc' hstage']
    rfl

/-- What has been sent on for a connection stays as it is when everything has been. -/
theorem Holds.run_of_complete (h : Holds m.framing.build token n chunks sent s c)
    (hsound : s.Sound m) (hcomplete : Complete m.framing.build chunks sent c.stage)
    {actions : List Action} (horderly : s.Orderly actions) : ∃ c',
      Holds m.framing.build token n chunks sent (s.run actions) c' := by
  obtain ⟨more, c', hholds⟩ := h.run hsound horderly
  rw [reads_eq_nil h.connection hcomplete.stage, List.append_nil] at hholds
  -- Nothing more can follow, for the messages of what was read are all there.
  have hmore : more = [] := by
    have hlength := hholds.follows.isPrefix.length_le
    rw [← hcomplete.sent, List.length_append] at hlength
    exact List.eq_nil_of_length_eq_zero (by omega)
  rw [hmore, List.append_nil] at hholds
  exact ⟨c', hholds⟩

/-! ## All connections through a run -/

theorem orderly_append {front back : List Action} :
    s.Orderly (front ++ back) ↔ s.Orderly front ∧ (s.run front).Orderly back := by
  induction front generalizing s with
  | nil => exact (and_iff_right trivial).symm
  | cons action rest ih =>
    rw [List.cons_append, Orderly, Orderly, ih, and_assoc]
    exact Iff.rfl

/-- What is to be sent on for a connection: the messages that a framer as it is built finds in the
chunks that the connection reads until a chunk is refused. -/
def expected (m : TcpClient) (n : Nat) (actions : List Action) : List Submission :=
  (m.framing.build.consume ((initial m).reads n actions)).1.map fun message =>
    ⟨n, m.id, .bytes message⟩

/-- What a client that was built as `m` makes of its connections in a run. Nothing is sent on for a
connection but its own messages, in order. While a connection is attended, what has not been sent on
yet waits for the module. When the attendance comes to its end before the start is cancelled,
everything is sent on. -/
structure Isolation (m : TcpClient) (actions : List Action) : Prop where
  own : ∀ n, Submission.ofConnection n ((initial m).run actions).submitted <+: expected m n actions
  attended : ∀ n c token, ((initial m).run actions).module.connections[n]? = some c →
    ((initial m).run actions).phase = .attending token n →
      Submission.ofConnection n ((initial m).run actions).submitted ++
          (c.events.filterMap TransportEvent.message?).map
            (fun message => ⟨n, m.id, .bytes message⟩) =
        expected m n actions
  complete : ∀ front back n token, actions = front ++ back →
    ((initial m).makers front)[n]? = some token →
      ((initial m).run front).phase ≠ .attending token n →
        ((initial m).run front).tokens.isCancelled token = false →
          Submission.ofConnection n ((initial m).run actions).submitted = expected m n actions

theorem reached_run (h : ofConfig config = .ok m) (n : Nat) {actions : List Action}
    (horderly : (initial m).Orderly actions) :
    Reached m.framing.build n ((initial m).makers actions) ((initial m).reads n actions)
      ((initial m).run actions) := by
  have hconnections : (initial m).module.connections = [] := (framer_of_ofConfig h).2
  have hinitial : Reached m.framing.build n [] [] (initial m) := by
    refine .unmade rfl ?_ rfl rfl
    rw [hconnections]
    rfl
  exact hinitial.run (congrArg List.length hconnections).symm (sound_initial h) horderly

theorem Holds.submitted_eq (h : Holds start token n chunks sent s c) (hsound : s.Sound m) :
    Submission.ofConnection n s.submitted = sent.map fun message => ⟨n, m.id, .bytes message⟩ := by
  rw [h.submitted, hsound.id]

/-- **The connections of a client are isolated as long as the framer is handed on in order**,
whichever framing it has, and in whichever order everything else happens. -/
theorem run_isolated_of_orderly (h : ofConfig config = .ok m) {actions : List Action}
    (horderly : (initial m).Orderly actions) : Isolation m actions := by
  have hsound (actions : List Action) : ((initial m).run actions).Sound m :=
    (sound_initial h).run actions
  constructor
  case own =>
    intro n
    cases reached_run h n horderly with
    | unmade _ _ _ hsubmitted =>
      rw [hsubmitted]
      exact List.nil_prefix
    | made _ hholds =>
      rw [hholds.submitted_eq (hsound actions)]
      exact hholds.follows.isPrefix.map _
  case attended =>
    intro n c token hc hphase
    cases reached_run h n horderly with
    | unmade _ hn => cases hn.symm.trans hc
    | made _ hholds =>
      obtain rfl := Option.some.inj (hholds.connection.symm.trans hc)
      obtain rfl := hholds.maker token hphase
      rw [hholds.submitted_eq (hsound actions), ← List.map_append,
        hholds.follows.append_waiting hphase, expected]
  case complete =>
    intro front back n token hactions hmaker hphase hcancelled
    subst hactions
    obtain ⟨hfront, hback⟩ := orderly_append.1 horderly
    cases reached_run h n hfront with
    | unmade hmaker' => cases hmaker'.symm.trans hmaker
    | made hmaker' hholds =>
      -- The front of the run settles what is sent on, and the back of it adds nothing.
      obtain rfl := Option.some.inj (hmaker'.symm.trans hmaker)
      have hcomplete := hholds.follows.complete_of_not hphase (by simp [hcancelled])
      obtain ⟨c, hholds'⟩ := hholds.run_of_complete (hsound front) hcomplete hback
      have hread := reads_eq_nil hholds.connection hcomplete.stage back
      rw [← run_append] at hholds'
      rw [hholds'.submitted_eq (hsound _), expected, reads_append, hread, List.append_nil,
        ← hcomplete.sent]

/-- A connection that ends in the middle of a message and clears the framer when the next one has
already been made. -/
theorem run_isolated_of_orderly_torn :
    let config : ModuleConfig := ⟨"link", typeName, ⟨[("framing", .string "SLIP"),
      ("host", .string "10.0.0.9"), ("port", .number (.integer 7000)),
      ("reconnect_ms", .number (.integer 0))]⟩⟩
    let m : TcpClient :=
      ⟨"link", "10.0.0.9:7000", .slip, ⟨0⟩, FramingMethod.slip.build, [], none, .idle⟩
    let actions : List Action := [.start .root, .connected,
      .connection 0 (.read [0xC0, 0x61, 0xC0, 0x62]), .attend, .connection 0 .endOfStream, .attend,
      .proceed, .proceed, .proceed, .connected, .connection 0 .clear, .connection 1 (.read [0x63]),
      .connection 0 .finish, .connection 1 (.read [0x64, 0xC0, 0x65]), .attend]
    ofConfig config = .ok m ∧ Isolation m actions ∧
      (initial m).reads 0 actions = [[0xC0, 0x61, 0xC0, 0x62]] ∧
      (initial m).reads 1 actions = [[0x63], [0x64, 0xC0, 0x65]] ∧
      ((initial m).run actions).submitted =
        [⟨0, "link", .bytes [0x61]⟩, ⟨1, "link", .bytes [0x63, 0x64]⟩] := by
  intro config m actions
  have h : ofConfig config = .ok m := rfl
  have horderly : (initial m).Orderly actions := of_decide_eq_true (by cbv)
  exact ⟨h, run_isolated_of_orderly h horderly, by cbv, by cbv, by cbv⟩

/-- In the first run a connection ends, the next one is made and reads the beginning of a message,
and only then the first one clears the framer: the next message is cut short. In the second run the
client is stopped and started again while its first connection still reads: what that one reads is
put before what the next one does. -/
theorem shared_framer_mixes_connections :
    let config : ModuleConfig := ⟨"link", typeName, ⟨[("framing", .string "SLIP"),
      ("host", .string "10.0.0.9"), ("port", .number (.integer 7000)),
      ("reconnect_ms", .number (.integer 0))]⟩⟩
    let m : TcpClient :=
      ⟨"link", "10.0.0.9:7000", .slip, ⟨0⟩, FramingMethod.slip.build, [], none, .idle⟩
    let late : List Action := [.start .root, .connected, .connection 0 .endOfStream, .attend,
      .proceed, .proceed, .proceed, .connected, .connection 1 (.read [0x61]), .connection 0 .clear,
      .connection 1 (.read [0x62, 0xC0]), .attend]
    let restarted : List Action := [.start .root, .connected, .stop, .notice, .proceed, .proceed,
      .notice, .proceed, .proceed, .start .root, .connected, .connection 0 (.read [0x61]),
      .connection 1 (.read [0x62, 0xC0]), .attend]
    ofConfig config = .ok m ∧
      (((initial m).run late).tokens.cancelled = [] ∧
        Submission.ofConnection 1 ((initial m).run late).submitted = [⟨1, "link", .bytes [0x62]⟩] ∧
        expected m 1 late = [⟨1, "link", .bytes [0x61, 0x62]⟩]) ∧
      (((initial m).run restarted).phase = .attending ⟨[1]⟩ 1 ∧
        ((initial m).run restarted).tokens.isCancelled ⟨[1]⟩ = false ∧
        Submission.ofConnection 1 ((initial m).run restarted).submitted =
          [⟨1, "link", .bytes [0x61, 0x62]⟩] ∧
        expected m 1 restarted = [⟨1, "link", .bytes [0x62]⟩]) ∧
      ¬ Isolation m late ∧ ¬ Isolation m restarted := by
  intro config m late restarted
  have hlate : Submission.ofConnection 1 ((initial m).run late).submitted =
      [⟨1, "link", .bytes [0x62]⟩] := by cbv
  have hlate' : expected m 1 late = [⟨1, "link", .bytes [0x61, 0x62]⟩] := by cbv
  have hrestarted : Submission.ofConnection 1 ((initial m).run restarted).submitted =
      [⟨1, "link", .bytes [0x61, 0x62]⟩] := by cbv
  have hrestarted' : expected m 1 restarted = [⟨1, "link", .bytes [0x62]⟩] := by cbv
  refine ⟨rfl, ⟨by cbv, hlate, hlate'⟩, ⟨by cbv, by cbv, hrestarted, hrestarted'⟩, ?_, ?_⟩
  · intro h
    have hown := h.own 1
    rw [hlate, hlate'] at hown
    simp at hown
  · intro h
    have hown := h.own 1
    rw [hrestarted, hrestarted'] at hown
    simp at hown

end Service

end Switchboard.TcpClient
