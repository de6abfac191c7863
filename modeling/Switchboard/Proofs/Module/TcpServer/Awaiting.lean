import Switchboard.Proofs.Module.TcpServer.Sending

/-!
# Messages that are waited for

A server hands a message to one connection after the other and waits for the answer of each. A
delivery in service comes to the same when nobody else waits in line and the connections that it
waits for take the steps by which they come to answer.
-/

namespace Switchboard.TcpServer

open Connection

variable {m : TcpServer} {message : Bytes} {d : Delivery} {n : Nat} {sv : Served}
variable {target : Address × Nat} {targets rest : List (Address × Nat)}

/-- The connection when it has answered. -/
def Served.awaited (sv : Served) (message : Bytes) : Served :=
  { sv with
    framer := (sv.connection.await sv.framer message).2.1
    connection := (sv.connection.await sv.framer message).2.2 }

/-- Whether the connection of a number takes a message. -/
def takes (m : TcpServer) (message : Bytes) (n : Nat) : Bool :=
  match m.served[n]? with
  | some sv => (sv.connection.await sv.framer message).1 = .queued
  | none => false

theorem sendTo_eq (hsv : m.served[target.2]? = some sv) :
    m.sendTo message target = (m.takes message target.2,
      m.goneThrough (fun _ sv => sv.awaited message) (m.takes message) [target]) := by
  have hne := await_ne_waits sv.framer sv.connection message
  obtain ⟨⟨sent, f, c⟩, hawait⟩ : ∃ result, sv.connection.await sv.framer message = result :=
    ⟨_, rfl⟩
  cases sent with
  | queued =>
    have hlive : m.takes message target.2 = true := by simp only [takes, hsv, hawait, decide_true]
    rw [goneThrough_singleton_of_live hsv hlive, hlive]
    simp only [sendTo, hsv, hawait, Served.awaited]
  | waits => exact absurd (congrArg Prod.fst hawait) hne
  | refused e =>
    have hlive : m.takes message target.2 = false := by
      simp only [takes, hsv, hawait, reduceCtorEq, decide_false]
    rw [goneThrough_singleton_of_not_live hsv hlive, hlive]
    simp only [sendTo, hsv, hawait, Served.awaited]

/-- Handing a message to connections of different numbers. -/
theorem sendAll_eq (hserved : ∀ t ∈ targets, ∃ sv, m.served[t.2]? = some sv)
    (hdistinct : (targets.map Prod.snd).Nodup) :
    m.sendAll message targets = (targets.countP fun t => m.takes message t.2,
      m.goneThrough (fun _ sv => sv.awaited message) (m.takes message) targets) := by
  induction targets generalizing m with
  | nil => rw [sendAll, goneThrough_nil, List.countP_nil]
  | cons target rest ih =>
    obtain ⟨⟨sv, hsv⟩, hserved⟩ := List.forall_mem_cons.1 hserved
    rw [List.map_cons, List.nodup_cons] at hdistinct
    obtain ⟨hnew, hdistinct⟩ := hdistinct
    obtain ⟨m', hm'⟩ : ∃ m' : TcpServer, m' =
        m.goneThrough (fun _ sv => sv.awaited message) (m.takes message) [target] := ⟨_, rfl⟩
    have hsame : ∀ t ∈ rest, m'.served[t.2]? = m.served[t.2]? := by
      intro t ht
      rw [hm']
      refine getElem?_goneThrough fun hmem => hnew ?_
      rw [← List.mem_singleton.1 hmem]
      exact List.mem_map_of_mem ht
    have htakes : ∀ t ∈ rest, m'.takes message t.2 = m.takes message t.2 := by
      intro t ht
      simp only [takes, hsame t ht]
    have hcount : rest.countP (fun t => m'.takes message t.2) =
        rest.countP fun t => m.takes message t.2 :=
      List.countP_congr fun t ht => by rw [htakes t ht]
    have hmodule : m'.goneThrough (fun _ sv => sv.awaited message) (m'.takes message) rest =
        m.goneThrough (fun _ sv => sv.awaited message) (m.takes message) (target :: rest) := by
      rw [goneThrough_congr (fun _ _ _ => rfl) htakes, ← List.singleton_append, goneThrough_append,
        hm']
      rw [List.forall_mem_singleton]
      exact hnew
    have hrest := ih (fun t ht => by rw [hsame t ht]; exact hserved t ht) hdistinct
    rw [sendAll, sendTo_eq hsv, ← hm']
    simp only [hrest, hcount, hmodule, List.countP_cons]
    cases m.takes message target.2 <;> simp [Nat.add_comm]

namespace Service

variable {s : Service} {k : Nat}

/-! ## In service -/

/-- The steps of a connection that depend on nobody else. -/
theorem run_connection {steps : List Connection.Step} (hsv : s.module.served[n]? = some sv)
    (hsteps : ∀ step ∈ steps, ∀ held heard f (c : Connection),
      c.step held heard f step = c.step true true f step) :
    s.run (steps.map (.connection n)) =
      { s with
        module := s.module.update n
          { sv with
            framer := (steps.foldl (fun (f, c) step => c.step true true f step)
              (sv.framer, sv.connection)).1
            connection := (steps.foldl (fun (f, c) step => c.step true true f step)
              (sv.framer, sv.connection)).2 } } := by
  induction steps generalizing s sv with
  | nil =>
    rw [List.map_nil, List.foldl_nil, update_eq_self hsv]
    rfl
  | cons step rest ih =>
    obtain ⟨hstep, hsteps⟩ := List.forall_mem_cons.1 hsteps
    have hfirst : s.step (.connection n step) =
        { s with
          module := s.module.update n
            { sv with
              framer := (sv.connection.step true true sv.framer step).1
              connection := (sv.connection.step true true sv.framer step).2 } } := by
      simp only [Service.step, hsv, hstep]
    have hlt := (List.getElem?_eq_some_iff.1 hsv).1
    rw [List.map_cons]
    change (s.step (.connection n step)).run _ = _
    rw [hfirst, ih (List.getElem?_set_self hlt) hsteps]
    simp [update]

/-- While nobody waits, every line is empty. -/
theorem line_eq_nil (hplaces : ∀ d ∈ s.deliveries, d.place = none) (n : Nat) : s.line n = [] :=
  List.filterMap_eq_nil_iff.2 fun d hd => placeAt_of_none (hplaces d hd) n

theorem sentTo_singleton (hsv : s.module.served[target.2]? = some sv) :
    s.sentTo d [target] = if s.answerTo d target.2 = .queued
      then s.module.update target.2 (sv.queued d.message) else s.module.forget target.1 := by
  by_cases hlive : s.answerTo d target.2 = .queued
  · rw [sentTo, goneThrough_singleton_of_live hsv (decide_eq_true hlive), if_pos hlive, if_pos hlive]
  · rw [sentTo, goneThrough_singleton_of_not_live hsv (decide_eq_false hlive), if_neg hlive,
      if_neg hlive, update_eq_self hsv]

theorem countTo_singleton (s : Service) (d : Delivery) (target : Address × Nat) :
    s.countTo d [target] = (decide (s.answerTo d target.2 = .queued)).toNat := by
  by_cases hlive : s.answerTo d target.2 = .queued <;> simp [countTo, hlive]

/-- The steps by which a connection comes to answer. -/
theorem run_relief (hsv : s.module.served[n]? = some sv) :
    s.run (sv.connection.relief.map (.connection n)) =
      { s with
        module := s.module.update n
          { sv with
            framer := (sv.connection.relieve sv.framer).1
            connection := (sv.connection.relieve sv.framer).2 } } :=
  run_connection hsv fun _ hstep held heard => step_eq_of_mem_relief hstep held heard

/-- A delivery that waits at a connection with nobody ahead gets its answer. -/
theorem exists_run_relief (hd : s.deliveries[k]? = some d) (hrefused : d.refused = none)
    (htargets : d.targets = target :: rest) (hplace : d.place = some 0)
    (hsv : s.module.served[target.2]? = some sv)
    (hwaits : (sv.connection.send 0 d.message).1 = .waits) :
    ∃ own, (∀ a ∈ own, a = .deliver k ∨ ∃ step, a = .connection target.2 step) ∧
      s.run own =
        { s with
          module := (s.module.sendTo d.message target).2
          deliveries := s.deliveries.set k
            { d with
              targets := rest
              delivered := d.delivered + (s.module.sendTo d.message target).1.toNat
              place := none } } := by
  have hlt := (List.getElem?_eq_some_iff.1 hsv).1
  have hne := await_ne_waits sv.framer sv.connection d.message
  have hsend := (send_eq_of_waits hwaits).1
  have hrelief := run_relief hsv
  obtain ⟨⟨f, c⟩, hrelieve⟩ : ∃ result, sv.connection.relieve sv.framer = result := ⟨_, rfl⟩
  obtain ⟨⟨sent, c'⟩, henqueue⟩ : ∃ result, c.enqueue 0 d.message = result := ⟨_, rfl⟩
  have hawait : sv.connection.await sv.framer d.message = (sent, f, c') := by
    simp only [await, hsend, hrelieve, henqueue]
  rw [hrelieve] at hrelief
  rw [hawait] at hne
  -- The connection has made room or has ended, so that the delivery goes past it.
  have hsv' : (s.module.update target.2 { sv with framer := f, connection := c }).served[target.2]? =
      some { sv with framer := f, connection := c } := List.getElem?_set_self hlt
  have hanswer : answerTo
      { s with module := s.module.update target.2 { sv with framer := f, connection := c } } d
      target.2 = sent := by
    rw [answerTo_of_offer htargets hsv', hplace]
    simp [Connection.offer, ahead, henqueue]
  obtain ⟨count, hpast⟩ := exists_run_past
    (s := { s with module := s.module.update target.2 { sv with framer := f, connection := c } })
    hd hrefused htargets hsv' (hanswer ▸ hne)
  refine ⟨sv.connection.relief.map (.connection target.2) ++ List.replicate count (.deliver k),
    ?_, ?_⟩
  · intro a ha
    rcases List.mem_append.1 ha with ha | ha
    · obtain ⟨step, -, rfl⟩ := List.mem_map.1 ha
      exact .inr ⟨step, rfl⟩
    · exact .inl (List.mem_replicate.1 ha).2
  · rw [run_append, hrelief, hpast, goPast, sentTo_singleton hsv', countTo_singleton, hanswer]
    have hoffers := Offers.of_enqueue henqueue
    cases hoffers with
    | queued =>
      simp only [sendTo, hsv, hawait, if_true, decide_true]
      simp [update, Served.queued, past]
    | waits => exact absurd rfl hne
    | refused e => simp [sendTo, hsv, hawait, past]

/-- A delivery gets the answer of its next connection. -/
theorem exists_run_sendTo (hplaces : ∀ d ∈ s.deliveries, d.place = none)
    (hd : s.deliveries[k]? = some d) (hrefused : d.refused = none)
    (htargets : d.targets = target :: rest) (hsv : s.module.served[target.2]? = some sv) :
    ∃ own, (∀ a ∈ own, a = .deliver k ∨ ∃ step, a = .connection target.2 step) ∧
      s.run own =
        { s with
          module := (s.module.sendTo d.message target).2
          deliveries := s.deliveries.set k
            { d with
              targets := rest
              delivered := d.delivered + (s.module.sendTo d.message target).1.toNat } } := by
  have hplace : d.place = none := hplaces d (List.mem_of_getElem? hd)
  have hanswer : s.answerTo d target.2 = (sv.connection.send 0 d.message).1 := by
    rw [answerTo_of_offer htargets hsv, hplace, line_eq_nil hplaces]
    rfl
  have hlt := (List.getElem?_eq_some_iff.1 hd).1
  by_cases hwaits : (sv.connection.send 0 d.message).1 = .waits
  · have hfirst := step_deliver_of_waits hd hrefused htargets (hanswer.trans hwaits)
    rw [hplace, line_eq_nil hplaces] at hfirst
    obtain ⟨d', hd'⟩ : ∃ d' : Delivery, d' = { d with place := some 0 } := ⟨_, rfl⟩
    change _ = { s with deliveries := s.deliveries.set k { d with place := some 0 } } at hfirst
    rw [← hd'] at hfirst
    obtain ⟨own, hown, hrun⟩ := exists_run_relief
      (s := { s with deliveries := s.deliveries.set k d' }) (d := d') (List.getElem?_set_self hlt)
      (by rw [hd']; exact hrefused) (by rw [hd']; exact htargets) (by rw [hd']) hsv
      (by rw [hd']; exact hwaits)
    refine ⟨.deliver k :: own, List.forall_mem_cons.2 ⟨.inl rfl, hown⟩, ?_⟩
    change (s.step (.deliver k)).run own = _
    rw [hfirst, hrun, hd']
    simp [hplace]
  · obtain ⟨count, hpast⟩ := exists_run_past hd hrefused htargets hsv (hanswer ▸ hwaits)
    refine ⟨_, fun a ha => .inl (List.mem_replicate.1 ha).2, hpast.trans ?_⟩
    have hoffers := offers_send sv.connection 0 d.message
    obtain ⟨⟨sent, c⟩, hsend⟩ : ∃ result, sv.connection.send 0 d.message = result := ⟨_, rfl⟩
    rw [hsend] at hanswer hwaits hoffers
    rw [goPast, sentTo_singleton hsv, countTo_singleton, hanswer]
    cases hoffers with
    | queued =>
      have hsendTo : s.module.sendTo d.message target =
          (true, s.module.update target.2 (sv.queued d.message)) := by
        simp only [sendTo, hsv, await, hsend]
        rfl
      simp [hsendTo, hplace, past]
    | waits => exact absurd rfl hwaits
    | refused e =>
      have hsendTo : s.module.sendTo d.message target = (false, s.module.forget target.1) := by
        simp only [sendTo, hsv, await, hsend, update_eq_self hsv]
      simp [hsendTo, hplace, past]

theorem sendTo_snd (message : Bytes) (hsv : m.served[target.2]? = some sv) :
    (m.sendTo message target).2.id = m.id ∧
      (m.sendTo message target).2.served.length = m.served.length := by
  rw [sendTo_eq hsv]
  exact ⟨rfl, List.length_mapIdx⟩

/-- A delivery gets the answers of all its connections and returns. -/
theorem exists_run_sendAll (hplaces : ∀ d ∈ s.deliveries, d.place = none)
    (hd : s.deliveries[k]? = some d) (hrefused : d.refused = none) (htargets : d.targets = targets)
    (hserved : ∀ t ∈ targets, t.2 < s.module.served.length) :
    ∃ own, (∀ a ∈ own, a = .deliver k ∨ ∃ t ∈ targets, ∃ step, a = .connection t.2 step) ∧
      s.run own =
        { s with
          module := (s.module.sendAll d.message targets).2
          deliveries := s.deliveries.eraseIdx k
          answers := s.answers ++
            [s.module.answer (d.delivered + (s.module.sendAll d.message targets).1)] } := by
  induction targets generalizing s d with
  | nil =>
    refine ⟨[.deliver k], by simp, ?_⟩
    change s.step (.deliver k) = _
    rw [step_deliver_nil hd hrefused htargets]
    rfl
  | cons target rest ih =>
    obtain ⟨hfirst, hserved⟩ := List.forall_mem_cons.1 hserved
    have hsv := List.getElem?_eq_getElem hfirst
    obtain ⟨hid, hlength⟩ := sendTo_snd d.message hsv
    have hlt := (List.getElem?_eq_some_iff.1 hd).1
    obtain ⟨own, hown, hrun⟩ := exists_run_sendTo hplaces hd hrefused htargets hsv
    obtain ⟨d', hd'⟩ : ∃ d' : Delivery, d' = { d with
        targets := rest
        delivered := d.delivered + (s.module.sendTo d.message target).1.toNat } := ⟨_, rfl⟩
    rw [← hd'] at hrun
    have hplaces' : ∀ d'' ∈ s.deliveries.set k d', d''.place = none := by
      intro d'' hmem
      rcases List.mem_or_eq_of_mem_set hmem with hmem | rfl
      · exact hplaces d'' hmem
      · rw [hd']
        exact hplaces d (List.mem_of_getElem? hd)
    obtain ⟨more, hmore, hrest⟩ := ih (d := d')
      (s := { s with
        module := (s.module.sendTo d.message target).2
        deliveries := s.deliveries.set k d' })
      hplaces' (List.getElem?_set_self hlt) (by rw [hd']; exact hrefused) (by rw [hd'])
      (fun t ht => hlength ▸ hserved t ht)
    refine ⟨own ++ more, ?_, ?_⟩
    · intro a ha
      rcases List.mem_append.1 ha with ha | ha
      · exact (hown a ha).imp_right fun hstep => ⟨target, List.mem_cons_self, hstep⟩
      · exact (hmore a ha).imp_right fun ⟨t, ht, hstep⟩ => ⟨t, List.mem_cons_of_mem target ht, hstep⟩
    · have hanswer (delivered : Nat) : (s.module.sendTo d.message target).2.answer delivered =
          s.module.answer delivered := by rw [answer, answer, hid]
      rw [run_append, hrun, hrest, hd']
      simp only [sendAll, List.eraseIdx_set_eq, hanswer, Nat.add_assoc]

end Service

end Switchboard.TcpServer
