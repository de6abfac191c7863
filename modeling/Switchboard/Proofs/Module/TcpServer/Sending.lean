import Mathlib.Data.List.Nodup
import Switchboard.Proofs.Module.TcpServer.Reachable
import Switchboard.Proofs.Transport.Waiting

/-!
# How a message goes through connections

A delivery that nothing disturbs offers its message to one connection after the other until it comes
to one that has no room, where it waits: from then on its own steps change nothing.
-/

namespace Switchboard.TcpServer

open Connection

variable {m : TcpServer} {d : Delivery} {n : Nat} {sv : Served}
variable {target : Address × Nat} {targets before rest : List (Address × Nat)}
variable {change change' : Nat → Served → Served} {live live' : Nat → Bool}

/-! ## Going through connections -/

/-- The server when connections have been gone through: each of them has become what `change` says,
and the table has lost the peers of those that are not live. -/
def goneThrough (m : TcpServer) (change : Nat → Served → Served) (live : Nat → Bool)
    (targets : List (Address × Nat)) : TcpServer :=
  { m with
    served := m.served.mapIdx fun n sv => if n ∈ targets.map Prod.snd then change n sv else sv
    clients := m.clients.filter fun client => ∀ t ∈ targets, t.1 = client.1 → live t.2 = true }

theorem goneThrough_nil (m : TcpServer) (change : Nat → Served → Served) (live : Nat → Bool) :
    m.goneThrough change live [] = m := by
  have hserved : m.served.mapIdx (fun n sv =>
      if n ∈ ([] : List (Address × Nat)).map Prod.snd then change n sv else sv) = m.served :=
    List.ext_getElem? fun n => by simp
  rw [goneThrough, hserved]
  simp

theorem goneThrough_congr (hchange : ∀ t ∈ targets, ∀ sv, change t.2 sv = change' t.2 sv)
    (hlive : ∀ t ∈ targets, live t.2 = live' t.2) :
    m.goneThrough change live targets = m.goneThrough change' live' targets := by
  have hserved (n : Nat) (sv : Served) :
      (if n ∈ targets.map Prod.snd then change n sv else sv) =
        if n ∈ targets.map Prod.snd then change' n sv else sv := by
    split
    · next hn =>
      obtain ⟨t, ht, rfl⟩ := List.mem_map.1 hn
      exact hchange t ht sv
    · rfl
  have hclients (client : Address × Nat) :
      (∀ t ∈ targets, t.1 = client.1 → live t.2 = true) ↔
        ∀ t ∈ targets, t.1 = client.1 → live' t.2 = true :=
    forall₂_congr fun t ht => by rw [hlive t ht]
  simp only [goneThrough, hserved, hclients]

/-- Connections of different numbers may be gone through in parts. -/
theorem goneThrough_append (hdistinct : ∀ t ∈ before, t.2 ∉ rest.map Prod.snd) :
    m.goneThrough change live (before ++ rest) =
      (m.goneThrough change live before).goneThrough change live rest := by
  have hserved : (m.goneThrough change live (before ++ rest)).served =
      ((m.goneThrough change live before).goneThrough change live rest).served := by
    refine List.ext_getElem? fun n => ?_
    simp only [goneThrough, List.getElem?_mapIdx, List.map_append, List.mem_append, Option.map_map]
    refine congrArg (Option.map · _) (funext fun sv => ?_)
    by_cases hbefore : n ∈ before.map Prod.snd
    · obtain ⟨t, ht, rfl⟩ := List.mem_map.1 hbefore
      simp [hbefore, hdistinct t ht]
    · simp only [Function.comp_apply, hbefore, false_or, if_false]
  have hclients : (m.goneThrough change live (before ++ rest)).clients =
      ((m.goneThrough change live before).goneThrough change live rest).clients := by
    simp only [goneThrough, List.filter_filter, List.forall_mem_append]
    refine List.filter_congr fun client _ => ?_
    rw [← Bool.decide_and, decide_eq_decide, and_comm]
  exact congrArg₂ (fun served clients => { m with served, clients }) hserved hclients

theorem getElem?_goneThrough (hn : n ∉ targets.map Prod.snd) :
    (m.goneThrough change live targets).served[n]? = m.served[n]? := by
  simp [goneThrough, List.getElem?_mapIdx, hn]

theorem served_goneThrough_singleton (hsv : m.served[target.2]? = some sv) :
    m.served.mapIdx (fun n sv => if n ∈ [target].map Prod.snd then change n sv else sv) =
      m.served.set target.2 (change target.2 sv) := by
  have hlt := (List.getElem?_eq_some_iff.1 hsv).1
  refine List.ext_getElem? fun n => ?_
  rw [List.getElem?_mapIdx]
  by_cases hn : target.2 = n
  · subst hn
    rw [List.getElem?_set_self hlt, hsv]
    simp
  · rw [List.getElem?_set_ne hn]
    simp [Ne.symm hn]

/-- A live connection keeps its peer in the table. -/
theorem goneThrough_singleton_of_live (hsv : m.served[target.2]? = some sv)
    (hlive : live target.2 = true) :
    m.goneThrough change live [target] = m.update target.2 (change target.2 sv) := by
  rw [goneThrough, served_goneThrough_singleton hsv]
  simp [update, hlive]

/-- The peer of another connection is taken from the table. -/
theorem goneThrough_singleton_of_not_live (hsv : m.served[target.2]? = some sv)
    (hlive : live target.2 = false) : m.goneThrough change live [target] =
      (m.update target.2 (change target.2 sv)).forget target.1 := by
  have hclients : m.clients.filter (fun client =>
      ∀ t ∈ [target], t.1 = client.1 → live t.2 = true) =
        m.clients.filter fun client => client.1 ≠ target.1 := by
    refine List.filter_congr fun client _ => decide_eq_decide.2 ?_
    rw [List.forall_mem_singleton, hlive]
    exact ⟨fun h heq => Bool.false_ne_true (h heq.symm), fun h heq => absurd heq.symm h⟩
  rw [goneThrough, served_goneThrough_singleton hsv, hclients]
  rfl

namespace Service

variable {s : Service} {k : Nat}

/-! ## Deliveries that nothing disturbs -/

/-- What a delivery is answered by the connection of a number. -/
def answerTo (s : Service) (d : Delivery) (n : Nat) : Sent :=
  match s.module.served[n]? with
  | some sv => (sv.connection.offer (s.line n) (d.placeAt n) d.message).1
  | none => .refused .notConnected

/-- The server when a delivery has gone through connections. -/
def sentTo (s : Service) (d : Delivery) (targets : List (Address × Nat)) : TcpServer :=
  s.module.goneThrough
    (fun n sv => if s.answerTo d n = .queued then sv.queued d.message else sv)
    (fun n => s.answerTo d n = .queued) targets

/-- How many of them have the message queued. -/
def countTo (s : Service) (d : Delivery) (targets : List (Address × Nat)) : Nat :=
  targets.countP fun t => s.answerTo d t.2 = .queued

theorem placeAt_of_none (hplace : d.place = none) (n : Nat) : d.placeAt n = none := by
  rw [Delivery.placeAt, hplace, ite_self]

theorem placeAt_self (htargets : d.targets = target :: rest) : d.placeAt target.2 = d.place := by
  simp [Delivery.placeAt, htargets]

theorem placeAt_of_ne (htargets : d.targets = target :: rest) (hne : target.2 ≠ n) :
    d.placeAt n = none := by
  simp [Delivery.placeAt, htargets, hne]

/-- A connection answers as before while it stays as it is and the delivery has the same place in its
line. -/
theorem answerTo_set (hd : s.deliveries[k]? = some d) {d' : Delivery} {module : TcpServer}
    (hserved : module.served[n]? = s.module.served[n]?) (hmessage : d'.message = d.message)
    (hplace : d'.placeAt n = d.placeAt n) :
    answerTo { s with module, deliveries := s.deliveries.set k d' } d' n = s.answerTo d n := by
  have hline : line { s with module, deliveries := s.deliveries.set k d' } n = s.line n :=
    filterMap_set_eq_filterMap hd hplace
  simp only [answerTo, hserved, hline, hplace, hmessage]

theorem step_deliver (hd : s.deliveries[k]? = some d) (hrefused : d.refused = none)
    (htargets : d.targets = target :: rest) :
    s.step (.deliver k) =
      { s with
        module := (s.module.offer d target rest (s.line target.2)).1
        deliveries := s.deliveries.set k (s.module.offer d target rest (s.line target.2)).2 } := by
  simp only [step, deliver, hd, hrefused, htargets]

theorem answerTo_of_offer (htargets : d.targets = target :: rest)
    (hsv : s.module.served[target.2]? = some sv) : s.answerTo d target.2 =
      (sv.connection.offer (s.line target.2) d.place d.message).1 := by
  simp only [answerTo, hsv, placeAt_self htargets]

/-- The delivery when it has gone past its first connection, which has counted for so many. -/
def past (d : Delivery) (rest : List (Address × Nat)) (taken : Nat) : Delivery :=
  { d with targets := rest, delivered := d.delivered + taken, place := none }

/-- The server when a delivery has gone past its first connection. -/
def goPast (s : Service) (k : Nat) (d : Delivery) (target : Address × Nat)
    (rest : List (Address × Nat)) : Service :=
  { s with
    module := s.sentTo d [target]
    deliveries := s.deliveries.set k (past d rest (s.countTo d [target])) }

/-- A delivery goes past a connection that does not make it wait. -/
theorem exists_run_past (hd : s.deliveries[k]? = some d) (hrefused : d.refused = none)
    (htargets : d.targets = target :: rest) (hsv : s.module.served[target.2]? = some sv)
    (hroom : s.answerTo d target.2 ≠ .waits) :
    ∃ count, s.run (List.replicate count (.deliver k)) = s.goPast k d target rest := by
  have hlt := (List.getElem?_eq_some_iff.1 hd).1
  have hstep := step_deliver hd hrefused htargets
  have hanswer := answerTo_of_offer htargets hsv
  have hoffered := offered_offer s.module d target rest (s.line target.2)
  generalize s.module.offer d target rest (s.line target.2) = result at hoffered hstep
  obtain ⟨m', d'⟩ := result
  cases hoffered with
  | missing hnone => cases hnone.symm.trans hsv
  | @queued sv' hsv' hsent =>
    obtain rfl := Option.some.inj (hsv.symm.trans hsv')
    rw [hsent] at hanswer
    refine ⟨1, hstep.trans ?_⟩
    have hcount : s.countTo d [target] = 1 := by simp [countTo, hanswer]
    rw [goPast, sentTo, goneThrough_singleton_of_live hsv (decide_eq_true hanswer), if_pos hanswer,
      hcount]
    rfl
  | @waits sv' hsv' hsent =>
    obtain rfl := Option.some.inj (hsv.symm.trans hsv')
    exact absurd (hanswer.trans hsent) hroom
  | @refused sv' e hsv' hsent =>
    obtain rfl := Option.some.inj (hsv.symm.trans hsv')
    rw [hsent] at hanswer
    have hdead : s.answerTo d target.2 ≠ .queued := by
      rw [hanswer]
      simp
    refine ⟨2, ?_⟩
    change (s.step (.deliver k)).step (.deliver k) = _
    have hcount : s.countTo d [target] = 0 := by simp [countTo, hdead]
    rw [hstep, goPast, sentTo, goneThrough_singleton_of_not_live hsv (decide_eq_false hdead),
      if_neg hdead, update_eq_self hsv, hcount]
    simp [step, deliver, hlt, hrefused, past]

/-- The first connection has nothing to do with the others: they stay as they are. -/
theorem served_goPast (k : Nat) (rest : List (Address × Nat)) (hne : target.2 ≠ n) :
    (s.goPast k d target rest).module.served[n]? = s.module.served[n]? :=
  getElem?_goneThrough (by simpa using hne.symm)

/-- And they answer as before. -/
theorem answerTo_goPast (hd : s.deliveries[k]? = some d) (htargets : d.targets = target :: rest)
    (hne : target.2 ≠ n) :
    (s.goPast k d target rest).answerTo (past d rest (s.countTo d [target])) n = s.answerTo d n := by
  refine answerTo_set hd (served_goPast k rest hne) rfl ?_
  rw [placeAt_of_ne htargets hne, placeAt_of_none rfl]

/-- What is made of the others afterwards is what is made of all of them. -/
theorem sentTo_goPast (hd : s.deliveries[k]? = some d) (htargets : d.targets = target :: rest)
    (hne : ∀ t ∈ targets, target.2 ≠ t.2) :
    (s.goPast k d target rest).sentTo (past d rest (s.countTo d [target])) targets =
      s.sentTo d (target :: targets) := by
  have hanswer : ∀ t ∈ targets, (s.goPast k d target rest).answerTo
      (past d rest (s.countTo d [target])) t.2 = s.answerTo d t.2 :=
    fun t ht => answerTo_goPast hd htargets (hne t ht)
  have hothers : (s.goPast k d target rest).sentTo (past d rest (s.countTo d [target])) targets =
      (s.sentTo d [target]).goneThrough
        (fun n sv => if s.answerTo d n = .queued then sv.queued d.message else sv)
        (fun n => s.answerTo d n = .queued) targets :=
    goneThrough_congr (fun t ht sv => by rw [hanswer t ht]; rfl) fun t ht => by rw [hanswer t ht]
  have hnew : ∀ t ∈ [target], t.2 ∉ targets.map Prod.snd := by
    rw [List.forall_mem_singleton]
    intro hmem
    obtain ⟨t, ht, heq⟩ := List.mem_map.1 hmem
    exact hne t ht heq.symm
  rw [hothers, sentTo, sentTo]
  exact (goneThrough_append hnew).symm

theorem countTo_goPast (hd : s.deliveries[k]? = some d) (htargets : d.targets = target :: rest)
    (hne : ∀ t ∈ targets, target.2 ≠ t.2) :
    s.countTo d [target] +
        (s.goPast k d target rest).countTo (past d rest (s.countTo d [target])) targets =
      s.countTo d (target :: targets) := by
  have hothers : (s.goPast k d target rest).countTo (past d rest (s.countTo d [target])) targets =
      s.countTo d targets :=
    List.countP_congr fun t ht => by rw [answerTo_goPast hd htargets (hne t ht)]
  rw [hothers]
  simp only [countTo, List.countP_cons, List.countP_nil]
  omega

/-- A delivery goes past connections none of which makes it wait. -/
theorem exists_run_through (hd : s.deliveries[k]? = some d) (hrefused : d.refused = none)
    (htargets : d.targets = before ++ rest)
    (hserved : ∀ t ∈ before, ∃ sv, s.module.served[t.2]? = some sv)
    (hdistinct : (d.targets.map Prod.snd).Nodup) (hroom : ∀ t ∈ before, s.answerTo d t.2 ≠ .waits) :
    ∃ count, s.run (List.replicate count (.deliver k)) =
      { s with
        module := s.sentTo d before
        deliveries := s.deliveries.set k
          { d with
            targets := rest
            delivered := d.delivered + s.countTo d before
            place := if before = [] then d.place else none } } := by
  induction before generalizing s d with
  | nil =>
    refine ⟨0, ?_⟩
    obtain ⟨hlt, rfl⟩ := List.getElem?_eq_some_iff.1 hd
    obtain rfl : _ = rest := htargets
    rw [sentTo, goneThrough_nil, if_pos rfl]
    exact congrArg (fun deliveries => { s with deliveries }) (List.set_getElem_self hlt).symm
  | cons target before ih =>
    rw [List.cons_append] at htargets
    obtain ⟨⟨sv, hsv⟩, hserved⟩ := List.forall_mem_cons.1 hserved
    obtain ⟨hfirst, hroom⟩ := List.forall_mem_cons.1 hroom
    rw [htargets, List.map_cons, List.nodup_cons] at hdistinct
    obtain ⟨hnew, hdistinct⟩ := hdistinct
    have hne : ∀ t ∈ before, target.2 ≠ t.2 := by
      intro t ht heq
      exact hnew (heq ▸ List.mem_map_of_mem (List.mem_append_left rest ht))
    have hlt := (List.getElem?_eq_some_iff.1 hd).1
    obtain ⟨count, hpast⟩ := exists_run_past hd hrefused htargets hsv hfirst
    obtain ⟨more, hrest⟩ := ih (s := s.goPast k d target (before ++ rest))
      (d := past d (before ++ rest) (s.countTo d [target])) (List.getElem?_set_self hlt) hrefused rfl
      (fun t ht => by rw [served_goPast k _ (hne t ht)]; exact hserved t ht) hdistinct
      (fun t ht => by rw [answerTo_goPast hd htargets (hne t ht)]; exact hroom t ht)
    rw [sentTo_goPast hd htargets hne] at hrest
    refine ⟨count + more, ?_⟩
    rw [List.replicate_add, run_append, hpast, hrest, ← countTo_goPast hd htargets hne]
    simp [goPast, past, Nat.add_assoc]

/-- A delivery that has come to its last connection returns. -/
theorem step_deliver_nil (hd : s.deliveries[k]? = some d) (hrefused : d.refused = none)
    (htargets : d.targets = []) :
    s.step (.deliver k) =
      { s with
        deliveries := s.deliveries.eraseIdx k
        answers := s.answers ++ [s.module.answer d.delivered] } := by
  simp only [step, deliver, hd, hrefused, htargets]

/-- A delivery that finds no room takes its place in line, if it has none yet. -/
theorem step_deliver_of_waits (hd : s.deliveries[k]? = some d) (hrefused : d.refused = none)
    (htargets : d.targets = target :: rest) (hwaits : s.answerTo d target.2 = .waits) :
    s.step (.deliver k) = { s with
      deliveries := s.deliveries.set k
        { d with place := some (d.place.getD (behind (s.line target.2))) } } := by
  rw [step_deliver hd hrefused htargets]
  have hoffered := offered_offer s.module d target rest (s.line target.2)
  generalize s.module.offer d target rest (s.line target.2) = result at hoffered
  obtain ⟨m', d'⟩ := result
  cases hoffered with
  | missing hnone =>
    simp only [answerTo, hnone] at hwaits
    cases hwaits
  | queued hsv hsent | refused hsv hsent =>
    cases ((answerTo_of_offer htargets hsv).trans hsent).symm.trans hwaits
  | waits => rfl

/-- In its place it finds no room either. -/
theorem answerTo_of_waits (hd : s.deliveries[k]? = some d) (htargets : d.targets = target :: rest)
    (hplace : d.place = none) (hwaits : s.answerTo d target.2 = .waits) {d' : Delivery}
    (hd' : d' = { d with place := some (behind (s.line target.2)) }) :
    answerTo { s with deliveries := s.deliveries.set k d' } d' target.2 = .waits := by
  have hbefore : d.placeAt target.2 = none := by rw [placeAt_self htargets, hplace]
  have hat : d'.placeAt target.2 = some (behind (s.line target.2)) := by
    rw [hd']
    exact placeAt_self htargets
  have hline : (line { s with deliveries := s.deliveries.set k d' } target.2).Perm
      (s.line target.2 ++ [behind (s.line target.2)]) := by
    have h := filterMap_set_perm (g := fun d => d.placeAt target.2) (b := d') hd hbefore
    rwa [hat] at h
  simp only [answerTo, hbefore] at hwaits ⊢
  cases hsv : s.module.served[target.2]? with
  | none =>
    rw [hsv] at hwaits
    cases hwaits
  | some sv =>
    rw [hsv] at hwaits
    have henqueue := (send_eq_of_waits hwaits).2
    simp only [hat, Connection.offer, Option.isSome_some, if_true, ahead_behind hline]
    rw [hd']
    exact congrArg Prod.fst henqueue

/-- A delivery that comes to a connection without room waits, and from then on its own steps change
nothing. -/
theorem exists_step_waits (hd : s.deliveries[k]? = some d) (hrefused : d.refused = none)
    (htargets : d.targets = target :: rest) (hwaits : s.answerTo d target.2 = .waits) :
    ∃ place, s.step (.deliver k) =
        { s with deliveries := s.deliveries.set k { d with place := some place } } ∧
      (s.step (.deliver k)).step (.deliver k) = s.step (.deliver k) := by
  have hlt := (List.getElem?_eq_some_iff.1 hd).1
  have hstep := step_deliver_of_waits hd hrefused htargets hwaits
  refine ⟨_, hstep, ?_⟩
  cases hplace : d.place with
  | some place =>
    have hself : s.step (.deliver k) = s := by
      have hd' : { d with place := some (d.place.getD (behind (s.line target.2))) } = d := by
        rw [hplace, Option.getD_some, ← hplace]
      rw [hstep, hd', (List.getElem?_eq_some_iff.1 hd).2.symm, List.set_getElem_self]
    rw [hself, hself]
  | none =>
    rw [hplace, Option.getD_none] at hstep
    obtain ⟨d', hd'⟩ : ∃ d' : Delivery, d' = { d with place := some (behind (s.line target.2)) } :=
      ⟨_, rfl⟩
    rw [← hd'] at hstep
    have hagain := step_deliver_of_waits
      (s := { s with deliveries := s.deliveries.set k d' }) (List.getElem?_set_self hlt)
      (by rw [hd']; exact hrefused) (by rw [hd']; exact htargets)
      (answerTo_of_waits hd htargets hplace hwaits hd')
    have hplace' : d'.place = some (behind (s.line target.2)) := by rw [hd']
    rw [hstep, hagain, hplace', Option.getD_some, ← hplace']
    simp only [List.set_set]

/-- How a delivery goes on by its own steps. A connection that has not ended makes it wait while its
queue has no room for those ahead in line and for the message. If no connection makes it wait, it
goes through all of them and returns how it went. Otherwise it goes through those before the first
that makes it wait, where it stays in its place in line, and the connections behind get nothing. -/
structure GoesOn (s : Service) (k : Nat) (d : Delivery) : Prop where
  answer : ∀ n sv, s.module.served[n]? = some sv →
    (s.answerTo d n = .queued ↔ (d.placeAt n = none → sv.connection.connected = true) ∧
        sv.connection.stage ≠ .ended ∧
        sv.connection.queue.length + ahead (s.line n) (d.placeAt n) < 1000) ∧
      (s.answerTo d n = .waits ↔ (d.placeAt n = none → sv.connection.connected = true) ∧
        sv.connection.stage ≠ .ended ∧
        1000 ≤ sv.connection.queue.length + ahead (s.line n) (d.placeAt n))
  returns : (∀ t ∈ d.targets, s.answerTo d t.2 ≠ .waits) →
    ∃ count, s.run (List.replicate count (.deliver k)) =
      { s with
        module := s.sentTo d d.targets
        deliveries := s.deliveries.eraseIdx k
        answers := s.answers ++ [s.module.answer (d.delivered + s.countTo d d.targets)] }
  waits : ∀ before target rest, d.targets = before ++ target :: rest →
    (∀ t ∈ before, s.answerTo d t.2 ≠ .waits) → s.answerTo d target.2 = .waits →
    ∃ count place,
      s.run (List.replicate count (.deliver k)) =
        { s with
          module := s.sentTo d before
          deliveries := s.deliveries.set k
            { d with
              targets := target :: rest
              delivered := d.delivered + s.countTo d before
              place := some place } } ∧
      (s.run (List.replicate count (.deliver k))).step (.deliver k) =
        s.run (List.replicate count (.deliver k))

theorem goesOn (hd : s.deliveries[k]? = some d) (hrefused : d.refused = none)
    (hserved : ∀ t ∈ d.targets, ∃ sv, s.module.served[t.2]? = some sv)
    (hdistinct : (d.targets.map Prod.snd).Nodup) : s.GoesOn k d where
  answer := by
    intro n sv hsv
    simp only [answerTo, hsv]
    exact ⟨offer_eq_queued_iff, offer_eq_waits_iff⟩
  returns := by
    intro hroom
    obtain ⟨count, hthrough⟩ :=
      exists_run_through hd hrefused (List.append_nil _).symm hserved hdistinct hroom
    have hlt := (List.getElem?_eq_some_iff.1 hd).1
    refine ⟨count + 1, ?_⟩
    rw [List.replicate_add, run_append, hthrough]
    refine (step_deliver_nil (List.getElem?_set_self hlt) ?_ ?_).trans ?_
    · exact hrefused
    · rfl
    · simp only [List.eraseIdx_set_eq]
      rfl
  waits := by
    intro before target rest htargets hroom hwaits
    have hlt := (List.getElem?_eq_some_iff.1 hd).1
    have hnew : target.2 ∉ before.map Prod.snd := by
      rw [htargets, List.map_append, List.map_cons] at hdistinct
      intro hmem
      exact (List.nodup_append.1 hdistinct).2.2 _ hmem _ List.mem_cons_self rfl
    obtain ⟨count, hthrough⟩ := exists_run_through hd hrefused htargets
      (fun t ht => hserved t (htargets ▸ List.mem_append_left _ ht)) hdistinct hroom
    obtain ⟨d', hd'⟩ : ∃ d' : Delivery, d' = { d with
        targets := target :: rest
        delivered := d.delivered + s.countTo d before
        place := if before = [] then d.place else none } := ⟨_, rfl⟩
    have htargets' : d'.targets = target :: rest := by rw [hd']
    have hplace : d'.placeAt target.2 = d.placeAt target.2 := by
      rw [placeAt_self htargets', hd']
      cases before with
      | nil => exact (placeAt_self htargets).symm
      | cons first before =>
        rw [List.map_cons, List.mem_cons, not_or] at hnew
        exact (placeAt_of_ne htargets (Ne.symm hnew.1)).symm
    have hanswer : answerTo
        { s with module := s.sentTo d before, deliveries := s.deliveries.set k d' } d' target.2 =
          s.answerTo d target.2 :=
      answerTo_set hd (getElem?_goneThrough hnew) (by rw [hd']) hplace
    rw [← hd'] at hthrough
    obtain ⟨place, hstep, hstays⟩ := exists_step_waits
      (s := { s with module := s.sentTo d before, deliveries := s.deliveries.set k d' })
      (List.getElem?_set_self hlt) (by rw [hd']; exact hrefused) htargets' (hanswer.trans hwaits)
    refine ⟨count + 1, place, ?_, ?_⟩
    · rw [List.replicate_add, run_append, hthrough]
      refine hstep.trans ?_
      rw [hd']
      simp only [List.set_set]
    · rw [List.replicate_add, run_append, hthrough]
      exact hstays

end Service

end Switchboard.TcpServer
