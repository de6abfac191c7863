import Switchboard.Proofs.Module.Construction
import Switchboard.Proofs.Module.TcpClient.Steps
import Switchboard.Proofs.Positions

/-!
# What clients come to

Whatever happens to a client, its framer is called in the way that framers are, it is as it was built
whenever all connections have cleared it, and the connection that is attended is the last.
-/

namespace Switchboard.TcpClient

open Connection

variable {m : TcpClient} {config : ModuleConfig}

/-- A client that has been built has no connections, and its framer is as it is built. -/
theorem framer_of_ofConfig (h : ofConfig config = .ok m) :
    m.framer = m.framing.build ∧ m.connections = [] := by
  obtain ⟨address, -, h⟩ := Except.exists_of_bind_eq_ok h
  obtain ⟨framing, -, h⟩ := Except.exists_of_bind_eq_ok h
  obtain ⟨reconnect, -, h⟩ := Except.exists_of_bind_eq_ok h
  obtain rfl := Except.ok.inj h
  exact ⟨rfl, rfl⟩

namespace Service

variable {s s' : Service} {action : Action} {k : Nat} {c c' : Connection}

/-! ## The framer -/

/-- When the last of some connections has cleared the framer, it is cleared. -/
theorem settled_of_set {held heard : Bool} {f f' : Framer} {step : Connection.Step}
    {new : List Bytes} {l : List Connection} (hc : l[k]? = some c)
    (hmoves : Moves held heard f c step new f' c') (hall : ∀ x ∈ l.set k c', x.Settled) :
    (∀ x ∈ l, x.Settled) ∧ f' = f ∨ (¬ ∀ x ∈ l, x.Settled) ∧ f' = f.clear := by
  have hc' : c'.Settled := by
    refine hall c' (List.mem_of_getElem? (i := k) ?_)
    rw [List.getElem?_set_self (List.getElem?_eq_some_iff.1 hc).1]
  by_cases hbefore : c.Settled
  · exact .inl ⟨(forall_mem_set_iff hc (iff_of_true hc' hbefore)).1 hall,
      (hmoves.settled hbefore).2⟩
  · exact .inr ⟨fun hl => hbefore (hl c (List.mem_of_getElem? hc)),
      hmoves.eq_clear_of_settled hbefore hc'⟩

/-- What holds of a client in service that was built as `m`. It keeps its id. It keeps its framing.
Its framer has been called in the way that framers are. When all connections have cleared the
framer, it is as it was built. The connection that is attended is the last. -/
structure Sound (m : TcpClient) (s : Service) : Prop where
  id : s.module.id = m.id
  framing : s.module.framing = m.framing
  reaches : m.framing.build.Reaches s.module.framer
  cleared : (∀ c ∈ s.module.connections, c.Settled) → s.module.framer = m.framing.build
  last : ∀ token n, s.phase = .attending token n → s.module.connections.length = n + 1

theorem sound_initial (h : ofConfig config = .ok m) : (initial m).Sound m where
  id := rfl
  framing := rfl
  reaches := (framer_of_ofConfig h).1 ▸ .start
  cleared := fun _ => (framer_of_ofConfig h).1
  last := nofun

/-- However its framer was called, it is cleared to what it was built as. -/
theorem Sound.clear_eq (h : s.Sound m) : s.module.framer.clear = m.framing.build :=
  (Framer.built_build _ _).clear_eq_of_reaches h.reaches

theorem Sound.steps (h : s.Sound m) (hsteps : Steps s action s') : s'.Sound m := by
  cases hsteps with
  | control hid hframing hconnections hframer hbegins =>
    refine ⟨hid.trans h.id, hframing.trans h.framing, hframer ▸ h.reaches, ?_, ?_⟩
    · rw [hconnections, hframer]
      exact h.cleared
    · intro token n hphase
      rw [hconnections]
      exact h.last token n (hbegins token n hphase)
  | clear _ hafter =>
    exact ⟨h.id, h.framing, h.reaches.clear, fun _ => h.clear_eq,
      fun token n hphase => absurd hphase (hafter token n)⟩
  | connected =>
    refine ⟨h.id, h.framing, h.reaches, fun hall => ?_, fun _ n hphase => ?_⟩
    · -- The new connection has not cleared the framer, so that nothing is claimed of it.
      refine absurd (hall .fresh ?_) (not_settled_of_active rfl)
      exact List.mem_append_right _ (List.mem_singleton.2 rfl)
    · obtain ⟨-, rfl⟩ := Phase.attending.inj hphase
      exact List.length_append
  | moves hc hmoves =>
    refine ⟨h.id, h.framing, hmoves.reaches h.reaches, fun hall => ?_, fun token n hphase => ?_⟩
    · rcases settled_of_set hc hmoves hall with ⟨hbefore, hsame⟩ | ⟨-, hclear⟩
      · exact hsame.trans (h.cleared hbefore)
      · exact hclear.trans h.clear_eq
    · exact (List.length_set ..).trans (h.last token n hphase)
  | take hphase hc | queue _ hc =>
    refine ⟨h.id, h.framing, h.reaches, fun hall => ?_, fun token n hphase => ?_⟩
    · refine h.cleared ((forall_mem_set_iff hc ?_).1 hall)
      exact Iff.rfl
    · exact (List.length_set ..).trans (h.last token n hphase)
  | leave hphase hc =>
    refine ⟨h.id, h.framing, h.reaches, fun hall => ?_, by simp⟩
    refine h.cleared ((forall_mem_set_iff hc ?_).1 hall)
    exact Iff.rfl

/-! ## Runs -/

theorem Sound.run (h : s.Sound m) (actions : List Action) : (s.run actions).Sound m := by
  induction actions generalizing s with
  | nil => exact h
  | cons action rest ih => exact ih (h.steps (s.steps_step action))

theorem run_append (s : Service) (front back : List Action) :
    s.run (front ++ back) = (s.run front).run back := List.foldl_append

theorem reads_append (s : Service) (n : Nat) (front back : List Action) :
    s.reads n (front ++ back) = s.reads n front ++ (s.run front).reads n back := by
  induction front generalizing s with
  | nil => rfl
  | cons action rest ih =>
    rw [List.cons_append, reads, reads, ih, List.append_assoc]
    rfl

end Service

end Switchboard.TcpClient
