import Mathlib.Algebra.GroupWithZero.Nat
import Switchboard.Proofs.Router.Supervision

/-!
# From the start of a router to its return

Whatever the order in which tasks begin and end and in which a router is stopped, a start gives
every module its due: it is started once, told to stop once, and the end of its task is reported
once, before the start returns. That the start can come to return is said by a number that every
step lowers that changes anything, and that some step can lower until then.
-/

namespace Switchboard.Supervisor

variable {s s' : Supervisor} {action : Action} {effects : List Effect} {ended : List (String × Exit)}
variable {id : String} {t : Task} {state : TaskState}

/-! ## Steps of other modules -/

/-- The module whose task a step concerns. -/
def Action.module? : Action → Option String
  | .begin id | .exit id _ | .report id => some id
  | _ => none

theorem task?_setTask_of_ne {other : String} (h : id ≠ other) :
    (s.setTask id state).task? other = s.task? other := by
  simp only [task?, setTask]
  induction s.tasks with
  | nil => rfl
  | cons t rest ih =>
    rw [List.map_cons, List.find?_cons, List.find?_cons, ih]
    by_cases hid : t.id = id
    · have hne : (id == other) = false := by simpa using h
      simp [hid, hne]
    · simp [hid]

/-- A step that does not concern a module leaves its task alone. -/
theorem task?_step_of_module?_ne {other : String} (h : action.module? ≠ some other) :
    (s.step action).1.task? other = s.task? other := by
  cases action with
  | begin id | exit id exit | report id =>
    have hid : id ≠ other := fun hid => h (congrArg some hid)
    simp only [step]
    split
    · exact task?_setTask_of_ne hid
    · rfl
  | stop => rfl
  | notice | stopNext =>
    simp only [step]
    split <;> rfl
  | finish =>
    simp only [step]
    split
    · split <;> rfl
    · rfl

/-! ## How far it is to the return -/

/-- How many steps a task is away from its end having been reported. -/
def TaskState.remaining : TaskState → Nat
  | .waiting => 3
  | .running => 2
  | .ended _ => 1
  | .reported => 0

/-- How many steps a start is away from its return, once it has been stopped. -/
def remaining (s : Supervisor) : Nat :=
  (s.tasks.map fun t => t.state.remaining).sum +
    match s.phase with
    | .running => s.tasks.length + 3
    | .stopping rest => rest.length + 2
    | .draining => 1
    | .returned => 0

/-- A step changes nothing, stops the router or brings the return nearer. -/
theorem Moves.remaining_lt (h : Moves s action s' effects ended) :
    s' = s ∨ action = .stop ∨ s'.remaining < s.remaining := by
  cases h with
  | stop => exact .inr (.inl rfl)
  | begin htasks | exit htasks | report htasks =>
    right; right
    simp [remaining, htasks, TaskState.remaining]
  | notice hphase | tell hphase | drain hphase | finish hphase =>
    right; right
    simp [remaining, hphase, ids]
  | idle => exact .inl rfl

theorem remaining_setTask_lt (hids : s.ids.Nodup) (ht : s.task? id = some t)
    (hlt : state.remaining < t.state.remaining) : (s.setTask id state).remaining < s.remaining := by
  obtain ⟨front, back, htasks, hset⟩ := exists_setTask hids ht
  rw [hset]
  simp [remaining, htasks, hlt]

theorem task?_eq_of_mem (hids : s.ids.Nodup) (ht : t ∈ s.tasks) : s.task? t.id = some t := by
  obtain ⟨front, back, htasks⟩ := List.append_of_mem ht
  rw [ids, htasks, List.map_append, List.map_cons, List.nodup_middle, List.nodup_cons,
    List.mem_append, not_or] at hids
  refine List.find?_eq_some_iff_append.2 ⟨by simp, front, back, htasks, fun u hu => ?_⟩
  have hne : u.id ≠ t.id := fun heq => hids.1.1 (heq ▸ List.mem_map_of_mem hu)
  simpa using hne

/-- Once it has been stopped, a start that has not returned can go on towards its return. -/
theorem exists_step_remaining_lt (hids : s.ids.Nodup) (hcancelled : s.cancelled = true)
    (hphase : s.phase ≠ .returned) :
    ∃ action, action ≠ .stop ∧ (s.step action).1.remaining < s.remaining := by
  cases h : s.phase with
  | running => exact ⟨.notice, by simp, by simp [step, h, hcancelled, remaining]⟩
  | stopping rest =>
    cases rest with
    | nil => exact ⟨.stopNext, by simp, by simp [step, h, remaining]⟩
    | cons id rest => exact ⟨.stopNext, by simp, by simp [step, h, remaining]⟩
  | draining =>
    by_cases hall : s.allReported = true
    · exact ⟨.finish, by simp, by simp [step, h, hall, remaining]⟩
    · -- Some task is still on its way: it can begin, end or be reported.
      obtain ⟨t, ht, hstate⟩ : ∃ t ∈ s.tasks, t.state ≠ .reported := by
        simpa [allReported] using hall
      have hfind := task?_eq_of_mem hids ht
      obtain ⟨id, state⟩ := t
      cases state with
      | waiting =>
        refine ⟨.begin id, by simp, ?_⟩
        simp only [step, hfind]
        exact remaining_setTask_lt hids hfind (Nat.lt_succ_self _)
      | running =>
        refine ⟨.exit id .returned, by simp, ?_⟩
        simp only [step, hfind]
        exact remaining_setTask_lt hids hfind (Nat.lt_succ_self _)
      | ended exit =>
        refine ⟨.report id, by simp, ?_⟩
        simp only [step, hfind, isListening, h]
        exact remaining_setTask_lt hids hfind (Nat.lt_succ_self _)
      | reported => exact absurd rfl hstate
  | returned => exact absurd h hphase

/-! ## The whole of a start -/

theorem eq_exit_of_mem_endOf {exit : Exit} (h : (id, exit) ∈ s.endOf action) :
    action = .exit id exit := by
  cases action with
  | exit other exit' =>
    simp only [endOf] at h
    split at h
    · obtain ⟨rfl, rfl⟩ := Prod.mk.inj (List.mem_singleton.1 h)
      rfl
    · exact absurd h List.not_mem_nil
  | _ => exact absurd h List.not_mem_nil

/-- A task ends by a step of its own. -/
theorem exit_mem_of_mem_ends {exit : Exit} {actions : List Action}
    (h : (id, exit) ∈ s.ends actions) : .exit id exit ∈ actions := by
  induction actions generalizing s with
  | nil => nomatch h
  | cons action rest ih =>
    rcases List.mem_append.1 h with hnow | hlater
    · rw [eq_exit_of_mem_endOf hnow]
      exact List.mem_cons_self
    · exact List.mem_cons_of_mem _ (ih hlater)

/-- What is asked of each task for its id keeps the order of the tasks. -/
theorem filterMap_sublist_ids {f : Task → Option String} (hf : ∀ t id, f t = some id → id = t.id)
    (s : Supervisor) : (s.tasks.filterMap f).Sublist s.ids := by
  rw [ids]
  induction s.tasks with
  | nil => exact .slnil
  | cons t rest ih =>
    rw [List.filterMap_cons, List.map_cons]
    cases h : f t with
    | none => exact ih.cons _
    | some id =>
      rw [hf t id h]
      exact ih.cons_cons _

theorem begun?_eq_some (t : Task) (id : String) (h : t.begun? = some id) : id = t.id := by
  obtain ⟨id', state⟩ := t
  cases state <;> simp_all [Task.begun?]

theorem finished?_eq_some (t : Task) (id : String) (h : t.finished? = some id) : id = t.id := by
  obtain ⟨id', state⟩ := t
  cases state <;> simp_all [Task.finished?]

/-- When every end has been reported, every task has begun and is over, and none is unreported. -/
theorem of_allReported (h : s.allReported = true) :
    s.tasks.filterMap Task.begun? = s.ids ∧ s.tasks.filterMap Task.finished? = s.ids ∧
      s.unreported = [] := by
  have hstate : ∀ t ∈ s.tasks, t.state = .reported := by simpa [allReported] using h
  refine ⟨?_, ?_, ?_⟩
  · rw [ids, ← List.filterMap_eq_map]
    refine List.filterMap_congr fun t ht => ?_
    simp [Task.begun?, hstate t ht]
  · rw [ids, ← List.filterMap_eq_map]
    refine List.filterMap_congr fun t ht => ?_
    simp [Task.finished?, hstate t ht]
  · refine List.filterMap_eq_nil_iff.2 fun t ht => ?_
    simp [Task.unreported?, hstate t ht]

theorem PhaseBooks.stopsIn_prefix {given : List String} (h : PhaseBooks given s effects) :
    stopsIn effects <+: given := by
  have hstops := h.stops
  cases hphase : s.phase with
  | running =>
    simp only [hphase] at hstops
    exact hstops ▸ List.nil_prefix
  | stopping rest =>
    simp only [hphase] at hstops
    exact ⟨rest, hstops⟩
  | draining | returned =>
    simp only [hphase] at hstops
    exact hstops ▸ List.prefix_rfl

theorem PhaseBooks.stopsIn_eq_nil {given : List String} (h : PhaseBooks given s effects)
    (hphase : s.phase = .running) : stopsIn effects = [] := by
  have hstops := h.stops
  simp only [hphase] at hstops
  exact hstops

theorem PhaseBooks.stopsIn_eq {given : List String} (h : PhaseBooks given s effects)
    (hphase : s.phase = .returned) : stopsIn effects = given := by
  have hstops := h.stops
  simp only [hphase] at hstops
  exact hstops

/-- The end of a task is no business of the router's: it neither moves it on nor is seen. -/
theorem step_exit_phase (s : Supervisor) (id : String) (exit : Exit) :
    (s.step (.exit id exit)).1.phase = s.phase ∧ (s.step (.exit id exit)).2 = [] := by
  simp only [step]
  split
  · exact ⟨rfl, rfl⟩
  · exact ⟨rfl, rfl⟩

theorem PhaseBooks.returned_mem_iff {given : List String} (h : PhaseBooks given s effects) :
    .returned ∈ effects ↔ s.phase = .returned := by
  rw [← List.count_pos_iff, h.returned]
  by_cases hphase : s.phase = .returned <;> simp [hphase]

/-- What holds of a start of modules of the given ids after some steps, when this is what has become
of it, what others have seen of it and which tasks have ended. No module is started twice. No other
module is started. The modules are told to stop one after the other, and none twice. None is told
before the router has been stopped. No task ends twice. A task ends by a step of its own and not by
what befalls another. Every end is either reported once or that of a task whose end is still to be
reported. The start returns at most once. When it has returned the router has been stopped, each
module has been started once and told to stop once, its task has ended, and each end has been
reported once. A router that has not been stopped runs on, whichever tasks have ended. The end of a
task neither moves the router on nor tells a module anything. What happens to one module leaves the
tasks of the others alone. A step other than a stop changes nothing or brings the return nearer.
Once the router has been stopped, some step brings the return nearer until it has come. -/
structure Lifecycle (given : List String) (stopped : Prop) (actions : List Action) (s : Supervisor)
    (effects : List Effect) (ended : List (String × Exit)) : Prop where
  starts_nodup : (startsIn effects).Nodup
  starts_subset : startsIn effects ⊆ given
  stops_prefix : stopsIn effects <+: given
  stopped_of_stops : stopsIn effects ≠ [] → stopped
  ends_nodup : (ended.map Prod.fst).Nodup
  exit_mem : ∀ id exit, (id, exit) ∈ ended → .exit id exit ∈ actions
  reports : (reportsIn effects ++ s.unreported).Perm ended
  returned_once : effects.count .returned ≤ 1
  returned : .returned ∈ effects →
    stopped ∧ (startsIn effects).Perm given ∧ stopsIn effects = given ∧
      (ended.map Prod.fst).Perm given ∧ (reportsIn effects).Perm ended
  running : ¬ stopped → s.phase = .running
  exit_phase : ∀ id exit, (s.step (.exit id exit)).1.phase = s.phase ∧ (s.step (.exit id exit)).2 = []
  others : ∀ action id, action.module? ≠ some id → (s.step action).1.task? id = s.task? id
  nearer : ∀ action, action ≠ .stop →
    (s.step action).1 = s ∨ (s.step action).1.remaining < s.remaining
  progress : stopped → s.phase ≠ .returned →
    ∃ action, action ≠ .stop ∧ (s.step action).1.remaining < s.remaining

/-- **What a start owes its modules**, whichever steps follow it in whichever order: the router may
have been stopped before it and may be stopped any number of times, and a task may end in any way as
soon as it has begun. -/
theorem launch_run_lifecycle {given : List String} (hgiven : given.Nodup) (cancelled : Bool)
    (actions : List Action) :
    Lifecycle given (cancelled = true ∨ .stop ∈ actions) actions
      ((launch given cancelled).run actions).1 ((launch given cancelled).run actions).2
      ((launch given cancelled).ends actions) := by
  obtain ⟨htasks, hphase⟩ := books_run actions hgiven (taskBooks_launch given cancelled)
    (phaseBooks_launch given cancelled)
  have hstopped := cancelled_run ((taskBooks_launch given cancelled).ids_eq ▸ hgiven) actions
  rw [List.nil_append, List.nil_append] at htasks
  rw [List.nil_append] at hphase
  generalize hs : ((launch given cancelled).run actions).1 = s at htasks hphase hstopped ⊢
  generalize ((launch given cancelled).run actions).2 = effects at htasks hphase ⊢
  have hids : s.ids = given := htasks.ids_eq
  have hnodup : s.ids.Nodup := hids ▸ hgiven
  have hbegun := filterMap_sublist_ids begun?_eq_some s
  have hover := filterMap_sublist_ids finished?_eq_some s
  have hrunning : ¬ (cancelled = true ∨ .stop ∈ actions) → s.phase = .running := by
    intro hstop
    by_contra hne
    exact hstop (hstopped.1 (hphase.cancelled hne))
  constructor
  case starts_nodup => exact htasks.starts.nodup_iff.2 (hnodup.sublist hbegun)
  case starts_subset => exact fun id hid => hids ▸ hbegun.subset (htasks.starts.subset hid)
  case stops_prefix => exact hphase.stopsIn_prefix
  case stopped_of_stops =>
    intro hstops
    by_contra hstop
    exact hstops (hphase.stopsIn_eq_nil (hrunning hstop))
  case ends_nodup => exact htasks.finished.nodup_iff.2 (hnodup.sublist hover)
  case exit_mem => exact fun id exit => exit_mem_of_mem_ends
  case reports => exact htasks.reports
  case returned_once =>
    rw [hphase.returned]
    split <;> decide
  case returned =>
    intro hreturned
    have hdone : s.phase = .returned := hphase.returned_mem_iff.1 hreturned
    have hne : s.phase ≠ .running := by
      rw [hdone]
      nofun
    obtain ⟨hallBegun, hallOver, hnone⟩ := of_allReported (hphase.allReported hdone)
    have hstarts := hallBegun ▸ htasks.starts
    have hends := hallOver ▸ htasks.finished
    have hreports := htasks.reports
    rw [hnone, List.append_nil] at hreports
    exact ⟨hstopped.1 (hphase.cancelled hne), hids ▸ hstarts, hphase.stopsIn_eq hdone, hids ▸ hends,
      hreports⟩
  case running => exact hrunning
  case exit_phase => exact fun id exit => step_exit_phase s id exit
  case others => exact fun action id => task?_step_of_module?_ne
  case nearer =>
    intro action haction
    rcases (moves_step hnodup action).remaining_lt with heq | hstop | hlt
    · exact .inl heq
    · exact absurd hstop haction
    · exact .inr hlt
  case progress => exact fun hstop hne => exists_step_remaining_lt hnodup (hstopped.2 hstop) hne

/-- Three modules, of which the first fails at once, the second ends early and the third is broken
off when the router has been stopped, in a run where the second is reported while the router runs,
the others while it waits for the last, and the router is stopped twice. -/
theorem launch_run_lifecycle_mixed :
    let actions : List Action :=
      [.begin "b", .begin "a", .exit "a" (.failed (.other "no")), .exit "b" .returned, .report "b",
        .stop, .notice, .stopNext, .begin "c", .stop, .stopNext, .exit "c" (.aborted "cancelled"),
        .stopNext, .stopNext, .report "c", .finish, .report "a", .finish]
    ["a", "b", "c"].Nodup ∧
      Lifecycle ["a", "b", "c"] (false = true ∨ .stop ∈ actions) actions
        ((launch ["a", "b", "c"] false).run actions).1 ((launch ["a", "b", "c"] false).run actions).2
        ((launch ["a", "b", "c"] false).ends actions) ∧
      .returned ∈ ((launch ["a", "b", "c"] false).run actions).2 ∧
      reportsIn ((launch ["a", "b", "c"] false).run actions).2 =
        [("b", .returned), ("c", .aborted "cancelled"), ("a", .failed (.other "no"))] :=
  ⟨by decide, launch_run_lifecycle (by decide) false _, by decide +kernel, by decide +kernel⟩

end Switchboard.Supervisor
