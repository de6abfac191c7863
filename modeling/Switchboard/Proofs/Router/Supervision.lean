import Mathlib.Data.List.Nodup
import Switchboard.Router.Supervisor

/-!
# The steps of a start

What a step of a start of a router can do, said once: `Moves` has one case for each kind of step
and says of it what it needs, what becomes of the start, what others see and which task has ended.
The books of a start are kept against this: what has been seen so far and the tasks that have ended
so far are, at any time, what the tasks and the phase say.
-/

namespace Switchboard.Supervisor

/-! ## What others see -/

/-- The module that is started. -/
def Effect.started? : Effect → Option String
  | .started id => some id
  | _ => none

/-- The module that is told to stop. -/
def Effect.toldToStop? : Effect → Option String
  | .toldToStop id => some id
  | _ => none

/-- The end that is reported, and the module whose task has ended. -/
def Effect.reported? : Effect → Option (String × Exit)
  | .reported id exit => some (id, exit)
  | _ => none

/-- The modules that are started, in order. -/
def startsIn (effects : List Effect) : List String := effects.filterMap Effect.started?

/-- The modules that are told to stop, in order. -/
def stopsIn (effects : List Effect) : List String := effects.filterMap Effect.toldToStop?

/-- The ends of tasks that are reported, in order. -/
def reportsIn (effects : List Effect) : List (String × Exit) := effects.filterMap Effect.reported?

theorem startsIn_append (xs ys : List Effect) : startsIn (xs ++ ys) = startsIn xs ++ startsIn ys :=
  List.filterMap_append

theorem stopsIn_append (xs ys : List Effect) : stopsIn (xs ++ ys) = stopsIn xs ++ stopsIn ys :=
  List.filterMap_append

theorem reportsIn_append (xs ys : List Effect) :
    reportsIn (xs ++ ys) = reportsIn xs ++ reportsIn ys :=
  List.filterMap_append

/-! ## How tasks end -/

/-- The end of a task that a step is, if it is one. -/
def endOf (s : Supervisor) : Action → List (String × Exit)
  | .exit id exit =>
    match s.task? id with
    | some ⟨_, .running⟩ => [(id, exit)]
    | _ => []
  | _ => []

/-- The tasks that end in a run and how they end, in order. -/
def ends (s : Supervisor) : List Action → List (String × Exit)
  | [] => []
  | action :: rest => s.endOf action ++ (s.step action).1.ends rest

/-- The module of the task, if it has been started. -/
def Task.begun? (t : Task) : Option String :=
  match t.state with
  | .waiting => none
  | _ => some t.id

/-- The module of the task, if the task has ended. -/
def Task.finished? (t : Task) : Option String :=
  match t.state with
  | .ended _ | .reported => some t.id
  | _ => none

/-- The end of the task, if it is still to be reported. -/
def Task.unreported? (t : Task) : Option (String × Exit) :=
  match t.state with
  | .ended exit => some (t.id, exit)
  | _ => none

/-- The ends of tasks that are still to be reported. -/
def unreported (s : Supervisor) : List (String × Exit) := s.tasks.filterMap Task.unreported?

/-- The ids of the tasks, in order. -/
def ids (s : Supervisor) : List String := s.tasks.map Task.id

/-! ## The cases of a step -/

/-- A step of a start: what it needs, what becomes of the start, what others see of it, and the
task that has ended by it. -/
inductive Moves (s : Supervisor) :
    Action → Supervisor → List Effect → List (String × Exit) → Prop where
  | stop : Moves s .stop { s with cancelled := true } [] []
  | begin {id : String} {front back : List Task} (htasks : s.tasks = front ++ ⟨id, .waiting⟩ :: back) :
      Moves s (.begin id) { s with tasks := front ++ ⟨id, .running⟩ :: back } [.started id] []
  | exit {id : String} {exit : Exit} {front back : List Task}
      (htasks : s.tasks = front ++ ⟨id, .running⟩ :: back) :
      Moves s (.exit id exit) { s with tasks := front ++ ⟨id, .ended exit⟩ :: back } [] [(id, exit)]
  | notice (hphase : s.phase = .running) (hcancelled : s.cancelled = true) :
      Moves s .notice { s with phase := .stopping s.ids } [.stopping] []
  | tell {id : String} {rest : List String} (hphase : s.phase = .stopping (id :: rest)) :
      Moves s .stopNext { s with phase := .stopping rest } [.toldToStop id] []
  | drain (hphase : s.phase = .stopping []) : Moves s .stopNext { s with phase := .draining } [] []
  | report {id : String} {exit : Exit} {front back : List Task}
      (htasks : s.tasks = front ++ ⟨id, .ended exit⟩ :: back) (hlistening : s.isListening = true) :
      Moves s (.report id) { s with tasks := front ++ ⟨id, .reported⟩ :: back }
        [.reported id exit] []
  | finish (hphase : s.phase = .draining) (hall : s.allReported = true) :
      Moves s .finish { s with phase := .returned } [.returned] []
  | idle {action : Action} (haction : action ≠ .stop) : Moves s action s [] []

variable {s s' : Supervisor} {action : Action} {effects : List Effect} {ended : List (String × Exit)}

/-- Of tasks with different ids, putting another state in the place of that of one changes this
one alone. -/
theorem exists_setTask {id : String} {t : Task} (hids : s.ids.Nodup) (ht : s.task? id = some t) :
    ∃ front back, s.tasks = front ++ ⟨id, t.state⟩ :: back ∧
      ∀ state, s.setTask id state = { s with tasks := front ++ ⟨id, state⟩ :: back } := by
  obtain ⟨hid, front, back, htasks, -⟩ := List.find?_eq_some_iff_append.1 ht
  obtain ⟨id', state'⟩ := t
  obtain rfl : id' = id := by simpa using hid
  refine ⟨front, back, htasks, fun state => ?_⟩
  rw [ids, htasks, List.map_append, List.map_cons, List.nodup_middle, List.nodup_cons,
    List.mem_append, not_or] at hids
  have hkeep : ∀ ts : List Task, id' ∉ ts.map Task.id →
      ts.map (fun t => if t.id = id' then { t with state := state } else t) = ts := by
    intro ts hts
    refine (List.map_congr_left fun t ht => if_neg fun hid => ?_).trans (List.map_id ts)
    exact hts (hid ▸ List.mem_map_of_mem ht)
  rw [setTask, htasks, List.map_append, List.map_cons, hkeep front hids.1.1, hkeep back hids.1.2]
  simp

/-- Every step is one of these. -/
theorem moves_step (hids : s.ids.Nodup) (action : Action) :
    Moves s action (s.step action).1 (s.step action).2 (s.endOf action) := by
  cases action with
  | stop => exact .stop
  | begin id =>
    simp only [step, endOf]
    split
    · next ht =>
      obtain ⟨front, back, htasks, hset⟩ := exists_setTask hids ht
      rw [hset]
      exact .begin htasks
    · exact .idle nofun
  | exit id exit =>
    cases ht : s.task? id with
    | none =>
      simp only [step, endOf, ht]
      exact .idle nofun
    | some t =>
      obtain ⟨id', state⟩ := t
      cases state with
      | running =>
        obtain ⟨front, back, htasks, hset⟩ := exists_setTask hids ht
        simp only [step, endOf, ht, hset]
        exact .exit htasks
      | waiting | ended | reported =>
        simp only [step, endOf, ht]
        exact .idle nofun
  | notice =>
    simp only [step, endOf]
    split
    · next hphase hcancelled => exact .notice hphase hcancelled
    · exact .idle nofun
  | stopNext =>
    simp only [step, endOf]
    split
    · next hphase => exact .tell hphase
    · next hphase => exact .drain hphase
    · exact .idle nofun
  | report id =>
    simp only [step, endOf]
    split
    · next ht hlistening =>
      obtain ⟨front, back, htasks, hset⟩ := exists_setTask hids ht
      rw [hset]
      exact .report htasks hlistening
    · exact .idle nofun
  | finish =>
    simp only [step, endOf]
    split
    · next hphase =>
      split
      · next hall => exact .finish hphase hall
      · exact .idle nofun
    · exact .idle nofun

theorem Moves.ids_eq (h : Moves s action s' effects ended) : s'.ids = s.ids := by
  cases h with
  | begin htasks => simp [ids, htasks]
  | exit htasks => simp [ids, htasks]
  | report htasks => simp [ids, htasks]
  | _ => rfl

theorem Moves.cancelled_iff (h : Moves s action s' effects ended) :
    s'.cancelled = true ↔ s.cancelled = true ∨ action = .stop := by
  cases h with
  | stop => simp
  | idle haction => simp [haction]
  | _ => simp

/-! ## The books of a start -/

/-- What has been seen of a start of modules of the given ids and the tasks that have ended by now,
against the tasks. There is a task for each module. The modules that have been started are those
whose tasks have begun. The tasks that have ended are over. An end is either reported or still to be
reported. -/
structure TaskBooks (given : List String) (s : Supervisor) (effects : List Effect)
    (ended : List (String × Exit)) : Prop where
  ids_eq : s.ids = given
  starts : (startsIn effects).Perm (s.tasks.filterMap Task.begun?)
  finished : (ended.map Prod.fst).Perm (s.tasks.filterMap Task.finished?)
  reports : (reportsIn effects ++ s.unreported).Perm ended

/-- What has been seen of a start of modules of the given ids, against its phase. How many modules
have been told to stop. The start leaves the running phase only when it has been stopped. It has
returned once or not at all. When it has returned, every end has been reported. -/
structure PhaseBooks (given : List String) (s : Supervisor) (effects : List Effect) : Prop where
  stops : match s.phase with
    | .running => stopsIn effects = []
    | .stopping rest => stopsIn effects ++ rest = given
    | .draining | .returned => stopsIn effects = given
  cancelled : s.phase ≠ .running → s.cancelled = true
  returned : effects.count .returned = if s.phase = .returned then 1 else 0
  allReported : s.phase = .returned → s.allReported = true

variable {given : List String} {seen : List Effect} {before : List (String × Exit)}

theorem taskBooks_launch (given : List String) (cancelled : Bool) :
    TaskBooks given (launch given cancelled) [] [] where
  ids_eq := by simp [ids, launch, Function.comp_def]
  starts := by simp [startsIn, launch, List.filterMap_map, Function.comp_def, Task.begun?]
  finished := by simp [launch, List.filterMap_map, Function.comp_def, Task.finished?]
  reports := by
    simp [reportsIn, unreported, launch, List.filterMap_map, Function.comp_def, Task.unreported?]

theorem phaseBooks_launch (given : List String) (cancelled : Bool) :
    PhaseBooks given (launch given cancelled) [] where
  stops := rfl
  cancelled := fun h => absurd rfl h
  returned := rfl
  allReported := fun h => nomatch h

/-- An element that comes last on one side comes somewhere on the other. -/
theorem perm_middle_of_perm {α : Type} {a : α} {xs front back : List α}
    (h : xs.Perm (front ++ back)) : (xs ++ [a]).Perm (front ++ a :: back) :=
  (List.perm_append_singleton a xs).trans ((h.cons a).trans List.perm_middle.symm)

/-- A step that leaves the tasks alone and of which nothing is seen that concerns them. -/
theorem TaskBooks.of_eq (hs : TaskBooks given s seen before) (htasks : s'.tasks = s.tasks)
    (hstarts : startsIn effects = []) (hreports : reportsIn effects = []) :
    TaskBooks given s' (seen ++ effects) (before ++ []) := by
  rw [List.append_nil]
  refine ⟨?_, ?_, ?_, ?_⟩
  · rw [ids, htasks]
    exact hs.ids_eq
  · rw [startsIn_append, hstarts, List.append_nil, htasks]
    exact hs.starts
  · rw [htasks]
    exact hs.finished
  · rw [reportsIn_append, hreports, List.append_nil, unreported, htasks]
    exact hs.reports

/-- One step keeps the books of the tasks. -/
theorem Moves.taskBooks (h : Moves s action s' effects ended) (hs : TaskBooks given s seen before) :
    TaskBooks given s' (seen ++ effects) (before ++ ended) := by
  cases h with
  | stop => exact hs.of_eq rfl rfl rfl
  | @begin id front back htasks =>
    obtain ⟨hids, hstarts, hover, hreports⟩ := hs
    simp only [ids, unreported, htasks, List.map_append, List.map_cons, List.filterMap_append,
      List.filterMap_cons, Task.begun?, Task.finished?, Task.unreported?] at hids hstarts hover hreports
    refine ⟨?_, ?_, ?_, ?_⟩
    · simpa [ids] using hids
    · simp only [startsIn_append, List.filterMap_append, List.filterMap_cons, Task.begun?]
      exact perm_middle_of_perm hstarts
    · simp only [List.append_nil, List.filterMap_append, List.filterMap_cons, Task.finished?]
      exact hover
    · simp only [reportsIn_append, unreported, List.append_nil, List.filterMap_append,
        List.filterMap_cons, Task.unreported?]
      rw [show reportsIn [.started id] = [] from rfl, List.append_nil]
      exact hreports
  | @exit id exit front back htasks =>
    obtain ⟨hids, hstarts, hover, hreports⟩ := hs
    simp only [ids, unreported, htasks, List.map_append, List.map_cons, List.filterMap_append,
      List.filterMap_cons, Task.begun?, Task.finished?, Task.unreported?] at hids hstarts hover hreports
    refine ⟨?_, ?_, ?_, ?_⟩
    · simpa [ids] using hids
    · simp only [List.append_nil, List.filterMap_append, List.filterMap_cons, Task.begun?]
      exact hstarts
    · simp only [List.map_append, List.filterMap_append, List.filterMap_cons, Task.finished?]
      exact perm_middle_of_perm hover
    · simp only [List.append_nil, unreported, List.filterMap_append, List.filterMap_cons,
        Task.unreported?]
      rw [← List.append_assoc] at hreports ⊢
      exact (perm_middle_of_perm hreports.symm).symm
  | notice hphase hcancelled => exact hs.of_eq rfl rfl rfl
  | tell hphase => exact hs.of_eq rfl rfl rfl
  | drain hphase => exact hs.of_eq rfl rfl rfl
  | @report id exit front back htasks hlistening =>
    obtain ⟨hids, hstarts, hover, hreports⟩ := hs
    simp only [ids, unreported, htasks, List.map_append, List.map_cons, List.filterMap_append,
      List.filterMap_cons, Task.begun?, Task.finished?, Task.unreported?] at hids hstarts hover hreports
    rw [List.append_nil]
    refine ⟨?_, ?_, ?_, ?_⟩
    · simpa [ids] using hids
    · simp only [startsIn_append, List.filterMap_append, List.filterMap_cons, Task.begun?]
      rw [show startsIn [.reported id exit] = [] from rfl, List.append_nil]
      exact hstarts
    · simp only [List.filterMap_append, List.filterMap_cons, Task.finished?]
      exact hover
    · simp only [reportsIn_append, unreported, List.filterMap_append, List.filterMap_cons,
        Task.unreported?]
      -- The end goes over from the tasks to what has been seen.
      rw [show reportsIn [.reported id exit] = [(id, exit)] from rfl, List.append_assoc,
        List.singleton_append]
      exact (List.perm_middle.symm.append_left _).trans hreports
  | finish hphase hall => exact hs.of_eq rfl rfl rfl
  | idle =>
    simp only [List.append_nil]
    exact hs

/-- A step that leaves the phase alone and of which nothing is seen that concerns it. -/
theorem PhaseBooks.of_eq (hs : PhaseBooks given s seen) (hphase : s'.phase = s.phase)
    (hcancelled : s.cancelled = true → s'.cancelled = true) (hstops : stopsIn effects = [])
    (hreturned : effects.count .returned = 0)
    (hall : s.phase = .returned → s.allReported = true → s'.allReported = true) :
    PhaseBooks given s' (seen ++ effects) := by
  refine ⟨?_, ?_, ?_, ?_⟩
  · rw [hphase, stopsIn_append, hstops, List.append_nil]
    exact hs.stops
  · rw [hphase]
    exact fun h => hcancelled (hs.cancelled h)
  · rw [hphase, List.count_append, hreturned]
    exact hs.returned
  · rw [hphase]
    exact fun h => hall h (hs.allReported h)

/-- One step keeps the books of the phase. -/
theorem Moves.phaseBooks (h : Moves s action s' effects ended) (hids : s.ids = given)
    (hs : PhaseBooks given s seen) : PhaseBooks given s' (seen ++ effects) := by
  cases h with
  | stop => exact hs.of_eq rfl (fun _ => rfl) rfl rfl fun _ => id
  | begin htasks =>
    refine hs.of_eq rfl id rfl rfl fun _ hall => ?_
    simp [allReported, htasks] at hall
  | exit htasks =>
    refine hs.of_eq rfl id rfl rfl fun _ hall => ?_
    simp [allReported, htasks] at hall
  | notice hphase hcancelled =>
    have hstops := hs.stops
    have hreturned := hs.returned
    simp only [hphase] at hstops hreturned
    refine ⟨?_, fun _ => hcancelled, ?_, nofun⟩
    · simp only [stopsIn_append, hstops, hids]
      rfl
    · rw [List.count_append, hreturned]
      rfl
  | @tell id rest hphase =>
    have hstops := hs.stops
    have hreturned := hs.returned
    simp only [hphase] at hstops hreturned
    refine ⟨?_, fun _ => hs.cancelled (by rw [hphase]; nofun), ?_, nofun⟩
    · simp only [stopsIn_append]
      rw [show stopsIn [.toldToStop id] = [id] from rfl, List.append_assoc]
      exact hstops
    · rw [List.count_append, hreturned]
      rfl
  | drain hphase =>
    have hstops := hs.stops
    have hreturned := hs.returned
    simp only [hphase, List.append_nil] at hstops hreturned
    rw [List.append_nil]
    exact ⟨hstops, fun _ => hs.cancelled (by rw [hphase]; nofun), hreturned, nofun⟩
  | report htasks hlistening =>
    refine hs.of_eq rfl id rfl rfl fun _ hall => ?_
    simp [allReported, htasks] at hall
  | finish hphase hall =>
    have hstops := hs.stops
    have hreturned := hs.returned
    simp only [hphase] at hstops hreturned
    refine ⟨?_, fun _ => hs.cancelled (by rw [hphase]; nofun), ?_, fun _ => hall⟩
    · simp only [stopsIn_append]
      rw [show stopsIn [.returned] = [] from rfl, List.append_nil]
      exact hstops
    · rw [List.count_append, hreturned]
      rfl
  | idle =>
    rw [List.append_nil]
    exact hs

/-! ## A run -/

/-- Any run keeps the books. -/
theorem books_run (actions : List Action) (hgiven : given.Nodup) (htasks : TaskBooks given s seen before)
    (hphase : PhaseBooks given s seen) :
    TaskBooks given (s.run actions).1 (seen ++ (s.run actions).2) (before ++ s.ends actions) ∧
      PhaseBooks given (s.run actions).1 (seen ++ (s.run actions).2) := by
  induction actions generalizing s seen before with
  | nil =>
    simp only [run, ends, List.append_nil]
    exact ⟨htasks, hphase⟩
  | cons action rest ih =>
    have hmoves := moves_step (htasks.ids_eq ▸ hgiven) action
    have hrest := ih (hmoves.taskBooks htasks) (hmoves.phaseBooks htasks.ids_eq hphase)
    simp only [run, ends]
    rw [← List.append_assoc, ← List.append_assoc]
    exact hrest

/-- A start is stopped by the stops of a run and by nothing else. -/
theorem cancelled_run (hids : s.ids.Nodup) (actions : List Action) :
    (s.run actions).1.cancelled = true ↔ s.cancelled = true ∨ .stop ∈ actions := by
  induction actions generalizing s with
  | nil => simp [run]
  | cons action rest ih =>
    have hmoves := moves_step hids action
    rw [run, ih (hmoves.ids_eq ▸ hids), hmoves.cancelled_iff, List.mem_cons, or_assoc,
      @eq_comm _ action]

end Switchboard.Supervisor
