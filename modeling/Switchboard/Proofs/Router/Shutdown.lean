import Switchboard.Proofs.Module.Signals
import Switchboard.Proofs.Router.Supervision
import Switchboard.Router.Shutdown

/-!
# Every run hears of the end

Stopping a router cancels its token before any of its starts can begin to tell modules to stop, and
every run of a module lies below that token. So a module that begins its run when it has been told to
stop already, or even after the router has gone through all its modules, is cancelled all the same.
-/

namespace Switchboard

/-! ## What becomes of a start -/

namespace Supervisor

variable {s : Supervisor} {action : Action}

theorem ids_setTask (s : Supervisor) (id : String) (state : TaskState) :
    (s.setTask id state).ids = s.ids := by
  rw [ids, ids, setTask, List.map_map]
  refine List.map_congr_left fun t _ => ?_
  rw [Function.comp_apply]
  split <;> rfl

theorem ids_step (s : Supervisor) (action : Action) : (s.step action).1.ids = s.ids := by
  cases action with
  | stop => rfl
  | begin id | exit id exit | report id =>
    simp only [step]
    split
    · exact s.ids_setTask id _
    · rfl
  | notice | stopNext =>
    simp only [step]
    split <;> rfl
  | finish =>
    simp only [step]
    split
    · split <;> rfl
    · rfl

theorem cancelled_step (h : action ≠ .stop) : (s.step action).1.cancelled = s.cancelled := by
  cases action with
  | stop => exact absurd rfl h
  | begin | exit | report | notice | stopNext =>
    simp only [step]
    split <;> rfl
  | finish =>
    simp only [step]
    split
    · split <;> rfl
    · rfl

/-- A start only ceases to run when it has noticed that it has been stopped. -/
theorem phase_step_ne_running (h : s.phase ≠ .running → s.cancelled = true)
    (hphase : (s.step action).1.phase ≠ .running) : s.cancelled = true := by
  cases action with
  | stop => exact h hphase
  | begin | exit | report =>
    simp only [step] at hphase
    split at hphase <;> exact h hphase
  | notice =>
    simp only [step] at hphase
    split at hphase
    · next hcancelled => exact hcancelled
    · exact h hphase
  | stopNext =>
    simp only [step] at hphase
    split at hphase
    · next hstopping => exact h (by simp [hstopping])
    · next hstopping => exact h (by simp [hstopping])
    · exact h hphase
  | finish =>
    simp only [step] at hphase
    split at hphase
    · next hdraining => exact h (by simp [hdraining])
    · exact h hphase

end Supervisor

namespace Shutdown

variable {s : Shutdown} {token : Token} {signals : Signals}

/-! ## The signals of a router -/

/-- Every run of these steps begins below a token. -/
def BeginBelow (token : Token) (actions : List Signals.Action) : Prop :=
  ∀ id context, .begin id context ∈ actions → token.path <:+ context.path

theorem contextsBelow_signals (htoken : token ∈ signals.contexts) (ids : List String) :
    (contextsBelow token signals ids).2 =
      signals.run (List.replicate ids.length (.derive token)) := by
  induction ids generalizing signals with
  | nil => rfl
  | cons id rest ih =>
    have hderive : (signals.derive token).2 = signals.step (.derive token) := (if_pos htoken).symm
    simp only [contextsBelow, hderive]
    exact ih ((signals.subset_step (.derive token)).1 htoken)

theorem contextsBelow_ids (token : Token) (signals : Signals) (ids : List String) :
    (contextsBelow token signals ids).1.map Prod.fst = ids := by
  induction ids generalizing signals with
  | nil => rfl
  | cons id rest ih => exact congrArg (id :: ·) (ih (signals.derive token).2)

theorem contextsBelow_tokens (htoken : token ∈ signals.contexts) (ids : List String) :
    ∀ entry ∈ (contextsBelow token signals ids).1,
      token.path <:+ entry.2.path ∧ entry.2 ∈ (contextsBelow token signals ids).2.contexts := by
  induction ids generalizing signals with
  | nil => nofun
  | cons id rest ih =>
    have htoken' : token ∈ (signals.derive token).2.contexts := List.mem_append_left _ htoken
    refine List.forall_mem_cons.2 ⟨⟨List.suffix_cons _ _, ?_⟩, ih htoken'⟩
    simp only [contextsBelow]
    rw [contextsBelow_signals htoken']
    exact (Signals.subset_run _ _).1 (List.mem_append_right _ List.mem_cons_self)

theorem beginBelow_append {front back : List Signals.Action} (hfront : BeginBelow token front)
    (hback : BeginBelow token back) : BeginBelow token (front ++ back) := by
  intro id context hmem
  rcases List.mem_append.1 hmem with hmem | hmem
  · exact hfront id context hmem
  · exact hback id context hmem

theorem exists_heed {contexts : List (String × Token)}
    (hcontexts : ∀ entry ∈ contexts, token.path <:+ entry.2.path) (signals : Signals)
    (effect : Supervisor.Effect) :
    ∃ actions, BeginBelow token actions ∧ heed contexts signals effect = signals.run actions := by
  cases effect with
  | started id =>
    cases hlookup : contexts.lookup id with
    | none => exact ⟨[], nofun, by simp [heed, hlookup, Signals.run]⟩
    | some context =>
      refine ⟨[.begin id context], fun id' context' hmem => ?_, by simp [heed, hlookup, Signals.run]⟩
      obtain ⟨rfl, rfl⟩ := Signals.Action.begin.inj (List.mem_singleton.1 hmem)
      obtain ⟨front, back, hentries, -⟩ := List.lookup_eq_some_iff.1 hlookup
      exact hcontexts (id', context') (by simp [hentries])
  | toldToStop id => exact ⟨[.stop id], by simp [BeginBelow], rfl⟩
  | stopping | reported | returned => exact ⟨[], nofun, rfl⟩

theorem exists_foldl_heed {contexts : List (String × Token)}
    (hcontexts : ∀ entry ∈ contexts, token.path <:+ entry.2.path)
    (effects : List Supervisor.Effect) (signals : Signals) :
    ∃ actions, BeginBelow token actions ∧
      effects.foldl (heed contexts) signals = signals.run actions := by
  induction effects generalizing signals with
  | nil => exact ⟨[], nofun, rfl⟩
  | cons effect rest ih =>
    obtain ⟨front, hfront, hheed⟩ := exists_heed hcontexts signals effect
    obtain ⟨back, hback, hrest⟩ := ih (heed contexts signals effect)
    refine ⟨front ++ back, beginBelow_append hfront hback, ?_⟩
    rw [List.foldl_cons, hrest, hheed, Signals.run, Signals.run, Signals.run, List.foldl_append]

/-- A run that begins in such steps has its token below. -/
theorem BeginBelow.token_isSuffix {actions : List Signals.Action} (h : BeginBelow token actions)
    (hruns : ∀ r ∈ signals.runs, token.path <:+ r.token.path) :
    ∀ r ∈ (signals.run actions).runs, token.path <:+ r.token.path := by
  induction actions generalizing signals with
  | nil => exact hruns
  | cons action rest ih =>
    refine ih (fun id context hmem => h id context (List.mem_cons_of_mem _ hmem)) ?_
    cases action with
    | begin id context =>
      have hcontext := h id context List.mem_cons_self
      simp only [Signals.step]
      split
      · exact List.forall_mem_append.2
          ⟨hruns, List.forall_mem_singleton.2 (hcontext.trans (List.suffix_cons _ _))⟩
      · exact hruns
    | derive context | cancel context =>
      simp only [Signals.step]
      split <;> exact hruns
    | stop id => exact hruns

/-! ## Soundness -/

/-- What holds of a start of a router. There is a context for each of its tasks. The contexts have
been made, and below the token of the router. It takes the router for stopped only when it has been.
It runs until then. -/
structure Launched.Sound (s : Shutdown) (start : Launched) : Prop where
  ids : start.contexts.map Prod.fst = start.supervisor.ids
  contexts : ∀ entry ∈ start.contexts,
    s.token.path <:+ entry.2.path ∧ entry.2 ∈ s.signals.contexts
  cancelled : start.supervisor.cancelled = true → s.isStopped = true
  phase : start.supervisor.phase ≠ .running → start.supervisor.cancelled = true

/-- What holds of a router after any steps. It has sound signals. Contexts can be made below its
token. All runs of its modules lie below its token. It has sound starts. -/
structure Sound (s : Shutdown) : Prop where
  signals : s.signals.Sound
  token : s.token ∈ s.signals.contexts
  runs : ∀ r ∈ s.signals.runs, s.token.path <:+ r.token.path
  starts : ∀ start ∈ s.starts, start.Sound s

theorem sound_initial (ids : List String) : (initial ids).Sound where
  signals := Signals.sound_initial.derive List.mem_cons_self
  token := List.mem_append_right _ List.mem_cons_self
  runs := nofun
  starts := nofun

variable {s' : Shutdown} {start : Launched}

theorem Launched.Sound.mono (h : start.Sound s) (htoken : s'.token = s.token)
    (hcontexts : s.signals.contexts ⊆ s'.signals.contexts)
    (hstopped : s.isStopped = true → s'.isStopped = true) : start.Sound s' where
  ids := h.ids
  contexts := by
    intro entry hentry
    rw [htoken]
    exact ⟨(h.contexts entry hentry).1, hcontexts (h.contexts entry hentry).2⟩
  cancelled := fun hcancelled => hstopped (h.cancelled hcancelled)
  phase := h.phase

theorem Launched.Sound.step (h : start.Sound s) {action : Supervisor.Action}
    (haction : action ≠ .stop) :
    Launched.Sound s { start with supervisor := (start.supervisor.step action).1 } where
  ids := h.ids.trans (start.supervisor.ids_step action).symm
  contexts := h.contexts
  cancelled := by
    rw [Supervisor.cancelled_step haction]
    exact h.cancelled
  phase := by
    intro hphase
    rw [Supervisor.cancelled_step haction]
    exact Supervisor.phase_step_ne_running h.phase hphase

/-- What a step does to the signals of modules is made of steps of these, and every run that begins
does so below the token of the router. -/
theorem Sound.exists_signals_step (h : s.Sound) (action : Action) :
    ∃ actions, BeginBelow s.token actions ∧
      (s.step action).signals = s.signals.run actions := by
  cases action with
  | launch =>
    refine ⟨List.replicate s.ids.length (.derive s.token), ?_, contextsBelow_signals h.token s.ids⟩
    intro id context hmem
    nomatch List.eq_of_mem_replicate hmem
  | stop => exact ⟨[.cancel s.token], by simp [BeginBelow], rfl⟩
  | supervise n action =>
    simp only [Shutdown.step]
    split
    · exact ⟨[], nofun, rfl⟩
    · simp only [supervise]
      split
      · next start hstart =>
        have hbelow := (h.starts start (List.mem_of_getElem? hstart)).contexts
        exact exists_foldl_heed (fun entry hentry => (hbelow entry hentry).1) _ s.signals
      · exact ⟨[], nofun, rfl⟩
  | stopModule id => exact ⟨[.stop id], by simp [BeginBelow], rfl⟩

theorem token_step (s : Shutdown) (action : Action) : (s.step action).token = s.token := by
  cases action with
  | launch | stop | stopModule => rfl
  | supervise n action =>
    simp only [step]
    split
    · rfl
    · simp only [supervise]
      split <;> rfl

/-- A router that has been stopped stays so. -/
theorem Sound.isStopped_step (h : s.Sound) (action : Action) (hstopped : s.isStopped = true) :
    (s.step action).isStopped = true := by
  obtain ⟨actions, -, hsignals⟩ := h.exists_signals_step action
  rw [isStopped, token_step, hsignals]
  exact (h.signals.isCancelled_context_run_iff h.token actions).2 (.inl hstopped)

theorem Sound.isStopped_stop (h : s.Sound) : (s.step .stop).isStopped = true :=
  (h.signals.isCancelled_context_step_iff h.token (.cancel s.token)).2
    (.inr ⟨s.token, rfl, List.suffix_rfl⟩)

/-- What holds of a start is not undone by a step. -/
theorem Sound.start_step (h : s.Sound) (action : Action) (hstart : start.Sound s) :
    start.Sound (s.step action) := by
  obtain ⟨actions, -, hsignals⟩ := h.exists_signals_step action
  refine hstart.mono (s.token_step action) ?_ (h.isStopped_step action)
  rw [hsignals]
  exact (s.signals.subset_run actions).1

theorem Sound.starts_step (h : s.Sound) (action : Action) :
    ∀ start ∈ (s.step action).starts, start.Sound (s.step action) := by
  have hold : ∀ start ∈ s.starts, start.Sound (s.step action) :=
    fun start hstart => h.start_step action (h.starts start hstart)
  cases action with
  | launch =>
    refine List.forall_mem_append.2 ⟨hold, List.forall_mem_singleton.2 ?_⟩
    have hids := (Supervisor.taskBooks_launch s.ids s.isStopped).ids_eq
    exact ⟨(contextsBelow_ids s.token s.signals s.ids).trans hids.symm,
      contextsBelow_tokens h.token s.ids, h.isStopped_step .launch, fun hphase => absurd rfl hphase⟩
  | stop =>
    intro start hmem
    obtain ⟨start, hstart, rfl⟩ := List.mem_map.1 hmem
    have hsound := hold start hstart
    exact ⟨hsound.ids, hsound.contexts, fun _ => h.isStopped_stop, fun _ => rfl⟩
  | supervise n action =>
    intro start hmem
    simp only [Shutdown.step] at hold hmem ⊢
    split at hmem
    · next hstop =>
      rw [if_pos hstop] at hold ⊢
      exact hold start hmem
    · next hstop =>
      rw [if_neg hstop] at hold ⊢
      simp only [supervise] at hmem
      split at hmem
      · next before hbefore =>
        rcases List.mem_or_eq_of_mem_set hmem with hmem | rfl
        · exact hold start hmem
        · exact (hold before (List.mem_of_getElem? hbefore)).step hstop
      · exact hold start hmem
  | stopModule id => exact hold

theorem Sound.step (h : s.Sound) (action : Action) : (s.step action).Sound := by
  obtain ⟨actions, hbelow, hsignals⟩ := h.exists_signals_step action
  constructor
  case signals =>
    rw [hsignals]
    exact h.signals.run actions
  case token =>
    rw [token_step, hsignals]
    exact (s.signals.subset_run actions).1 h.token
  case runs =>
    rw [token_step, hsignals]
    exact hbelow.token_isSuffix h.runs
  case starts => exact h.starts_step action

theorem Sound.run (h : s.Sound) (actions : List Action) : (s.run actions).Sound := by
  induction actions generalizing s with
  | nil => exact h
  | cons action rest ih => exact ih (h.step action)

theorem Sound.isStopped_run (h : s.Sound) (actions : List Action) (hstopped : s.isStopped = true) :
    (s.run actions).isStopped = true := by
  induction actions generalizing s with
  | nil => exact hstopped
  | cons action rest ih => exact ih (h.step action) (h.isStopped_step action hstopped)

/-! ## No stop is lost -/

/-- All runs of a router that has been stopped are cancelled. -/
theorem Sound.isCancelled_of_isStopped (h : s.Sound) (hstopped : s.isStopped = true) :
    ∀ r ∈ s.signals.runs, s.signals.tokens.isCancelled r.token = true :=
  fun r hr => Cancellations.isCancelled_of_isSuffix hstopped (h.runs r hr)

/-- A start that has gone through the modules belongs to a router that has been stopped. -/
theorem Sound.isStopped_of_hasToldAll (h : s.Sound) {start : Launched} (hstart : start ∈ s.starts)
    (htold : start.hasToldAll = true) : s.isStopped = true := by
  refine (h.starts start hstart).cancelled ((h.starts start hstart).phase fun hphase => ?_)
  simp [Launched.hasToldAll, hphase] at htold

/-- A task that has not begun begins a run of its module. -/
theorem Sound.runs_begin (h : s.Sound) {n : Nat} (hstart : s.starts[n]? = some start) {id : String}
    {t : Supervisor.Task} (htask : start.supervisor.task? id = some t)
    (hstate : t.state = .waiting) :
    ∃ r, r.id = id ∧
      (s.step (.supervise n (.begin id))).signals.runs = s.signals.runs ++ [r] := by
  have hsound := h.starts start (List.mem_of_getElem? hstart)
  obtain ⟨id', state⟩ := t
  obtain rfl : state = .waiting := hstate
  have hid : id ∈ start.contexts.map Prod.fst := by
    obtain rfl : id' = id := by simpa using List.find?_some htask
    rw [hsound.ids]
    exact List.mem_map_of_mem (List.mem_of_find?_eq_some htask)
  obtain ⟨context, hlookup⟩ : ∃ context, start.contexts.lookup id = some context := by
    refine Option.ne_none_iff_exists'.1 fun hnone => ?_
    obtain ⟨entry, hentry, rfl⟩ := List.mem_map.1 hid
    simpa using List.lookup_eq_none_iff.1 hnone entry hentry
  obtain ⟨front, back, hentries, -⟩ := List.lookup_eq_some_iff.1 hlookup
  have hcontext : context ∈ s.signals.contexts :=
    (hsound.contexts (id, context) (by simp [hentries])).2
  refine ⟨⟨id, context, (s.signals.tokens.child context).1⟩, rfl, ?_⟩
  simp [Shutdown.step, supervise, hstart, Supervisor.step, htask, heed, hlookup, Signals.step,
    hcontext, Signals.begin, StopSignal.begin]

/-- What stopping comes to when a router has come to `s`. Its modules heed stops and cancellations.
However late it is, a task that has not begun can begin, and with it a run of its module. Once a
start has gone through the modules, every run of a module is cancelled from then on, be it one that
began before or one that begins later. -/
structure EndsAll (s : Shutdown) : Prop where
  heeds : s.signals.Heeds
  begins : ∀ n start id t, s.starts[n]? = some start → start.supervisor.task? id = some t →
    t.state = .waiting → ∃ r, r.id = id ∧
      (s.step (.supervise n (.begin id))).signals.runs = s.signals.runs ++ [r]
  cancelled : ∀ start ∈ s.starts, start.hasToldAll = true → ∀ later,
    ∀ r ∈ (s.run later).signals.runs, (s.run later).signals.tokens.isCancelled r.token = true

/-- **No stop is lost.** In whichever order contexts are cancelled, runs begin and modules are told to
stop, they come to what `Heeds` says; and in whichever order a router is started and stopped, its
starts take their steps and modules are told to stop, it comes to what `EndsAll` says. -/
theorem no_stop_is_lost :
    (∀ actions, (Signals.initial.run actions).Heeds) ∧
      ∀ (ids : List String) (actions : List Action), ((initial ids).run actions).EndsAll := by
  refine ⟨fun actions => (Signals.sound_initial.run actions).heeds, fun ids actions => ?_⟩
  have h := (sound_initial ids).run actions
  constructor
  case heeds => exact h.signals.heeds
  case begins => exact fun _ _ _ _ hstart htask hstate => h.runs_begin hstart htask hstate
  case cancelled =>
    intro start hstart htold later
    have hstopped := h.isStopped_run later (h.isStopped_of_hasToldAll hstart htold)
    exact (h.run later).isCancelled_of_isStopped hstopped

/-- Of two modules one begins its run before the router is stopped, and the other when the router has
gone through both. The second has been told to stop before that, and this alone would be lost. -/
theorem no_stop_is_lost_late :
    let s := (initial ["a", "b"]).run [.launch, .supervise 0 (.begin "a"), .stop,
      .supervise 0 .notice, .supervise 0 .stopNext, .supervise 0 .stopNext,
      .supervise 0 .stopNext]
    let later : List Action := [.supervise 0 (.begin "b")]
    let told := Signals.initial.step (.stop "b")
    s.starts.map Launched.hasToldAll = [true] ∧
      (s.run later).signals.runs.map Signals.Run.id = ["a", "b"] ∧
      (∀ r ∈ (s.run later).signals.runs, (s.run later).signals.tokens.isCancelled r.token = true) ∧
      told = Signals.initial ∧
      (told.step (.begin "b" .root)).tokens.isCancelled ⟨[0]⟩ = false ∧
      ((told.step (.begin "b" .root)).step (.stop "b")).tokens.isCancelled ⟨[0]⟩ = true := by
  intro s later told
  obtain ⟨hheeds, hrouter⟩ := no_stop_is_lost
  have htold : s.starts.map Launched.hasToldAll = [true] := by decide +kernel
  obtain ⟨start, hstart, hall⟩ : ∃ start ∈ s.starts, start.hasToldAll = true :=
    List.mem_map.1 (htold ▸ List.mem_cons_self)
  have hcancelled := (hrouter ["a", "b"] _).cancelled start hstart hall later
  have hearly : told = Signals.initial := (hheeds []).early "b" nofun
  refine ⟨htold, by decide +kernel, hcancelled, hearly, ?_, ?_⟩
  · rw [hearly]
    decide +kernel
  · have hiff := ((hheeds []).cancelled_iff "b" .root List.mem_cons_self [.stop "b"]).2
    rw [hearly]
    exact hiff.2 (.inr (.inr ⟨[], [], rfl, by decide +kernel⟩))

end Shutdown

end Switchboard
