import Mathlib.Data.List.Nodup
import Switchboard.Module.Signals
import Switchboard.Proofs.Cancellation
import Switchboard.Proofs.Positions

/-!
# No stop is lost

The token of a run is cancelled with its context, or by the module being told to stop while the run is
the latest of the module. What carries this is that a stop signal holds the token of the latest run
until that has been cancelled, and that no token is made twice.
-/

namespace Switchboard.Signals

variable {s : Signals} {id : String} {context : Token} {r : Run}

/-- The tokens that there are: contexts, and those of the runs. -/
def known (s : Signals) : List Token := s.contexts ++ s.runs.map Run.token

/-- The token that telling a module to stop is to cancel: that of its latest run, unless this has
been cancelled. -/
def due? (s : Signals) (id : String) : Option Token :=
  ((s.latest? id).map Run.token).filter fun token => token ∉ s.tokens.cancelled

/-! ## Latest runs -/

theorem latest?_eq_none_iff : s.latest? id = none ↔ ∀ run ∈ s.runs, run.id ≠ id := by
  simp [latest?]

theorem mem_of_latest? (h : s.latest? id = some r) : r ∈ s.runs ∧ r.id = id := by
  have hmem := List.mem_of_getLast? h
  simpa using hmem

theorem latest?_begin (s : Signals) (id : String) (context : Token) :
    (s.begin id context).latest? id = some ⟨id, context, (s.tokens.child context).1⟩ := by
  simp [latest?, begin, StopSignal.begin]

theorem latest?_begin_of_ne {other : String} (h : other ≠ id) :
    (s.begin id context).latest? other = s.latest? other := by
  simp [latest?, begin, setSignal, List.filter_append, h.symm]

theorem due?_eq_some_iff {token : Token} :
    s.due? id = some token ↔
      ∃ run, s.latest? id = some run ∧ run.token = token ∧ token ∉ s.tokens.cancelled := by
  simp only [due?, Option.filter_eq_some_iff, Option.map_eq_some_iff, decide_eq_true_eq]
  tauto

/-! ## Soundness -/

/-- What holds of modules after any steps. The numbers of all tokens have been given. No token has
been made twice. The token of a run lies below its context. What lies above a context is one. Only
tokens that there are have been cancelled. A stop signal holds what is to be cancelled. -/
structure Sound (s : Signals) : Prop where
  older : ∀ token ∈ s.known, ∀ k ∈ token.path, k < s.tokens.next
  nodup : s.known.Nodup
  below : ∀ run ∈ s.runs, run.context ∈ s.contexts ∧ ∃ k, run.token = ⟨k :: run.context.path⟩
  above : ∀ context ∈ s.contexts, ∀ token : Token, token.path <:+ context.path → token ∈ s.contexts
  cancelled : s.tokens.cancelled ⊆ s.known
  signals : ∀ id, s.signal id = ⟨s.due? id⟩

/-- A stop signal still holds what is to be cancelled, when neither it nor the latest run is another
and the token of this run is not cancelled. -/
theorem Sound.signal_eq {s' : Signals} (h : s.Sound) (hsignal : s'.signal id = s.signal id)
    (hlatest : s'.latest? id = s.latest? id)
    (hcancelled : ∀ r, s.latest? id = some r →
      (r.token ∈ s'.tokens.cancelled ↔ r.token ∈ s.tokens.cancelled)) :
    s'.signal id = ⟨s'.due? id⟩ := by
  have hdue : s'.due? id = s.due? id := by
    refine Option.ext fun token => ?_
    rw [due?_eq_some_iff, due?_eq_some_iff, hlatest]
    refine exists_congr fun r => and_congr_right fun hr => and_congr_right fun htoken => ?_
    rw [← htoken, hcancelled r hr]
  rw [hsignal, h.signals id, hdue]

theorem sound_initial : initial.Sound where
  older := by simp [known, initial, Token.root]
  nodup := by simp [known, initial]
  below := nofun
  above := by
    intro context hcontext token htoken
    obtain rfl := List.mem_singleton.1 hcontext
    exact List.mem_singleton.2 (Token.eq_of_path_eq (List.eq_nil_of_suffix_nil htoken))
  cancelled := nofun
  signals := fun id => rfl

/-- The next token is none of those that there are. -/
theorem Sound.child_notMem (h : s.Sound) (context : Token) :
    (s.tokens.child context).1 ∉ s.known := by
  intro hmem
  exact Nat.lt_irrefl _ (h.older _ hmem s.tokens.next List.mem_cons_self)

/-- The token of a run is not a context. -/
theorem Sound.token_notMem (h : s.Sound) (hrun : r ∈ s.runs) : r.token ∉ s.contexts := by
  intro hmem
  exact List.disjoint_of_nodup_append h.nodup hmem (List.mem_map_of_mem hrun)

/-- The token of a run is that of no other. -/
theorem Sound.eq_of_token_eq (h : s.Sound) {other : Run} (hrun : r ∈ s.runs)
    (hother : other ∈ s.runs) (htoken : r.token = other.token) : r = other :=
  List.inj_on_of_nodup_map h.nodup.of_append_right hrun hother htoken

/-! ## One step -/

/-- A token that is made below a context is the youngest. -/
theorem Sound.of_child {s' : Signals} (h : s.Sound) (hcontext : context ∈ s.contexts)
    (hknown : s'.known.Perm ((s.tokens.child context).1 :: s.known))
    (hnext : s'.tokens.next = s.tokens.next + 1) :
    (∀ token ∈ s'.known, ∀ k ∈ token.path, k < s'.tokens.next) ∧ s'.known.Nodup := by
  constructor
  · intro token hmem k hk
    rw [hnext]
    rcases List.mem_cons.1 (hknown.mem_iff.1 hmem) with rfl | hmem
    · rcases List.mem_cons.1 hk with rfl | hk
      · exact Nat.lt_succ_self _
      · exact Nat.lt_succ_of_lt (h.older context (List.mem_append_left _ hcontext) k hk)
    · exact Nat.lt_succ_of_lt (h.older token hmem k hk)
  · exact hknown.nodup_iff.2 (List.nodup_cons.2 ⟨h.child_notMem context, h.nodup⟩)

theorem known_derive_perm (s : Signals) (context : Token) :
    (s.derive context).2.known.Perm ((s.tokens.child context).1 :: s.known) := by
  simp only [known, derive, List.append_assoc, List.singleton_append]
  exact List.perm_middle

theorem known_begin_perm (s : Signals) (id : String) (context : Token) :
    (s.begin id context).known.Perm ((s.tokens.child context).1 :: s.known) := by
  simp only [known, begin, StopSignal.begin, setSignal, List.map_append, ← List.append_assoc]
  exact List.perm_append_singleton _ _

theorem Sound.derive (h : s.Sound) (hcontext : context ∈ s.contexts) :
    (s.derive context).2.Sound where
  older := (h.of_child hcontext (s.known_derive_perm context) rfl).1
  nodup := (h.of_child hcontext (s.known_derive_perm context) rfl).2
  below := by
    intro run hrun
    obtain ⟨hmem, hpath⟩ := h.below run hrun
    exact ⟨List.mem_append_left _ hmem, hpath⟩
  above := by
    intro other hother token htoken
    rcases List.mem_append.1 hother with hother | hother
    · exact List.mem_append_left _ (h.above other hother token htoken)
    · obtain rfl := List.mem_singleton.1 hother
      rcases List.suffix_cons_iff.1 htoken with hpath | htoken
      · exact List.mem_append_right _ (List.mem_singleton.2 (Token.eq_of_path_eq hpath))
      · exact List.mem_append_left _ (h.above context hcontext token htoken)
  cancelled := by
    intro token htoken
    exact (s.known_derive_perm context).mem_iff.2 (List.mem_cons_of_mem _ (h.cancelled htoken))
  signals := h.signals

theorem Sound.cancel (h : s.Sound) (hcontext : context ∈ s.contexts) :
    { s with tokens := s.tokens.cancel context }.Sound where
  older := h.older
  nodup := h.nodup
  below := h.below
  above := h.above
  cancelled := List.cons_subset.2 ⟨List.mem_append_left _ hcontext, h.cancelled⟩
  signals := by
    intro id
    refine h.signal_eq rfl rfl fun r hr => ?_
    have hne : r.token ≠ context := fun heq =>
      h.token_notMem (mem_of_latest? hr).1 (heq ▸ hcontext)
    simp [Cancellations.cancel, hne]

theorem Sound.begin (h : s.Sound) (hcontext : context ∈ s.contexts) :
    (s.begin id context).Sound where
  older := (h.of_child hcontext (s.known_begin_perm id context) rfl).1
  nodup := (h.of_child hcontext (s.known_begin_perm id context) rfl).2
  below := by
    intro run hrun
    rcases List.mem_append.1 hrun with hrun | hrun
    · exact h.below run hrun
    · obtain rfl := List.mem_singleton.1 hrun
      exact ⟨hcontext, _, rfl⟩
  above := h.above
  cancelled := by
    intro token htoken
    exact (s.known_begin_perm id context).mem_iff.2 (List.mem_cons_of_mem _ (h.cancelled htoken))
  signals := by
    intro other
    by_cases hid : other = id
    · subst hid
      have hdue : (s.begin other context).due? other = some (s.tokens.child context).1 :=
        due?_eq_some_iff.2 ⟨_, s.latest?_begin other context, rfl,
          fun hmem => h.child_notMem context (h.cancelled hmem)⟩
      rw [hdue]
      exact if_pos rfl
    · exact h.signal_eq (if_neg hid) (latest?_begin_of_ne hid) fun _ _ => Iff.rfl

/-- When nothing is due, telling a module to stop changes nothing. -/
theorem Sound.stop_eq_self (h : s.Sound) (hdue : s.due? id = none) : s.stop id = s := by
  have hsignal : (s.signal id).stop s.tokens = (s.signal id, s.tokens) := by
    rw [h.signals id, hdue]
    rfl
  have hset : s.setSignal id (s.signal id) = s := by
    rw [setSignal]
    congr 1
    funext other
    split
    · next hid => rw [hid]
    · rfl
  simp only [Signals.stop, hsignal, hset]

/-- Otherwise it cancels what is due. -/
theorem Sound.stop_eq (h : s.Sound) {token : Token} (hdue : s.due? id = some token) :
    s.stop id = { s.setSignal id .idle with tokens := s.tokens.cancel token } := by
  have hsignal : (s.signal id).stop s.tokens = (.idle, s.tokens.cancel token) := by
    rw [h.signals id, hdue]
    rfl
  rw [Signals.stop, hsignal]

theorem Sound.stop (h : s.Sound) (id : String) : (s.stop id).Sound := by
  cases hdue : s.due? id with
  | none =>
    rw [h.stop_eq_self hdue]
    exact h
  | some token =>
    rw [h.stop_eq hdue]
    obtain ⟨r, hr, rfl, -⟩ := due?_eq_some_iff.1 hdue
    obtain ⟨hmem, hid⟩ := mem_of_latest? hr
    refine ⟨h.older, h.nodup, h.below, h.above, List.cons_subset.2 ⟨?_, h.cancelled⟩, ?_⟩
    · exact List.mem_append_right _ (List.mem_map_of_mem hmem)
    · intro other
      by_cases hother : other = id
      · subst hother
        refine (if_pos rfl).trans (congrArg StopSignal.mk ?_)
        refine (Option.eq_none_iff_forall_ne_some.2 fun token htoken => ?_).symm
        obtain ⟨r', hr', rfl, hfree⟩ := due?_eq_some_iff.1 htoken
        obtain rfl : r = r' := Option.some.inj (hr.symm.trans hr')
        exact hfree List.mem_cons_self
      · refine h.signal_eq (if_neg hother) rfl fun r' hr' => ?_
        obtain ⟨hmem', hid'⟩ := mem_of_latest? hr'
        have hne : r'.token ≠ r.token := by
          intro heq
          rw [h.eq_of_token_eq hmem' hmem heq] at hid'
          exact hother (hid'.symm.trans hid)
        simp [Cancellations.cancel, hne]

theorem Sound.step (h : s.Sound) (action : Action) : (s.step action).Sound := by
  cases action with
  | derive context =>
    simp only [Signals.step]
    split
    · next hcontext => exact h.derive hcontext
    · exact h
  | cancel context =>
    simp only [Signals.step]
    split
    · next hcontext => exact h.cancel hcontext
    · exact h
  | begin id context =>
    simp only [Signals.step]
    split
    · next hcontext => exact h.begin hcontext
    · exact h
  | stop id => exact h.stop id

theorem Sound.run (h : s.Sound) (actions : List Action) : (s.run actions).Sound := by
  induction actions generalizing s with
  | nil => exact h
  | cons action rest ih => exact ih (h.step action)

/-! ## What a step cancels -/

/-- Contexts and runs stay. -/
theorem subset_step (s : Signals) (action : Action) :
    s.contexts ⊆ (s.step action).contexts ∧ s.runs ⊆ (s.step action).runs := by
  cases action with
  | derive context =>
    simp only [step]
    split
    · exact ⟨List.subset_append_left _ _, List.Subset.refl _⟩
    · exact ⟨List.Subset.refl _, List.Subset.refl _⟩
  | cancel context =>
    simp only [step]
    split <;> exact ⟨List.Subset.refl _, List.Subset.refl _⟩
  | begin id context =>
    simp only [step]
    split
    · exact ⟨List.Subset.refl _, List.subset_append_left _ _⟩
    · exact ⟨List.Subset.refl _, List.Subset.refl _⟩
  | stop id => exact ⟨List.Subset.refl _, List.Subset.refl _⟩

/-- Telling a module to stop cancels what is due and nothing else. -/
theorem Sound.mem_cancelled_stop_iff (h : s.Sound) {token : Token} :
    token ∈ (s.stop id).tokens.cancelled ↔ token ∈ s.tokens.cancelled ∨ s.due? id = some token := by
  cases hdue : s.due? id with
  | none => simp [h.stop_eq_self hdue]
  | some t =>
    rw [h.stop_eq hdue]
    simp only [Cancellations.cancel, List.mem_cons, Option.some.injEq]
    rw [or_comm, eq_comm]

theorem Sound.due?_eq_some_token_iff (h : s.Sound) (hr : r ∈ s.runs) :
    s.due? id = some r.token ↔
      id = r.id ∧ s.latest? r.id = some r ∧ r.token ∉ s.tokens.cancelled := by
  rw [due?_eq_some_iff]
  constructor
  · rintro ⟨r', hr', htoken, hfree⟩
    obtain ⟨hmem, rfl⟩ := mem_of_latest? hr'
    obtain rfl := h.eq_of_token_eq hmem hr htoken
    exact ⟨rfl, hr', hfree⟩
  · rintro ⟨rfl, hr', hfree⟩
    exact ⟨r, hr', rfl, hfree⟩

/-- A step cancels the token of a run just when it tells the module to stop and the run is its
latest. -/
theorem Sound.mem_cancelled_step_iff (h : s.Sound) (hr : r ∈ s.runs) (action : Action) :
    r.token ∈ (s.step action).tokens.cancelled ↔
      r.token ∈ s.tokens.cancelled ∨ action = .stop r.id ∧ s.latest? r.id = some r := by
  cases action with
  | derive context | begin id context =>
    simp only [Signals.step]
    split <;> simp [Signals.derive, Signals.begin, StopSignal.begin, Cancellations.child]
  | cancel context =>
    simp only [Signals.step]
    split
    · next hcontext =>
      have hne : r.token ≠ context := fun heq => h.token_notMem hr (heq ▸ hcontext)
      simp [Cancellations.cancel, hne]
    · simp
  | stop id =>
    rw [Signals.step, h.mem_cancelled_stop_iff, h.due?_eq_some_token_iff hr, Action.stop.injEq]
    tauto

/-- A step cancels a context just when it cancels it or one above it. -/
theorem Sound.isCancelled_context_step_iff (h : s.Sound) (hcontext : context ∈ s.contexts)
    (action : Action) :
    (s.step action).tokens.isCancelled context = true ↔
      s.tokens.isCancelled context = true ∨
        ∃ above, action = .cancel above ∧ above.path <:+ context.path := by
  cases action with
  | derive other | begin id other =>
    simp only [Signals.step]
    split <;>
      simp [Signals.derive, Signals.begin, StopSignal.begin, Cancellations.child,
        Cancellations.isCancelled]
  | cancel other =>
    simp only [Signals.step]
    split
    · simp only [Cancellations.isCancelled_iff, Cancellations.cancel, List.mem_cons,
        exists_eq_or_imp, Action.cancel.injEq, exists_eq_left']
      exact or_comm
    · next hother =>
      have hsuffix : ¬ other.path <:+ context.path := fun hsuffix =>
        hother (h.above context hcontext other hsuffix)
      simp [hsuffix]
  | stop id =>
    simp only [Signals.step, Cancellations.isCancelled_iff, h.mem_cancelled_stop_iff]
    constructor
    · rintro ⟨token, hmem | hdue, hsuffix⟩
      · exact .inl ⟨token, hmem, hsuffix⟩
      · obtain ⟨r, hr, rfl, -⟩ := due?_eq_some_iff.1 hdue
        exact absurd (h.above context hcontext r.token hsuffix)
          (h.token_notMem (mem_of_latest? hr).1)
    · rintro (⟨token, hmem, hsuffix⟩ | ⟨above, habove, -⟩)
      · exact ⟨token, .inl hmem, hsuffix⟩
      · cases habove

/-! ## What a run cancels -/

theorem Sound.mem_cancelled_run_iff (h : s.Sound) (hr : r ∈ s.runs) (actions : List Action) :
    r.token ∈ (s.run actions).tokens.cancelled ↔
      r.token ∈ s.tokens.cancelled ∨ ∃ before after, actions = before ++ .stop r.id :: after ∧
        (s.run before).latest? r.id = some r := by
  induction actions generalizing s with
  | nil => simp [Signals.run]
  | cons action rest ih =>
    refine (ih (h.step action) ((s.subset_step action).2 hr)).trans ?_
    rw [h.mem_cancelled_step_iff hr, exists_split_cons_iff, or_assoc]
    rfl

theorem Sound.isCancelled_context_run_iff (h : s.Sound) (hcontext : context ∈ s.contexts)
    (actions : List Action) :
    (s.run actions).tokens.isCancelled context = true ↔
      s.tokens.isCancelled context = true ∨
        ∃ above, .cancel above ∈ actions ∧ above.path <:+ context.path := by
  induction actions generalizing s with
  | nil => simp [Signals.run]
  | cons action rest ih =>
    refine (ih (h.step action) ((s.subset_step action).1 hcontext)).trans ?_
    rw [h.isCancelled_context_step_iff hcontext]
    simp only [List.mem_cons, or_and_right, exists_or, or_assoc, @eq_comm _ action]

theorem subset_run (s : Signals) (actions : List Action) :
    s.contexts ⊆ (s.run actions).contexts ∧ s.runs ⊆ (s.run actions).runs := by
  induction actions generalizing s with
  | nil => exact ⟨List.Subset.refl _, List.Subset.refl _⟩
  | cons action rest ih =>
    obtain ⟨hcontexts, hruns⟩ := ih (s.step action)
    exact ⟨List.Subset.trans (s.subset_step action).1 hcontexts,
      List.Subset.trans (s.subset_step action).2 hruns⟩

/-- The token of a run is cancelled by its own name, or with its context. -/
theorem Sound.isCancelled_iff (h : s.Sound) (hr : r ∈ s.runs) :
    s.tokens.isCancelled r.token = true ↔
      r.token ∈ s.tokens.cancelled ∨ s.tokens.isCancelled r.context = true := by
  obtain ⟨-, k, htoken⟩ := h.below r hr
  rw [htoken]
  exact Cancellations.isCancelled_cons_iff

/-! ## What stops come to -/

/-- What holds when modules have come to `s`. The token of a run that begins now is cancelled just
when its context has been cancelled before or is cancelled after, by itself or with one above it, or
when the module is told to stop while the run is its latest. A module that has been told to stop is
not told more by another stop, until a run begins. A module is not told anything before its first
run. -/
structure Heeds (s : Signals) : Prop where
  cancelled_iff : ∀ id, ∀ context ∈ s.contexts, ∀ actions : List Action,
    let begun := s.step (.begin id context)
    let r : Run := ⟨id, context, (s.tokens.child context).1⟩
    begun.latest? id = some r ∧ ((begun.run actions).tokens.isCancelled r.token = true ↔
      s.tokens.isCancelled context = true ∨
        (∃ above, .cancel above ∈ actions ∧ above.path <:+ context.path) ∨
        ∃ before after, actions = before ++ .stop id :: after ∧
          (begun.run before).latest? id = some r)
  repeated : ∀ id (actions : List Action),
    let told := (s.step (.stop id)).run actions
    told.latest? id = s.latest? id → told.step (.stop id) = told
  early : ∀ id, (∀ r ∈ s.runs, r.id ≠ id) → s.step (.stop id) = s

theorem Sound.heeds (h : s.Sound) : s.Heeds where
  cancelled_iff := by
    intro id context hcontext actions begun r
    have hbegun : begun = s.begin id context := if_pos hcontext
    have hsound : begun.Sound := h.step _
    have hlatest : begun.latest? id = some r := by
      rw [hbegun]
      exact s.latest?_begin id context
    have hr : r ∈ begun.runs := (mem_of_latest? hlatest).1
    have hfree : r.token ∉ begun.tokens.cancelled := by
      rw [hbegun]
      exact fun hmem => h.child_notMem context (h.cancelled hmem)
    have hcontext' : context ∈ begun.contexts := (s.subset_step _).1 hcontext
    have hbefore : begun.tokens.isCancelled context = s.tokens.isCancelled context := by
      rw [hbegun]
      rfl
    refine ⟨hlatest, ?_⟩
    rw [(hsound.run actions).isCancelled_iff ((begun.subset_run actions).2 hr),
      hsound.mem_cancelled_run_iff hr, or_iff_right hfree,
      hsound.isCancelled_context_run_iff hcontext', hbefore, or_comm, or_assoc]
  repeated := by
    intro id actions told hlatest
    have hstopped : (s.step (.stop id)).Sound := h.step _
    refine (hstopped.run actions).stop_eq_self (Option.eq_none_iff_forall_ne_some.2 ?_)
    intro token hdue
    obtain ⟨r, hr, rfl, hfree⟩ := due?_eq_some_iff.1 hdue
    rw [hlatest] at hr
    obtain ⟨hmem, rfl⟩ := mem_of_latest? hr
    have hcancelled := (h.mem_cancelled_step_iff hmem (.stop r.id)).2 (.inr ⟨rfl, hr⟩)
    exact hfree ((hstopped.mem_cancelled_run_iff ((s.subset_step _).2 hmem) actions).2
      (.inl hcancelled))
  early := by
    intro id hnone
    have hdue : s.due? id = none := by
      rw [due?, latest?_eq_none_iff.2 hnone]
      rfl
    exact h.stop_eq_self hdue

end Switchboard.Signals
