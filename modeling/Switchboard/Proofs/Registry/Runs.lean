import Mathlib.Data.List.Nodup
import Switchboard.Proofs.Table
import Switchboard.Registry.Calls

/-!
# What registries know after calls

After any calls a registry knows the constructors of the registrations that it has taken, of which no
two are of one type: the first usable one of each type. A registration is refused for the first
reason that applies, and then nothing has changed. The two registries do not know of each other.
-/

namespace Switchboard

namespace Registry

variable {C : Type} {r : Registry C} {kind type : String} {constructor : C}
  {given : Registration C} {taken : List (String × C)}

/-! ## One call -/

theorem call_emptyType (given : Registration C) (h : given.type = "") :
    r.call (.register given) = (.refused (r.kind ++ " registration has an empty type"), r) := by
  simp only [call, register, if_pos h]
  rfl

theorem call_noConstructor (given : Registration C) (htype : given.type ≠ "")
    (h : given.constructor = none) :
    r.call (.register given) =
      (.refused (r.kind ++ " registration " ++ given.type ++ " has no constructor"), r) := by
  simp only [call, register, if_neg htype, h]
  rfl

theorem call_duplicate (given : Registration C) (htype : given.type ≠ "")
    (h : given.constructor = some constructor) (hknown : r.contains given.type = true) :
    r.call (.register given) =
      (.refused (r.kind ++ " type " ++ given.type ++ " is already registered"), r) := by
  simp only [call, register, if_neg htype, h, if_pos hknown]
  rfl

theorem call_fresh (given : Registration C) (htype : given.type ≠ "")
    (h : given.constructor = some constructor) (hnew : ¬ r.contains given.type = true) :
    r.call (.register given) =
      (.taken, { r with entries := r.entries.insert given.type constructor }) := by
  simp only [call, register, if_neg htype, h, if_neg hnew]

/-- The registration that a request has brought, if it is taken. -/
def taken? (r : Registry C) (request : Request C) : Option (String × C) :=
  match request, (r.call request).1 with
  | .register ⟨type, some constructor⟩, .taken => some (type, constructor)
  | _, _ => none

/-- The constructor that a request brings for a type, if it could be taken. -/
def brings? (type : String) : Request C → Option C
  | .register ⟨other, some constructor⟩ =>
    if other = type ∧ other ≠ "" then some constructor else none
  | _ => none

/-- A request changes nothing, and then it brings nothing that is not known, or it brings a
registration of a new type that is taken. -/
theorem call_cases (r : Registry C) (request : Request C) :
    (r.taken? request = none ∧ (r.call request).2 = r ∧
        ∀ type, brings? type request = none ∨ (r.lookup type).isSome) ∨
      ∃ type constructor, request = .register ⟨type, some constructor⟩ ∧ type ≠ "" ∧
        r.lookup type = none ∧ r.taken? request = some (type, constructor) ∧
        (r.call request).2 = { r with entries := r.entries.insert type constructor } := by
  cases request with
  | register given =>
    obtain ⟨type, brought⟩ := given
    by_cases htype : type = ""
    · refine .inl ?_
      simp only [taken?, call_emptyType ⟨type, brought⟩ htype, true_and]
      intro other
      cases brought <;> simp [brings?, htype]
    · cases brought with
      | none =>
        refine .inl ?_
        simp only [taken?, call_noConstructor ⟨type, none⟩ htype rfl, true_and]
        exact fun _ => .inl rfl
      | some constructor =>
        by_cases hknown : r.contains type = true
        · refine .inl ?_
          simp only [taken?, call_duplicate ⟨type, some constructor⟩ htype rfl hknown,
            true_and]
          intro other
          by_cases hother : type = other
          · exact .inr (hother ▸ hknown)
          · exact .inl (if_neg (by simp [hother]))
        · have hcall := call_fresh ⟨type, some constructor⟩ htype rfl hknown
          refine .inr ⟨type, constructor, rfl, htype, ?_, ?_, ?_⟩
          · simpa [contains] using hknown
          · simp only [taken?, hcall]
          · rw [hcall]
  | lookup type => exact .inl ⟨rfl, rfl, fun _ => .inl rfl⟩
  | contains type => exact .inl ⟨rfl, rfl, fun _ => .inl rfl⟩
  | types => exact .inl ⟨rfl, rfl, fun _ => .inl rfl⟩
  | size => exact .inl ⟨rfl, rfl, fun _ => .inl rfl⟩
  | isEmpty => exact .inl ⟨rfl, rfl, fun _ => .inl rfl⟩

theorem call_of_refused {request : Request C} {message : String}
    (h : (r.call request).1 = .refused message) : (r.call request).2 = r := by
  rcases r.call_cases request with ⟨-, hsame, -⟩ | ⟨type, constructor, rfl, -, -, htaken, -⟩
  · exact hsame
  · simp only [taken?, h] at htaken
    nomatch htaken

/-! ## Runs -/

/-- The registrations that are taken in the course of requests, in order. -/
def takenBy (r : Registry C) : List (Request C) → List (String × C)
  | [] => []
  | request :: rest => (r.taken? request).toList ++ (r.call request).2.takenBy rest

/-- What a registry knows is what it has taken. -/
structure Knows (r : Registry C) (taken : List (String × C)) : Prop where
  sorted : r.entries.Sorted
  once : (taken.map Prod.fst).Nodup
  lookup : ∀ type constructor, r.lookup type = some constructor ↔ (type, constructor) ∈ taken

theorem knows_empty (kind : String) : (empty kind : Registry C).Knows [] :=
  ⟨Table.sorted_nil, .nil, fun _ _ => ⟨nofun, nofun⟩⟩

theorem Knows.call (h : r.Knows taken) (request : Request C) :
    (r.call request).2.Knows (taken ++ (r.taken? request).toList) := by
  rcases r.call_cases request with ⟨htaken, hsame, -⟩ | ⟨type, constructor, -, -, hnew, htaken, hnext⟩
  · rw [htaken, hsame, Option.toList_none, List.append_nil]
    exact h
  · have hfresh : type ∉ taken.map Prod.fst := by
      intro hmem
      obtain ⟨⟨other, known⟩, hpair, rfl⟩ := List.mem_map.1 hmem
      nomatch hnew.symm.trans ((h.lookup other known).2 hpair)
    rw [htaken, hnext, Option.toList_some]
    refine ⟨Table.sorted_insert h.sorted, ?_, fun other known => ?_⟩
    · rw [List.map_append]
      exact h.once.append (List.nodup_singleton _) (by simpa using hfresh)
    · have hlookup := h.lookup other known
      rw [Registry.lookup] at hlookup ⊢
      rw [Table.find?_insert, List.mem_append, List.mem_singleton, Prod.mk.injEq]
      split
      · next heq =>
        subst heq
        have hnot : (type, known) ∉ taken := fun hmem => hfresh (List.mem_map_of_mem hmem)
        simp [hnot, eq_comm]
      · next hne => simp [hlookup, Ne.symm hne]

theorem Knows.run (h : r.Knows taken) (requests : List (Request C)) :
    (r.run requests).Knows (taken ++ r.takenBy requests) := by
  induction requests generalizing r taken with
  | nil =>
    rw [takenBy, List.append_nil]
    exact h
  | cons request rest ih =>
    rw [takenBy, ← List.append_assoc]
    exact ih (h.call request)

theorem kind_call (r : Registry C) (request : Request C) : (r.call request).2.kind = r.kind := by
  rcases r.call_cases request with ⟨-, hsame, -⟩ | ⟨type, constructor, -, -, -, -, hnext⟩
  · rw [hsame]
  · rw [hnext]

theorem kind_run (r : Registry C) (requests : List (Request C)) : (r.run requests).kind = r.kind := by
  induction requests generalizing r with
  | nil => rfl
  | cons request rest ih => exact (ih _).trans (r.kind_call request)

/-- A type that is known stays so; another is known from the first usable registration on. -/
theorem lookup_call (r : Registry C) (request : Request C) (type : String) :
    (r.call request).2.lookup type = (r.lookup type).or (brings? type request) := by
  rcases r.call_cases request with ⟨-, hsame, hbrings⟩ | ⟨new, constructor, rfl, hnew, hnone, -, hnext⟩
  · rw [hsame]
    rcases hbrings type with hbrings | hknown
    · rw [hbrings, Option.or_none]
    · rw [Option.or_of_isSome hknown]
  · rw [hnext, lookup, Table.find?_insert, brings?]
    by_cases heq : new = type
    · subst heq
      rw [if_pos rfl, if_pos ⟨rfl, hnew⟩, hnone, Option.none_or]
    · rw [if_neg heq, if_neg (fun h => heq h.1), Option.or_none]
      rfl

theorem lookup_run (r : Registry C) (requests : List (Request C)) (type : String) :
    (r.run requests).lookup type = (r.lookup type).or (requests.findSome? (brings? type)) := by
  induction requests generalizing r with
  | nil => exact Option.or_none.symm
  | cons request rest ih =>
    refine (ih _).trans ?_
    rw [lookup_call, List.findSome?_cons, Option.or_assoc]
    cases brings? type request <;> rfl

/-- What a registry of a kind is after requests, and what comes of the next one. No two
registrations of one type have been taken. A constructor is found when it was brought by the
registration of the type that was taken. This is the first one that names the type and brings a
constructor. The types that are known are those for which a constructor is found. They are the types
that are listed. The list increases strictly. It is as long as the registry says. The registry says
that it is empty when it is. To ask changes nothing. A registration of the empty type is refused. So
is any other without a constructor. So is any other of a known type. Any other is taken, and adds
what it brings to what is found. -/
structure Settled (kind : String) (requests : List (Request C)) (r : Registry C) : Prop where
  once : (((empty kind).takenBy requests).map Prod.fst).Nodup
  lookup : ∀ type constructor, r.lookup type = some constructor ↔
    (type, constructor) ∈ (empty kind).takenBy requests
  first : ∀ type, r.lookup type = requests.findSome? (brings? type)
  contains : ∀ type, r.contains type = true ↔ ∃ constructor, r.lookup type = some constructor
  mem_types : ∀ type, type ∈ r.types ↔ r.contains type = true
  increasing : r.types.Pairwise (· < ·)
  size : r.size = r.types.length
  isEmpty : r.isEmpty = true ↔ r.size = 0
  ask : ∀ request, (∀ given, request ≠ .register given) → (r.call request).2 = r
  emptyType : ∀ given : Registration C, given.type = "" →
    r.call (.register given) = (.refused (kind ++ " registration has an empty type"), r)
  noConstructor : ∀ given : Registration C, given.type ≠ "" → given.constructor = none →
    r.call (.register given) =
      (.refused (kind ++ " registration " ++ given.type ++ " has no constructor"), r)
  duplicate : ∀ given : Registration C, given.type ≠ "" → given.constructor.isSome →
    given.type ∈ r.types → r.call (.register given) =
      (.refused (kind ++ " type " ++ given.type ++ " is already registered"), r)
  fresh : ∀ (given : Registration C) (constructor : C), given.type ≠ "" →
    given.constructor = some constructor → given.type ∉ r.types →
    (r.call (.register given)).1 = .taken ∧
      ∀ type, (r.call (.register given)).2.lookup type =
        if given.type = type then some constructor else r.lookup type

theorem contains_iff (r : Registry C) (type : String) :
    r.contains type = true ↔ ∃ constructor, r.lookup type = some constructor := by
  rw [contains, Option.isSome_iff_exists]

theorem mem_types_iff (r : Registry C) (type : String) : type ∈ r.types ↔ r.contains type = true := by
  rw [contains_iff]
  exact Table.mem_keys_iff

/-- A registry that was empty is settled after any requests. -/
theorem settled_run (kind : String) (requests : List (Request C)) :
    ((empty kind : Registry C).run requests).Settled kind requests := by
  have hknows := (knows_empty (C := C) kind).run requests
  have hkind : ((empty kind : Registry C).run requests).kind = kind := kind_run _ requests
  have hfirst := lookup_run (empty kind : Registry C) requests
  generalize (empty kind : Registry C).run requests = r at hknows hkind hfirst
  subst hkind
  exact {
    once := hknows.once
    lookup := hknows.lookup
    first := fun type => (hfirst type).trans Option.none_or
    contains := r.contains_iff
    mem_types := r.mem_types_iff
    increasing := hknows.sorted
    size := (List.length_map _).symm
    isEmpty := List.isEmpty_iff_length_eq_zero
    ask := fun request hask => by
      rcases r.call_cases request with ⟨-, hsame, -⟩ | ⟨type, constructor, hregister, -⟩
      · exact hsame
      · exact absurd hregister (hask _)
    emptyType := call_emptyType
    noConstructor := call_noConstructor
    duplicate := fun given htype h hknown => by
      obtain ⟨constructor, h⟩ := Option.isSome_iff_exists.1 h
      exact call_duplicate given htype h ((r.mem_types_iff _).1 hknown)
    fresh := fun given constructor htype h hnew => by
      rw [mem_types_iff] at hnew
      rw [call_fresh given htype h hnew]
      exact ⟨rfl, fun type => Table.find?_insert _ _ _ _⟩ }

end Registry

namespace Registries

variable {r : Registries}

/-! ## Two registries -/

/-- The request of a call to the registry of modules. -/
def Call.toModules? : Call → Option (Registry.Request ModuleConstructor)
  | .modules request => some request
  | .processors _ => none

/-- The request of a call to the registry of processors. -/
def Call.toProcessors? : Call → Option (Registry.Request ProcessorConstructor)
  | .modules _ => none
  | .processors request => some request

/-- The registry of modules sees the calls to it and no others. -/
theorem modules_run (r : Registries) (calls : List Call) :
    (r.run calls).modules = r.modules.run (calls.filterMap Call.toModules?) := by
  induction calls generalizing r with
  | nil => rfl
  | cons next rest ih =>
    cases next with
    | modules request => exact ih _
    | processors request => exact ih _

/-- The registry of processors sees the calls to it and no others. -/
theorem processors_run (r : Registries) (calls : List Call) :
    (r.run calls).processors = r.processors.run (calls.filterMap Call.toProcessors?) := by
  induction calls generalizing r with
  | nil => rfl
  | cons next rest ih =>
    cases next with
    | modules request => exact ih _
    | processors request => exact ih _

/-- A refusal leaves both registries as they are. -/
theorem call_of_refused {next : Call} {message : String}
    (h : (r.call next).1 = .modules (.refused message) ∨
      (r.call next).1 = .processors (.refused message)) : (r.call next).2 = r := by
  cases next with
  | modules request =>
    have hrefused : (r.modules.call request).1 = .refused message := by
      rcases h with h | h
      · exact Answer.modules.inj h
      · nomatch h
    exact congrArg (fun modules => { r with modules := modules })
      (Registry.call_of_refused hrefused)
  | processors request =>
    have hrefused : (r.processors.call request).1 = .refused message := by
      rcases h with h | h
      · nomatch h
      · exact Answer.processors.inj h
    exact congrArg (fun processors => { r with processors := processors })
      (Registry.call_of_refused hrefused)

/-- **Registries over whole runs.** After any calls, and whatever was refused among them, each registry
is settled by the requests to it; a refusal has changed neither registry, and a call to one of them
has never changed the other. -/
theorem settled_of_calls (calls : List Call) :
    (empty.run calls).modules.Settled "module" (calls.filterMap Call.toModules?) ∧
    (empty.run calls).processors.Settled "processor" (calls.filterMap Call.toProcessors?) ∧
    (∀ next message, ((empty.run calls).call next).1 = .modules (.refused message) ∨
        ((empty.run calls).call next).1 = .processors (.refused message) →
      ((empty.run calls).call next).2 = empty.run calls) ∧
    (∀ request, ((empty.run calls).call (.modules request)).2.processors =
      (empty.run calls).processors) ∧
    ∀ request, ((empty.run calls).call (.processors request)).2.modules =
      (empty.run calls).modules := by
  refine ⟨?_, ?_, fun next message h => call_of_refused h, fun _ => rfl, fun _ => rfl⟩
  · rw [modules_run]
    exact Registry.settled_run "module" _
  · rw [processors_run]
    exact Registry.settled_run "processor" _

/-- A step that has been registered once, and a module without a type. -/
theorem settled_of_calls_twice :
    let calls := [Call.processors (.register (Processor.fixed Processor.pass)),
      .modules (.register ⟨"", none⟩)]
    (empty.run calls).call (.processors (.register (Processor.fixed Processor.pass))) =
        (.processors (.refused "processor type test.pass is already registered"), empty.run calls) ∧
      (empty.run calls).modules.types = [] := by
  intro calls
  obtain ⟨hmodules, hprocessors, hrefused, -, -⟩ := settled_of_calls calls
  have hknown : "test.pass" ∈ (empty.run calls).processors.types := List.mem_singleton_self _
  have hcall := hprocessors.duplicate (Processor.fixed Processor.pass) (by decide) rfl hknown
  have hmessage : "processor" ++ " type " ++ (Processor.fixed Processor.pass).type ++
      " is already registered" = "processor type test.pass is already registered" := by decide
  have hanswer : ((empty.run calls).call
      (.processors (.register (Processor.fixed Processor.pass)))).1 =
      .processors (.refused "processor type test.pass is already registered") := by
    rw [call, hcall, hmessage]
  refine ⟨Prod.ext hanswer (hrefused _ _ (.inr hanswer)), ?_⟩
  exact List.eq_nil_of_length_eq_zero (hmodules.size.symm.trans (hmodules.isEmpty.1 rfl))

end Registries

end Switchboard
