import WorkerLint.Path

/-! What a computation does on its way to a value: notes for the log, complaints for the user, and
calls of the lint engine, in the order they happen. -/

namespace WorkerLint

inductive Topic
  | bundle
  | lint
  | engine
  | program
  deriving DecidableEq, Repr

def Topic.target : Topic → Text
  | .bundle => "importlint::merge".toList
  | .lint => "importlint::linter".toList
  | .engine => "importlint::engine".toList
  | .program => "importlint::commands".toList

/-- What an engine is asked to lint: a text, and the file it stands in if the engine should read
and report that file. -/
structure Request where
  text : Text
  file : Option Path
  deriving DecidableEq, Repr

inductive Event
  | note (topic : Topic) (message : Text)
  | complaint (message : Text)
  | call (request : Request)
  deriving DecidableEq, Repr

def Event.call? : Event → Option Request
  | .call request => some request
  | _ => none

def Event.complaint? : Event → Option Text
  | .complaint message => some message
  | _ => none

@[ext]
structure Traced (α : Type) where
  events : List Event
  value : α
  deriving Repr

namespace Traced

instance : Monad Traced where
  pure value := ⟨[], value⟩
  bind traced next :=
    let result := next traced.value
    ⟨traced.events ++ result.events, result.value⟩

def tell (event : Event) : Traced Unit :=
  ⟨[event], ()⟩

def note (topic : Topic) (message : Text) : Traced Unit :=
  tell (.note topic message)

def calls (traced : Traced α) : List Request :=
  traced.events.filterMap Event.call?

def complaints (traced : Traced α) : List Text :=
  traced.events.filterMap Event.complaint?

def Quiet (traced : Traced α) : Prop :=
  ∀ event ∈ traced.events, ∃ topic message, event = .note topic message

@[simp]
theorem value_pure (value : α) : (pure value : Traced α).value = value := rfl

@[simp]
theorem events_pure (value : α) : (pure value : Traced α).events = [] := rfl

@[simp]
theorem value_bind (traced : Traced α) (next : α → Traced β) :
    (traced >>= next).value = (next traced.value).value := rfl

@[simp]
theorem events_bind (traced : Traced α) (next : α → Traced β) :
    (traced >>= next).events = traced.events ++ (next traced.value).events := rfl

@[simp]
theorem value_map (f : α → β) (traced : Traced α) : (f <$> traced).value = f traced.value := rfl

@[simp]
theorem events_note (topic : Topic) (message : Text) :
    (note topic message).events = [.note topic message] := rfl

@[simp]
theorem calls_note (topic : Topic) (message : Text) : (note topic message).calls = [] := rfl

theorem quiet_pure (value : α) : (pure value : Traced α).Quiet := by
  intro event member
  cases member

theorem quiet_note (topic : Topic) (message : Text) : (note topic message).Quiet := by
  intro event member
  exact ⟨topic, message, List.mem_singleton.mp member⟩

theorem Quiet.bind {traced : Traced α} {next : α → Traced β} (first : traced.Quiet)
    (second : (next traced.value).Quiet) : (traced >>= next).Quiet := by
  intro event member
  rcases List.mem_append.mp member with member | member
  · exact first event member
  · exact second event member

theorem Quiet.calls {traced : Traced α} (quiet : traced.Quiet) : traced.calls = [] := by
  apply List.filterMap_eq_nil_iff.mpr
  intro event member
  obtain ⟨topic, message, rfl⟩ := quiet event member
  rfl

theorem Quiet.complaints {traced : Traced α} (quiet : traced.Quiet) : traced.complaints = [] := by
  apply List.filterMap_eq_nil_iff.mpr
  intro event member
  obtain ⟨topic, message, rfl⟩ := quiet event member
  rfl

section WithState

variable {σ : Type}

@[simp]
theorem get_bind (next : σ → StateT σ Traced α) (state : σ) :
    (get >>= next) state = next state state := rfl

@[simp]
theorem value_bindState (step : StateT σ Traced α) (next : α → StateT σ Traced β) (state : σ) :
    ((step >>= next) state).value =
      (next (step state).value.1 (step state).value.2).value := rfl

@[simp]
theorem value_pureState (value : α) (state : σ) :
    ((pure value : StateT σ Traced α) state).value = (value, state) := rfl

@[simp]
theorem events_bindState (step : StateT σ Traced α) (next : α → StateT σ Traced β) (state : σ) :
    ((step >>= next) state).events =
      (step state).events ++ (next (step state).value.1 (step state).value.2).events := rfl

@[simp]
theorem events_pureState (value : α) (state : σ) :
    ((pure value : StateT σ Traced α) state).events = [] := rfl

@[simp]
theorem calls_bindState (step : StateT σ Traced α) (next : α → StateT σ Traced β) (state : σ) :
    ((step >>= next) state).calls =
      (step state).calls ++ (next (step state).value.1 (step state).value.2).calls :=
  List.filterMap_append

@[simp]
theorem complaints_bindState (step : StateT σ Traced α) (next : α → StateT σ Traced β)
    (state : σ) :
    ((step >>= next) state).complaints =
      (step state).complaints ++
        (next (step state).value.1 (step state).value.2).complaints :=
  List.filterMap_append

@[simp]
theorem complaints_pureState (value : α) (state : σ) :
    ((pure value : StateT σ Traced α) state).complaints = [] := rfl

@[simp]
theorem value_lift (traced : Traced α) (state : σ) :
    ((liftM traced : StateT σ Traced α) state).value = (traced.value, state) := rfl

@[simp]
theorem events_lift (traced : Traced α) (state : σ) :
    ((liftM traced : StateT σ Traced α) state).events = traced.events :=
  List.append_nil traced.events

@[simp]
theorem calls_lift (traced : Traced α) (state : σ) :
    ((liftM traced : StateT σ Traced α) state).calls = traced.calls :=
  congrArg (List.filterMap Event.call?) (List.append_nil traced.events)

@[simp]
theorem complaints_lift (traced : Traced α) (state : σ) :
    ((liftM traced : StateT σ Traced α) state).complaints = traced.complaints :=
  congrArg (List.filterMap Event.complaint?) (events_lift traced state)

end WithState

theorem map_id (traced : Traced α) : id <$> traced = traced :=
  Traced.ext (List.append_nil _) rfl

theorem bind_assoc (traced : Traced α) (next : α → Traced β) (last : β → Traced γ) :
    traced >>= next >>= last = traced >>= fun value => next value >>= last := by
  apply Traced.ext
  · simp
  · rfl

instance : LawfulMonad Traced :=
  LawfulMonad.mk' Traced map_id (fun _ _ => rfl) bind_assoc

end Traced

end WorkerLint
