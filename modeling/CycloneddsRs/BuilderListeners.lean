import CycloneddsRs.AbsenceRuns
import CycloneddsRs.AsyncRead
import CycloneddsRs.ListenerChains
import Mathlib.Data.List.Destutter

/-!
ReaderBuilder and WriterBuilder: which listener an entity gets from any sequence of options, and
what the events that reach it do to the state of the user and to that of the crate. The
user's callbacks act on the user's state, the crate's on the shared one.
-/

namespace CycloneddsRs.BuilderListeners

open AbsenceRuns AbsenceWatch AsyncRead DdsError ListenerChains Serdes

variable {Status : Event → Type} {User World Qos : Type}

/-! The callbacks of the user -/

/-- A callback that acts on a part of the world. -/
def liftClosure (within : (User → User) → World → World) {event : Event}
    (callback : Closure Status User event) : Closure Status World event :=
  fun args => within (callback args)

def liftCall (within : (User → User) → World → World) : Call Status User → Call Status World
  | .on event callback => .on event (liftClosure within callback)
  | .chain event callback => .chain event (liftClosure within callback)

def builderOf (calls : List (Call Status World)) : DdsListenerBuilder Status World :=
  calls.foldl Call.apply .new

/-- The callbacks of such calls for an event, one after the other. -/
def runCalls (calls : List (Call Status World)) (event : Event) (args : Args Status event)
    (world : World) : World :=
  (invoked event calls.reverse).foldl (fun world callback => callback args world) world

theorem invoked_lift (within : (User → User) → World → World) (event : Event)
    (calls : List (Call Status User)) :
    invoked event (calls.map (liftCall within)) =
      (invoked event calls).map (liftClosure within) := by
  induction calls with
  | nil => rfl
  | cons call older ih =>
      cases call with
      | on other callback | chain other callback =>
          by_cases same : other = event
          · subst same
            simp [liftCall, invoked, ih]
          · simp [liftCall, invoked, same, ih]

/-- What a builder that holds such calls becomes. -/
theorem build_fires (builder : DdsListenerBuilder Status World) (calls : List (Call Status World))
    (holds : Holds builder calls) :
    ∃ listener, builder.build true = .ok listener ∧ ∀ event args world,
      listener.fire event args world =
        (invoked event calls).foldl (fun world callback => callback args world) world := by
  obtain ⟨callbacks, present, fields⟩ := holds
  rw [DdsListenerBuilder.build, DdsListener.hook, present]
  refine ⟨_, rfl, fun event args world => ?_⟩
  have slot := registerCallbacks_slot event callbacks
  rw [fields event] at slot
  rw [← nested_calls, DdsListener.fire, Option.bind_some, slot]
  cases held : nested (invoked event calls) with
  | none => rfl
  | some closure => simp only [Option.isSome_some, if_true, callClosure, fields event, held]

theorem builderOf_holds (calls : List (Call Status World)) :
    Holds (builderOf calls) calls.reverse := by
  have holds := calls_hold calls [] .new holds_new
  rwa [List.append_nil] at holds

/-- The part that the user's callbacks act on. -/
structure Part (User World : Type) where
  within : (User → User) → World → World
  within_id : ∀ world, within id world = world
  within_comp : ∀ first second world,
    within second (within first world) = within (second ∘ first) world

theorem runCalls_lift (part : Part User World) (calls : List (Call Status User)) (event : Event)
    (args : Args Status event) (world : World) :
    runCalls (calls.map (liftCall part.within)) event args world =
      part.within (runCalls calls event args) world := by
  rw [runCalls, ← List.map_reverse, invoked_lift]
  have folded : ∀ (callbacks : List (Closure Status User event)) (world : World),
      (callbacks.map (liftClosure part.within)).foldl (fun world callback => callback args world)
          world =
        part.within (fun user => callbacks.foldl (fun user callback => callback args user) user)
          world := by
    intro callbacks
    induction callbacks with
    | nil => exact fun world => (part.within_id world).symm
    | cons callback rest ih =>
        intro world
        rw [List.map_cons, List.foldl_cons, ih]
        exact part.within_comp (callback args) _ world
  exact folded _ world

/-! An option that is given again replaces the one before -/

def latest {Option' Field : Type} (pick : Option' → Option Field) : List Option' → Option Field
  | [] => none
  | option :: rest => (latest pick rest).or (pick option)

/-- An event that comes to the listener of an entity, at the instant of its callback. -/
structure Fired (Status : Event → Type) where
  event : Event
  args : Args Status event
  now : Nat

/-- A listener that is built and hooked on the spot. -/
def hooked (calls : List (Call Status World)) : DdsListener Status World :=
  match (builderOf calls).build true with
  | .ok listener => listener
  | .error _ => .new

theorem hooked_fires (calls : List (Call Status World)) (event : Event)
    (args : Args Status event) (world : World) :
    (hooked calls).fire event args world = runCalls calls event args world := by
  obtain ⟨listener, built, fires⟩ := build_fires _ _ (builderOf_holds calls)
  rw [hooked, built]
  exact fires event args world

/-- A watch that a builder made, or none, after the counts that reached it. -/
theorem given_absent (given : Option Nat) (creation now : Nat) (events : List WatchEvent) :
    ((given.map fun timeout => MatchWatch.newAt timeout creation).map
        ((if given.isSome then events else []).foldl AbsenceRuns.apply)).any
          (fun watch => watch.isAbsentAt now) = true ↔
      ∃ timeout start since, given = some timeout ∧ ZeroRun creation events start since ∧
        timeout ≤ now - start := by
  cases given with
  | none => simp
  | some timeout =>
      simp only [Option.isSome_some, ↓reduceIte, Option.map_some, Option.any_some,
        Option.some.injEq]
      refine (isAbsentAt_iff_zeroRun timeout creation now events).trans ?_
      constructor
      · rintro ⟨start, since, run, elapsed⟩
        exact ⟨timeout, start, since, rfl, run, elapsed⟩
      · rintro ⟨timeout, start, since, rfl, run, elapsed⟩
        exact ⟨start, since, run, elapsed⟩

/-! ## The reader -/

structure ReaderState (User : Type) where
  user : User
  /-- What `Instant::now` answers. -/
  now : Nat
  shared : ReaderShared
  wakes : Nat
  reschedules : Nat

def ReaderState.wake (state : ReaderState User) : ReaderState User :=
  { state with shared := { state.shared with waker := none }, wakes := state.wakes + 1 }

def readerPart : Part User (ReaderState User) :=
  { within := fun change state => { state with user := change state.user }
    within_id := fun _ => rfl
    within_comp := fun _ _ _ => rfl }

inductive ReaderType where
  | sync
  | async (shared : ReaderShared)

structure DdsReader (Status : Event → Type) (User Qos : Type) where
  entity : Int
  qos : Option Qos
  listener : Option (DdsListener Status (ReaderState User))
  readerType : ReaderType

structure ReaderBuilder (Status : Event → Type) (User Qos : Type) where
  maybeQos : Option Qos
  maybeListener : Option (DdsListener Status (ReaderState User))
  maybeListenerBuilder : Option (DdsListenerBuilder Status (ReaderState User))
  isAsync : Bool
  absenceTimeout : Option Nat

def ReaderBuilder.new : ReaderBuilder Status User Qos :=
  { maybeQos := none
    maybeListener := none
    maybeListenerBuilder := none
    isAsync := false
    absenceTimeout := none }

/-- A call on the builder. A listener and a listener builder come with the user's calls that
they were made with. -/
inductive ReaderOption (Status : Event → Type) (User Qos : Type) where
  | asAsync
  | stopWhenNoWriter (timeout : Nat)
  | withQos (qos : Qos)
  | withListener (calls : List (Call Status User))
  | withListenerBuilder (calls : List (Call Status User))

def ReaderOption.apply (builder : ReaderBuilder Status User Qos) :
    ReaderOption Status User Qos → ReaderBuilder Status User Qos
  | .asAsync => { builder with isAsync := true }
  | .stopWhenNoWriter timeout =>
      { builder with isAsync := true, absenceTimeout := some timeout }
  | .withQos qos => { builder with maybeQos := some qos }
  | .withListener calls =>
      { builder with maybeListener := some (hooked (calls.map (liftCall readerPart.within))) }
  | .withListenerBuilder calls =>
      { builder with
        maybeListenerBuilder := some (builderOf (calls.map (liftCall readerPart.within))) }

section Reader

variable (currentCount : Status .subscriptionMatched → Nat)

/-! The three callbacks of `data_reader_listener` -/

def wakeOnData : Closure Status (ReaderState User) .dataAvailable :=
  fun _ state => state.wake

def storeDeadline : Closure Status (ReaderState User) .requestedDeadlineMissed :=
  fun _ state =>
    let shared := { state.shared with pendingError := some .requestedDeadLineMissed }
    { state with shared := shared }.wake

def updateWatch : Closure Status (ReaderState User) .subscriptionMatched :=
  fun args state =>
    let watch := state.shared.watch.map fun watch => watch.updateAt (currentCount args.2) state.now
    { state with
      shared := { state.shared with watch := watch }
      reschedules := state.reschedules + 1 }

def dataReaderListener (created : Bool)
    (listenerBuilder : DdsListenerBuilder Status (ReaderState User)) (watch : Option MatchWatch) :
    Panics (DdsListener Status (ReaderState User) × ReaderType) := do
  let shared := ReaderShared.new watch
  let hasWatch := shared.watch.isSome
  let listenerBuilder :=
    (listenerBuilder.chainDataAvailable wakeOnData).chainRequestedDeadlineMissed storeDeadline
  let listenerBuilder :=
    if hasWatch then listenerBuilder.chainSubscriptionMatched (updateWatch currentCount)
    else listenerBuilder
  let listener ← listenerBuilder.build created
  return (listener, .async shared)

def createSyncOrAsync (handle : Int) (maybeQos : Option Qos)
    (maybeListener : Option (DdsListener Status (ReaderState User))) (readerType : ReaderType) :
    Except DDSError (DdsReader Status User Qos) :=
  if 0 < handle then
    .ok { entity := handle, qos := maybeQos, listener := maybeListener, readerType := readerType }
  else .error (.ofReturn handle)

def createAsyncWithWatch (created : Bool) (handle : Int) (now : Nat) (maybeQos : Option Qos)
    (listenerBuilder : DdsListenerBuilder Status (ReaderState User))
    (absenceTimeout : Option Nat) : Panics (Except DDSError (DdsReader Status User Qos)) := do
  let watch := absenceTimeout.map fun timeout => MatchWatch.newAt timeout now
  let (listener, waker) ← dataReaderListener currentCount created listenerBuilder watch
  return createSyncOrAsync handle maybeQos (some listener) waker

/-- `handle` is what `dds_create_reader` answers, `created` whether C has memory for a
listener. -/
def ReaderBuilder.create (created : Bool) (handle : Int) (now : Nat)
    (builder : ReaderBuilder Status User Qos) :
    Panics (Except DDSError (DdsReader Status User Qos)) :=
  if builder.isAsync then
    createAsyncWithWatch currentCount created handle now builder.maybeQos
      (builder.maybeListenerBuilder.getD .new) builder.absenceTimeout
  else
    match builder.maybeListener, builder.maybeListenerBuilder with
    | some listener, _ => .ok (createSyncOrAsync handle builder.maybeQos (some listener) .sync)
    | none, some listenerBuilder => do
        let listener ← listenerBuilder.build created
        return createSyncOrAsync handle builder.maybeQos (some listener) .sync
    | none, none => .ok (createSyncOrAsync handle builder.maybeQos none .sync)

/-- The state at the creation, with what the reader shares with its callbacks. -/
def DdsReader.start (reader : DdsReader Status User Qos) (user : User) (now : Nat) :
    ReaderState User :=
  { user := user
    now := now
    shared := match reader.readerType with
      | .async shared => shared
      | .sync => .new none
    wakes := 0
    reschedules := 0 }

def DdsReader.deliver (reader : DdsReader Status User Qos) (state : ReaderState User)
    (fired : Fired Status) : ReaderState User :=
  let state := { state with now := fired.now }
  match reader.listener with
  | some listener => listener.fire fired.event fired.args state
  | none => state

/-- `is_writer_absent`, with what is behind the `Arc` by now. -/
def DdsReader.isWriterAbsent (reader : DdsReader Status User Qos) (state : ReaderState User)
    (now : Nat) : Bool :=
  match reader.readerType with
  | .async _ => state.shared.watch.any fun watch => watch.isAbsentAt now
  | .sync => false

/-! What the options come to -/

def ReaderOption.isAsync : ReaderOption Status User Qos → Bool
  | .asAsync | .stopWhenNoWriter _ => true
  | _ => false

def ReaderOption.timeout : ReaderOption Status User Qos → Option Nat
  | .stopWhenNoWriter timeout => some timeout
  | _ => none

def ReaderOption.qos : ReaderOption Status User Qos → Option Qos
  | .withQos qos => some qos
  | _ => none

def ReaderOption.listenerCalls : ReaderOption Status User Qos → Option (List (Call Status User))
  | .withListener calls => some calls
  | _ => none

def ReaderOption.builderCalls : ReaderOption Status User Qos → Option (List (Call Status User))
  | .withListenerBuilder calls => some calls
  | _ => none

/-- The calls of the user that the listener of the reader is made of. -/
def readerCalls (options : List (ReaderOption Status User Qos)) : List (Call Status User) :=
  if options.any ReaderOption.isAsync then (latest ReaderOption.builderCalls options).getD []
  else
    ((latest ReaderOption.listenerCalls options).or
      (latest ReaderOption.builderCalls options)).getD []

theorem readerOptions_fields (options : List (ReaderOption Status User Qos))
    (builder : ReaderBuilder Status User Qos) :
    let final := options.foldl ReaderOption.apply builder
    final.isAsync = (options.any ReaderOption.isAsync || builder.isAsync) ∧
      final.absenceTimeout = (latest ReaderOption.timeout options).or builder.absenceTimeout ∧
      final.maybeQos = (latest ReaderOption.qos options).or builder.maybeQos ∧
      final.maybeListener = ((latest ReaderOption.listenerCalls options).map fun calls =>
        hooked (calls.map (liftCall readerPart.within))).or builder.maybeListener ∧
      final.maybeListenerBuilder = ((latest ReaderOption.builderCalls options).map fun calls =>
        builderOf (calls.map (liftCall readerPart.within))).or builder.maybeListenerBuilder := by
  induction options generalizing builder with
  | nil => exact ⟨rfl, rfl, rfl, rfl, rfl⟩
  | cons option rest ih =>
      have later := ih (option.apply builder)
      simp only [List.foldl_cons, List.any_cons, latest] at later ⊢
      obtain ⟨isAsync, timeout, qos, listener, listenerBuilder⟩ := later
      rw [isAsync, timeout, qos, listener, listenerBuilder]
      cases option <;>
        simp [ReaderOption.apply, ReaderOption.isAsync, ReaderOption.timeout, ReaderOption.qos,
          ReaderOption.listenerCalls, ReaderOption.builderCalls]

/-- What an event does to the part of the crate. -/
def crateEffect (watching : Bool) : (event : Event) → Args Status event → ReaderState User →
    ReaderState User
  | .dataAvailable, args, state => wakeOnData args state
  | .requestedDeadlineMissed, args, state => storeDeadline args state
  | .subscriptionMatched, args, state =>
      if watching then updateWatch currentCount args state else state
  | _, _, state => state

theorem dataReaderListener_fires (calls : List (Call Status (ReaderState User)))
    (watch : Option MatchWatch) :
    ∃ listener, dataReaderListener currentCount true (builderOf calls) watch =
        .ok (listener, .async (.new watch)) ∧
      ∀ event args state, listener.fire event args state =
        runCalls calls event args (crateEffect currentCount watch.isSome event args state) := by
  have chained := chainCallback_holds .requestedDeadlineMissed storeDeadline _ _
    (chainCallback_holds .dataAvailable wakeOnData _ _ (builderOf_holds calls))
  cases watch with
  | none =>
      obtain ⟨listener, built, fires⟩ := build_fires _ _ chained
      refine ⟨listener, ?_, fun event args state => ?_⟩
      · have same : dataReaderListener currentCount true (builderOf calls) none =
            (do let listener ← DdsListenerBuilder.build true
                  (chainCallback (field .requestedDeadlineMissed)
                    (chainCallback (field .dataAvailable) (builderOf calls) wakeOnData)
                      storeDeadline)
                return (listener, .async (.new none))) := rfl
        rw [same, built]
        rfl
      · rw [fires]
        cases event <;> simp [invoked, runCalls, crateEffect]
  | some watch =>
      obtain ⟨listener, built, fires⟩ := build_fires _ _
        (chainCallback_holds .subscriptionMatched (updateWatch currentCount) _ _ chained)
      refine ⟨listener, ?_, fun event args state => ?_⟩
      · have same : dataReaderListener currentCount true (builderOf calls) (some watch) =
            (do let listener ← DdsListenerBuilder.build true
                  (chainCallback (field .subscriptionMatched)
                    (chainCallback (field .requestedDeadlineMissed)
                      (chainCallback (field .dataAvailable) (builderOf calls) wakeOnData)
                        storeDeadline) (updateWatch currentCount))
                return (listener, .async (.new (some watch)))) := rfl
        rw [same, built]
        rfl
      · rw [fires]
        cases event <;> simp [invoked, runCalls, crateEffect]

theorem reader_created (options : List (ReaderOption Status User Qos)) (handle : Int)
    (positive : 0 < handle) (creation : Nat) :
    ∃ reader : DdsReader Status User Qos,
      (options.foldl ReaderOption.apply .new).create currentCount true handle creation =
          .ok (.ok reader) ∧
        reader.qos = latest ReaderOption.qos options ∧
        reader.readerType = (if options.any ReaderOption.isAsync then
          .async (.new ((latest ReaderOption.timeout options).map fun timeout =>
            .newAt timeout creation)) else .sync) ∧
        ∀ state fired, reader.deliver state fired =
          runCalls ((readerCalls options).map (liftCall readerPart.within)) fired.event fired.args
            (if options.any ReaderOption.isAsync then
              crateEffect currentCount (latest ReaderOption.timeout options).isSome fired.event
                fired.args { state with now := fired.now }
            else { state with now := fired.now }) := by
  obtain ⟨isAsync, timeout, qos, listener, listenerBuilder⟩ := readerOptions_fields options
    (.new : ReaderBuilder Status User Qos)
  have isAsync := isAsync.trans (Bool.or_false _)
  have timeout := timeout.trans Option.or_none
  have qos := qos.trans Option.or_none
  have listener := listener.trans Option.or_none
  have listenerBuilder := listenerBuilder.trans Option.or_none
  have opened : ∀ listener readerType, (createSyncOrAsync handle
      (latest ReaderOption.qos options) listener readerType :
        Except DDSError (DdsReader Status User Qos)) =
      .ok { entity := handle, qos := latest ReaderOption.qos options, listener := listener,
            readerType := readerType } := fun _ _ => if_pos positive
  rw [ReaderBuilder.create, isAsync, timeout, qos, listener, listenerBuilder]
  cases async : options.any ReaderOption.isAsync with
  | true =>
      have given : ((latest ReaderOption.builderCalls options).map fun calls =>
          builderOf (calls.map (liftCall readerPart.within))).getD .new =
            builderOf ((readerCalls options).map (liftCall readerPart.within)) := by
        rw [readerCalls, if_pos async]
        cases latest ReaderOption.builderCalls options <;> rfl
      obtain ⟨built, made, fires⟩ := dataReaderListener_fires currentCount
        ((readerCalls options).map (liftCall readerPart.within))
        ((latest ReaderOption.timeout options).map fun timeout => .newAt timeout creation)
      rw [if_pos rfl, given, createAsyncWithWatch, made]
      refine ⟨_, congrArg Except.ok (opened _ _), rfl, rfl, fun state fired => ?_⟩
      refine (fires _ _ _).trans ?_
      rw [Option.isSome_map]
      rfl
  | false =>
      have chosen : readerCalls options = ((latest ReaderOption.listenerCalls options).or
          (latest ReaderOption.builderCalls options)).getD [] := by
        rw [readerCalls, async]
        rfl
      rw [if_neg Bool.false_ne_true, chosen]
      cases hooks : latest ReaderOption.listenerCalls options with
      | some calls =>
          refine ⟨_, congrArg Except.ok (opened _ _), rfl, rfl, fun state fired => ?_⟩
          exact hooked_fires _ _ _ _
      | none =>
          cases builders : latest ReaderOption.builderCalls options with
          | some calls =>
              obtain ⟨built, made, fires⟩ := build_fires _ _
                (builderOf_holds (calls.map (liftCall readerPart.within)))
              simp only [Option.map_none, Option.map_some, made]
              refine ⟨_, congrArg Except.ok (opened _ _), rfl, rfl, fun state fired => ?_⟩
              exact fires _ _ _
          | none =>
              refine ⟨_, congrArg Except.ok (opened _ _), rfl, rfl, fun state fired => ?_⟩
              rfl

/-! A history of events -/

def Fired.matched (fired : Fired Status) : Option WatchEvent :=
  match fired with
  | ⟨.subscriptionMatched, args, now⟩ => some (.update (currentCount args.2) now)
  | _ => none

def Fired.wakes (fired : Fired Status) : Bool :=
  fired.event = .dataAvailable ∨ fired.event = .requestedDeadlineMissed

def Fired.missed (fired : Fired Status) : Bool := fired.event = .requestedDeadlineMissed

/-- What an event leaves of the crate's part, whatever the callbacks of the user do. -/
structure CrateStep (async watching : Bool) (fired : Fired Status)
    (before after : ReaderState User) : Prop where
  watch : after.shared.watch = before.shared.watch.map fun watch =>
    (if watching then (fired.matched currentCount).toList else []).foldl AbsenceRuns.apply watch
  pendingError : after.shared.pendingError =
    if async && fired.missed then some .requestedDeadLineMissed else before.shared.pendingError
  wakes : after.wakes = before.wakes + if async && fired.wakes then 1 else 0

theorem crateEffect_step (watching : Bool) (fired : Fired Status) (state : ReaderState User) :
    (crateEffect currentCount watching fired.event fired.args
        { state with now := fired.now }).user = state.user ∧
      CrateStep currentCount true watching fired state
        (crateEffect currentCount watching fired.event fired.args
          { state with now := fired.now }) := by
  obtain ⟨event, args, now⟩ := fired
  cases event with
  | subscriptionMatched =>
      cases watching with
      | true => exact ⟨rfl, rfl, rfl, rfl⟩
      | false => exact ⟨rfl, by simp [crateEffect], rfl, rfl⟩
  | _ =>
      refine ⟨rfl, ⟨?_, rfl, rfl⟩⟩
      cases watch : state.shared.watch <;> cases watching <;>
        simp [crateEffect, wakeOnData, storeDeadline, ReaderState.wake, watch, Fired.matched]

/-- A reader whose events go through the crate's effect first and then to such calls of
the user. -/
def Delivers (async watching : Bool) (calls : List (Call Status User))
    (reader : DdsReader Status User Qos) : Prop :=
  ∀ state fired, reader.deliver state fired =
    runCalls (calls.map (liftCall readerPart.within)) fired.event fired.args
      (if async then crateEffect currentCount watching fired.event fired.args
        { state with now := fired.now }
      else { state with now := fired.now })

theorem deliver_step (async watching : Bool) (calls : List (Call Status User))
    (reader : DdsReader Status User Qos)
    (delivers : Delivers currentCount async watching calls reader)
    (waits : watching = true → async = true) (state : ReaderState User) (fired : Fired Status) :
    (reader.deliver state fired).user = runCalls calls fired.event fired.args state.user ∧
      CrateStep currentCount async watching fired state (reader.deliver state fired) := by
  rw [delivers, runCalls_lift readerPart]
  cases async with
  | true =>
      obtain ⟨user, step⟩ := crateEffect_step currentCount watching fired state
      refine ⟨?_, step.watch, step.pendingError, step.wakes⟩
      exact congrArg (runCalls calls fired.event fired.args) user
  | false =>
      have idle : watching = false := by
        cases watching with
        | false => rfl
        | true => exact (waits rfl).symm
      subst idle
      refine ⟨rfl, ?_, rfl, rfl⟩
      cases watch : state.shared.watch with
      | none => exact watch
      | some watch' => exact watch

theorem deliver_run (async watching : Bool) (calls : List (Call Status User))
    (reader : DdsReader Status User Qos)
    (delivers : Delivers currentCount async watching calls reader)
    (waits : watching = true → async = true) (history : List (Fired Status))
    (state : ReaderState User) :
    (history.foldl reader.deliver state).user =
        history.foldl (fun user fired => runCalls calls fired.event fired.args user) state.user ∧
      (history.foldl reader.deliver state).shared.watch = state.shared.watch.map (fun watch =>
        (if watching then history.filterMap (Fired.matched currentCount) else []).foldl
          AbsenceRuns.apply watch) ∧
      (history.foldl reader.deliver state).shared.pendingError =
        (if async && history.any Fired.missed then some .requestedDeadLineMissed
        else state.shared.pendingError) ∧
      (history.foldl reader.deliver state).wakes =
        state.wakes + if async then history.countP Fired.wakes else 0 := by
  induction history generalizing state with
  | nil =>
      refine ⟨rfl, ?_, by simp, by simp⟩
      cases watching <;> exact Option.map_id'.symm
  | cons fired rest ih =>
      obtain ⟨user, step⟩ :=
        deliver_step currentCount async watching calls reader delivers waits state fired
      obtain ⟨users, watch, pendingError, wakes⟩ := ih (reader.deliver state fired)
      rw [List.foldl_cons, List.foldl_cons, users, watch, pendingError, wakes, user, step.watch,
        step.pendingError, step.wakes]
      refine ⟨rfl, ?_, ?_, ?_⟩
      · rw [Option.map_map]
        cases watching with
        | false => rfl
        | true =>
            congr 1
            funext watch
            simp only [Function.comp, ↓reduceIte, List.filterMap_cons]
            cases fired.matched currentCount <;> rfl
      · rw [List.any_cons]
        cases async <;> cases fired.missed <;> cases rest.any Fired.missed <;> rfl
      · cases async <;> cases woken : fired.wakes <;> simp [woken]
        omega

theorem latest_timeout_async (options : List (ReaderOption Status User Qos))
    (watches : (latest ReaderOption.timeout options).isSome = true) :
    options.any ReaderOption.isAsync = true := by
  induction options with
  | nil => cases watches
  | cons option rest ih =>
      rw [List.any_cons, Bool.or_eq_true]
      rw [latest, Option.isSome_or, Bool.or_eq_true] at watches
      rcases watches with later | here
      · exact .inr (ih later)
      · left
        cases option with
        | stopWhenNoWriter timeout => rfl
        | asAsync | withQos | withListener | withListenerBuilder => cases here

/-- Whatever options came in whatever order, the callbacks of the user see every event exactly
as if their listener were alone, and the reader keeps its own account of the same events: it
finds the writers absent by the counts that came and the timeout given last, and each
sample and each missed deadline wakes a poll. -/
theorem reader_follows (options : List (ReaderOption Status User Qos)) (handle : Int)
    (positive : 0 < handle) (creation : Nat) (user : User) (history : List (Fired Status)) :
    ∃ reader : DdsReader Status User Qos,
      (options.foldl ReaderOption.apply .new).create currentCount true handle creation =
          .ok (.ok reader) ∧
        (history.foldl reader.deliver (reader.start user creation)).user =
          history.foldl (fun user fired =>
            runCalls (readerCalls options) fired.event fired.args user) user ∧
        (∀ now, reader.isWriterAbsent (history.foldl reader.deliver (reader.start user creation))
            now = true ↔
          ∃ timeout start since, latest ReaderOption.timeout options = some timeout ∧
            ZeroRun creation (history.filterMap (Fired.matched currentCount)) start since ∧
            timeout ≤ now - start) ∧
        ((history.foldl reader.deliver (reader.start user creation)).shared.pendingError ≠ none ↔
          options.any ReaderOption.isAsync = true ∧ ∃ fired ∈ history, fired.missed = true) ∧
        (history.foldl reader.deliver (reader.start user creation)).wakes =
          if options.any ReaderOption.isAsync then history.countP Fired.wakes else 0 := by
  obtain ⟨reader, made, -, readerType, delivers⟩ :=
    reader_created currentCount options handle positive creation
  obtain ⟨users, watch, pendingError, wakes⟩ := deliver_run currentCount
    (options.any ReaderOption.isAsync) (latest ReaderOption.timeout options).isSome
    (readerCalls options) reader delivers (latest_timeout_async options) history
    (reader.start user creation)
  refine ⟨reader, made, users, fun now => ?_, ?_, ?_⟩
  · rw [← given_absent, DdsReader.isWriterAbsent, readerType, watch, DdsReader.start, readerType]
    cases timeout : latest ReaderOption.timeout options with
    | none => cases options.any ReaderOption.isAsync <;> simp [ReaderShared.new]
    | some timeout' =>
        have async := latest_timeout_async options (by rw [timeout]; rfl)
        rw [async]
        rfl
  · rw [pendingError, DdsReader.start, readerType]
    cases options.any ReaderOption.isAsync <;> simp [ReaderShared.new]
  · rw [wakes]
    exact Nat.zero_add _

/-- A reader whose user counts samples finds its one writer gone ten units after the count
fell to zero. -/
theorem reader_counts_samples :
    ∃ reader : DdsReader (fun _ => Nat) Nat Unit,
      reader.isWriterAbsent
          ([⟨.subscriptionMatched, (7, (1 : Nat)), 3⟩, ⟨.dataAvailable, (7 : Int32), 4⟩,
            ⟨.subscriptionMatched, (7, (0 : Nat)), 20⟩].foldl reader.deliver (reader.start 0 0))
          30 = true ∧
        ([⟨.subscriptionMatched, (7, (1 : Nat)), 3⟩, ⟨.dataAvailable, (7 : Int32), 4⟩,
          ⟨.subscriptionMatched, (7, (0 : Nat)), 20⟩].foldl reader.deliver
            (reader.start 0 0)).user = 1 := by
  obtain ⟨reader, -, user, absent, -⟩ := @reader_follows (fun _ => Nat) Nat Unit id
    [.withListenerBuilder [.on .dataAvailable fun _ samples => samples + 1], .asAsync,
      .stopWhenNoWriter 10] 5 (by decide) 0 0
    [⟨.subscriptionMatched, (7, (1 : Nat)), 3⟩, ⟨.dataAvailable, (7 : Int32), 4⟩,
      ⟨.subscriptionMatched, (7, (0 : Nat)), 20⟩]
  refine ⟨reader, (absent 30).mpr ⟨10, 20, [], rfl, ?_, by decide⟩, user.trans rfl⟩
  exact .afterMatch [] [] [] 1 3 20 (by decide) (by simp) (by simp [Unmatched])

end Reader

/-! ## The writer -/

/-- What `is_reader_absent` writes to the log. -/
inductive WriterLog where
  | consideredAbsent (topic : String) (timeout : Nat)
  | recovered (topic : String)
  deriving DecidableEq

/-- The struct `AbsenceWatch` of the writer. -/
structure WriterWatch where
  watch : MatchWatch
  topicName : String
  lastAbsent : Bool

structure WriterState (User : Type) where
  user : User
  /-- What `Instant::now` answers. -/
  now : Nat
  absenceWatch : Option WriterWatch
  logs : List WriterLog

def writerPart : Part User (WriterState User) :=
  { within := fun change state => { state with user := change state.user }
    within_id := fun _ => rfl
    within_comp := fun _ _ _ => rfl }

structure DdsWriter (Status : Event → Type) (User Qos : Type) where
  entity : Int
  qos : Option Qos
  listener : Option (DdsListener Status (WriterState User))
  absenceWatch : Option WriterWatch

structure WriterBuilder (Status : Event → Type) (User Qos : Type) where
  maybeQos : Option Qos
  maybeListener : Option (DdsListener Status (WriterState User))
  maybeListenerBuilder : Option (DdsListenerBuilder Status (WriterState User))
  watchTimeout : Option Nat

def WriterBuilder.new : WriterBuilder Status User Qos :=
  { maybeQos := none
    maybeListener := none
    maybeListenerBuilder := none
    watchTimeout := none }

inductive WriterOption (Status : Event → Type) (User Qos : Type) where
  | withQos (qos : Qos)
  | watchReaderAbsence (timeout : Nat)
  | withListener (calls : List (Call Status User))
  | withListenerBuilder (calls : List (Call Status User))

def WriterOption.apply (builder : WriterBuilder Status User Qos) :
    WriterOption Status User Qos → WriterBuilder Status User Qos
  | .withQos qos => { builder with maybeQos := some qos }
  | .watchReaderAbsence timeout => { builder with watchTimeout := some timeout }
  | .withListener calls =>
      { builder with maybeListener := some (hooked (calls.map (liftCall writerPart.within))) }
  | .withListenerBuilder calls =>
      { builder with
        maybeListenerBuilder := some (builderOf (calls.map (liftCall writerPart.within))) }

/-- `dds_get_name` answers with the name or a negative number. -/
def topicNameForLog (named : Option String) : String := named.getD ""

section Writer

variable (currentCount : Status .publicationMatched → Nat)

/-- The callback that `create_with_watch` chains. -/
def updateReaders : Closure Status (WriterState User) .publicationMatched :=
  fun args state =>
    { state with
      absenceWatch := state.absenceWatch.map fun absence =>
        { absence with watch := absence.watch.updateAt (currentCount args.2) state.now } }

/-- The handle of a writer may be zero, unlike that of a reader. -/
def createEntity (handle : Int) (maybeQos : Option Qos)
    (maybeListener : Option (DdsListener Status (WriterState User)))
    (absenceWatch : Option WriterWatch) : Except DDSError (DdsWriter Status User Qos) :=
  if 0 ≤ handle then
    .ok { entity := handle, qos := maybeQos, listener := maybeListener,
          absenceWatch := absenceWatch }
  else .error (.ofReturn handle)

def createWithWatch (created : Bool) (handle : Int) (now : Nat) (named : Option String)
    (maybeQos : Option Qos) (listenerBuilder : DdsListenerBuilder Status (WriterState User))
    (absenceTimeout : Option Nat) : Panics (Except DDSError (DdsWriter Status User Qos)) := do
  let watch := absenceTimeout.map fun timeout => MatchWatch.newAt timeout now
  let listenerBuilder := match watch with
    | some _ => listenerBuilder.chainPublicationMatched (updateReaders currentCount)
    | none => listenerBuilder
  let absenceWatch := watch.map fun watch =>
    { watch := watch, topicName := topicNameForLog named, lastAbsent := false }
  let listener ← listenerBuilder.build created
  return createEntity handle maybeQos (some listener) absenceWatch

def WriterBuilder.create (created : Bool) (handle : Int) (now : Nat) (named : Option String)
    (builder : WriterBuilder Status User Qos) :
    Panics (Except DDSError (DdsWriter Status User Qos)) :=
  if builder.watchTimeout.isSome then
    createWithWatch currentCount created handle now named builder.maybeQos
      (builder.maybeListenerBuilder.getD .new) builder.watchTimeout
  else
    match builder.maybeListener, builder.maybeListenerBuilder with
    | some listener, _ => .ok (createEntity handle builder.maybeQos (some listener) none)
    | none, some listenerBuilder => do
        let listener ← listenerBuilder.build created
        return createEntity handle builder.maybeQos (some listener) none
    | none, none => .ok (createEntity handle builder.maybeQos none none)

def DdsWriter.deliver (writer : DdsWriter Status User Qos) (state : WriterState User)
    (fired : Fired Status) : WriterState User :=
  let state := { state with now := fired.now }
  match writer.listener with
  | some listener => listener.fire fired.event fired.args state
  | none => state

/-- `is_reader_absent`, with what the callbacks made of the watch by now. -/
def isReaderAbsent (state : WriterState User) (now : Nat) : Bool × WriterState User :=
  match state.absenceWatch with
  | none => (false, state)
  | some absence =>
      let absent := absence.watch.isAbsentAt now
      let logs :=
        if absent != absence.lastAbsent then
          if absent then
            state.logs ++ [.consideredAbsent absence.topicName absence.watch.timeout]
          else state.logs ++ [.recovered absence.topicName]
        else state.logs
      (absent, { state with
        absenceWatch := some { absence with lastAbsent := absent }, logs := logs })

/-- `set_listener`. The listener that was there goes, the crate's callback with it. -/
def DdsWriter.setListener (answer : Int) (listener : DdsListener Status (WriterState User))
    (writer : DdsWriter Status User Qos) : Except DDSError Unit × DdsWriter Status User Qos :=
  if answer = 0 then (.ok (), { writer with listener := some listener })
  else (.error (.ofReturn answer), writer)

/-! A writer in use -/

inductive WriterAction (Status : Event → Type) (User : Type) where
  | event (fired : Fired Status)
  | poll (now : Nat)
  | setListener (calls : List (Call Status User)) (answer : Int)

structure WriterUse (Status : Event → Type) (User Qos : Type) where
  writer : DdsWriter Status User Qos
  state : WriterState User
  answers : List Bool

def DdsWriter.start (writer : DdsWriter Status User Qos) (user : User) (now : Nat) :
    WriterUse Status User Qos :=
  { writer := writer
    state := { user := user, now := now, absenceWatch := writer.absenceWatch, logs := [] }
    answers := [] }

def WriterUse.act (use : WriterUse Status User Qos) :
    WriterAction Status User → WriterUse Status User Qos
  | .event fired => { use with state := use.writer.deliver use.state fired }
  | .poll now =>
      let polled := isReaderAbsent use.state now
      { use with state := polled.2, answers := use.answers ++ [polled.1] }
  | .setListener calls answer =>
      let listener := hooked (calls.map (liftCall writerPart.within))
      { use with writer := (use.writer.setListener answer listener).2 }

/-! What the options come to -/

def WriterOption.timeout : WriterOption Status User Qos → Option Nat
  | .watchReaderAbsence timeout => some timeout
  | _ => none

def WriterOption.qos : WriterOption Status User Qos → Option Qos
  | .withQos qos => some qos
  | _ => none

def WriterOption.listenerCalls : WriterOption Status User Qos → Option (List (Call Status User))
  | .withListener calls => some calls
  | _ => none

def WriterOption.builderCalls : WriterOption Status User Qos → Option (List (Call Status User))
  | .withListenerBuilder calls => some calls
  | _ => none

def writerCalls (options : List (WriterOption Status User Qos)) : List (Call Status User) :=
  if (latest WriterOption.timeout options).isSome then
    (latest WriterOption.builderCalls options).getD []
  else
    ((latest WriterOption.listenerCalls options).or
      (latest WriterOption.builderCalls options)).getD []

theorem writerOptions_fields (options : List (WriterOption Status User Qos))
    (builder : WriterBuilder Status User Qos) :
    let final := options.foldl WriterOption.apply builder
    final.watchTimeout = (latest WriterOption.timeout options).or builder.watchTimeout ∧
      final.maybeQos = (latest WriterOption.qos options).or builder.maybeQos ∧
      final.maybeListener = ((latest WriterOption.listenerCalls options).map fun calls =>
        hooked (calls.map (liftCall writerPart.within))).or builder.maybeListener ∧
      final.maybeListenerBuilder = ((latest WriterOption.builderCalls options).map fun calls =>
        builderOf (calls.map (liftCall writerPart.within))).or builder.maybeListenerBuilder := by
  induction options generalizing builder with
  | nil => exact ⟨rfl, rfl, rfl, rfl⟩
  | cons option rest ih =>
      have later := ih (option.apply builder)
      simp only [List.foldl_cons, latest] at later ⊢
      obtain ⟨timeout, qos, listener, listenerBuilder⟩ := later
      rw [timeout, qos, listener, listenerBuilder]
      cases option <;>
        simp [WriterOption.apply, WriterOption.timeout, WriterOption.qos,
          WriterOption.listenerCalls, WriterOption.builderCalls]

def readersEffect (watching : Bool) : (event : Event) → Args Status event → WriterState User →
    WriterState User
  | .publicationMatched, args, state =>
      if watching then updateReaders currentCount args state else state
  | _, _, state => state

/-- The crate's callback comes first, if it is there, and then such calls of the user. -/
def Serves (watching : Bool) (calls : List (Call Status User))
    (writer : DdsWriter Status User Qos) : Prop :=
  ∀ state fired, writer.deliver state fired =
    runCalls (calls.map (liftCall writerPart.within)) fired.event fired.args
      (readersEffect currentCount watching fired.event fired.args { state with now := fired.now })

theorem readersEffect_idle (event : Event) (args : Args Status event) (state : WriterState User) :
    readersEffect currentCount false event args state = state := by
  cases event <;> rfl

theorem serves_built (listener : DdsListener Status (WriterState User))
    (calls : List (Call Status User)) (writer : DdsWriter Status User Qos)
    (held : writer.listener = some listener)
    (fires : ∀ event args state, listener.fire event args state =
      runCalls (calls.map (liftCall writerPart.within)) event args state) :
    Serves currentCount false calls writer := by
  intro state fired
  rw [readersEffect_idle, DdsWriter.deliver, held]
  exact fires _ _ _

theorem poll_absent (state : WriterState User) (now : Nat) :
    (isReaderAbsent state now).1 =
      (state.absenceWatch.map WriterWatch.watch).any fun watch => watch.isAbsentAt now := by
  cases held : state.absenceWatch <;> simp [isReaderAbsent, held]

theorem writer_created (options : List (WriterOption Status User Qos)) (handle : Int)
    (valid : 0 ≤ handle) (creation : Nat) (named : Option String) :
    ∃ writer : DdsWriter Status User Qos,
      (options.foldl WriterOption.apply .new).create currentCount true handle creation named =
          .ok (.ok writer) ∧
        writer.qos = latest WriterOption.qos options ∧
        writer.absenceWatch = ((latest WriterOption.timeout options).map fun timeout =>
          { watch := .newAt timeout creation, topicName := topicNameForLog named,
            lastAbsent := false }) ∧
        Serves currentCount (latest WriterOption.timeout options).isSome (writerCalls options)
          writer := by
  obtain ⟨timeout, qos, listener, listenerBuilder⟩ := writerOptions_fields options
    (.new : WriterBuilder Status User Qos)
  have timeout := timeout.trans Option.or_none
  have qos := qos.trans Option.or_none
  have listener := listener.trans Option.or_none
  have listenerBuilder := listenerBuilder.trans Option.or_none
  have opened : ∀ listener absenceWatch, (createEntity handle (latest WriterOption.qos options)
      listener absenceWatch : Except DDSError (DdsWriter Status User Qos)) =
      .ok { entity := handle, qos := latest WriterOption.qos options, listener := listener,
            absenceWatch := absenceWatch } := fun _ _ => if_pos valid
  rw [WriterBuilder.create, timeout, qos, listener, listenerBuilder]
  cases watched : latest WriterOption.timeout options with
  | some timeout' =>
      have given : ((latest WriterOption.builderCalls options).map fun calls =>
          builderOf (calls.map (liftCall writerPart.within))).getD .new =
            builderOf ((writerCalls options).map (liftCall writerPart.within)) := by
        rw [writerCalls, watched]
        cases latest WriterOption.builderCalls options <;> rfl
      obtain ⟨built, made, fires⟩ := build_fires _ _
        (chainCallback_holds .publicationMatched (updateReaders currentCount) _ _
          (builderOf_holds ((writerCalls options).map (liftCall writerPart.within))))
      have same : (createWithWatch currentCount true handle creation named
          (latest WriterOption.qos options)
          (builderOf ((writerCalls options).map (liftCall writerPart.within))) (some timeout') :
            Panics (Except DDSError (DdsWriter Status User Qos))) =
          (do let listener ← DdsListenerBuilder.build true
                (chainCallback (field .publicationMatched)
                  (builderOf ((writerCalls options).map (liftCall writerPart.within)))
                  (updateReaders currentCount))
              return createEntity handle (latest WriterOption.qos options) (some listener)
                (some { watch := .newAt timeout' creation, topicName := topicNameForLog named,
                        lastAbsent := false })) := rfl
      rw [if_pos Option.isSome_some, given, same, made]
      refine ⟨_, congrArg Except.ok (opened _ _), rfl, rfl, fun state fired => ?_⟩
      refine (fires _ _ _).trans ?_
      obtain ⟨event, args, now⟩ := fired
      cases event <;> simp [invoked, runCalls, readersEffect]
  | none =>
      have chosen : writerCalls options = ((latest WriterOption.listenerCalls options).or
          (latest WriterOption.builderCalls options)).getD [] := by
        rw [writerCalls, watched]
        rfl
      rw [if_neg (by simp), chosen]
      cases hooks : latest WriterOption.listenerCalls options with
      | some calls =>
          refine ⟨_, congrArg Except.ok (opened _ _), rfl, rfl, ?_⟩
          exact serves_built currentCount _ calls _ rfl (hooked_fires _)
      | none =>
          cases builders : latest WriterOption.builderCalls options with
          | some calls =>
              obtain ⟨built, made, fires⟩ := build_fires _ _
                (builderOf_holds (calls.map (liftCall writerPart.within)))
              simp only [Option.map_none, Option.map_some, made]
              refine ⟨_, congrArg Except.ok (opened _ _), rfl, rfl, ?_⟩
              exact serves_built currentCount _ calls _ rfl fires
          | none =>
              refine ⟨_, congrArg Except.ok (opened _ _), rfl, rfl, fun state fired => ?_⟩
              exact (readersEffect_idle currentCount fired.event fired.args _).symm

/-! A history of events, polls and listeners -/

def Fired.counted (fired : Fired Status) : Option WatchEvent :=
  match fired with
  | ⟨.publicationMatched, args, now⟩ => some (.update (currentCount args.2) now)
  | _ => none

/-- The counts that come before the crate's callback is replaced. -/
def counts : List (WriterAction Status User) → List WatchEvent
  | [] => []
  | .event fired :: rest => (fired.counted currentCount).toList ++ counts rest
  | .poll _ :: rest => counts rest
  | .setListener _ answer :: rest => if answer = 0 then [] else counts rest

/-- The user's part, as if there were no other callbacks. -/
def userSees (calls : List (Call Status User)) : List (WriterAction Status User) → User → User
  | [], user => user
  | .event fired :: rest, user =>
      userSees calls rest (runCalls calls fired.event fired.args user)
  | .poll _ :: rest, user => userSees calls rest user
  | .setListener next answer :: rest, user =>
      userSees (if answer = 0 then next else calls) rest user

def logLine (topicName : String) (timeout : Nat) : Bool → WriterLog
  | true => .consideredAbsent topicName timeout
  | false => .recovered topicName

theorem readersEffect_step (watching : Bool) (fired : Fired Status) (state : WriterState User) :
    let after := readersEffect currentCount watching fired.event fired.args
      { state with now := fired.now }
    after.user = state.user ∧ after.logs = state.logs ∧
      after.absenceWatch = state.absenceWatch.map fun absence =>
        { absence with
          watch := (if watching then (fired.counted currentCount).toList else []).foldl
            AbsenceRuns.apply absence.watch } := by
  obtain ⟨event, args, now⟩ := fired
  cases event with
  | publicationMatched =>
      cases watching with
      | true => exact ⟨rfl, rfl, rfl⟩
      | false => exact ⟨rfl, rfl, Option.map_id'.symm⟩
  | _ =>
      refine ⟨rfl, rfl, ?_⟩
      cases watching <;> exact Option.map_id'.symm

theorem serve_step (watching : Bool) (calls : List (Call Status User))
    (writer : DdsWriter Status User Qos) (serves : Serves currentCount watching calls writer)
    (state : WriterState User) (fired : Fired Status) :
    (writer.deliver state fired).user = runCalls calls fired.event fired.args state.user ∧
      (writer.deliver state fired).logs = state.logs ∧
      (writer.deliver state fired).absenceWatch = state.absenceWatch.map fun absence =>
        { absence with
          watch := (if watching then (fired.counted currentCount).toList else []).foldl
            AbsenceRuns.apply absence.watch } := by
  obtain ⟨user, logs, watch⟩ := readersEffect_step currentCount watching fired state
  rw [serves, runCalls_lift writerPart]
  exact ⟨congrArg (runCalls calls fired.event fired.args) user, logs, watch⟩

theorem serves_setListener (calls : List (Call Status User)) (writer : DdsWriter Status User Qos) :
    Serves currentCount false calls
      (writer.setListener 0 (hooked (calls.map (liftCall writerPart.within)))).2 :=
  serves_built currentCount _ calls _ rfl (hooked_fires _)

theorem setListener_refused (answer : Int) (refused : answer ≠ 0)
    (listener : DdsListener Status (WriterState User)) (writer : DdsWriter Status User Qos) :
    (writer.setListener answer listener).2 = writer := by
  rw [DdsWriter.setListener, if_neg refused]

theorem poll_user (state : WriterState User) (now : Nat) :
    (isReaderAbsent state now).2.user = state.user := by
  cases held : state.absenceWatch <;> simp [isReaderAbsent, held]

theorem poll_watch (state : WriterState User) (now : Nat) :
    (isReaderAbsent state now).2.absenceWatch.map WriterWatch.watch =
      state.absenceWatch.map WriterWatch.watch := by
  cases held : state.absenceWatch <;> simp [isReaderAbsent, held]

/-- The user's part and the watch after any actions. -/
theorem use_run (watching : Bool) (calls : List (Call Status User))
    (actions : List (WriterAction Status User)) (use : WriterUse Status User Qos)
    (serves : Serves currentCount watching calls use.writer) :
    (actions.foldl WriterUse.act use).state.user = userSees calls actions use.state.user ∧
      (actions.foldl WriterUse.act use).state.absenceWatch.map WriterWatch.watch =
        (use.state.absenceWatch.map WriterWatch.watch).map
          ((if watching then counts currentCount actions else []).foldl AbsenceRuns.apply) := by
  induction actions generalizing watching calls use with
  | nil =>
      refine ⟨rfl, ?_⟩
      cases watching <;> exact Option.map_id'.symm
  | cons action rest ih =>
      rw [List.foldl_cons]
      cases action with
      | event fired =>
          obtain ⟨user, -, watch⟩ := serve_step currentCount watching calls _ serves use.state fired
          obtain ⟨users, watches⟩ := ih watching calls (use.act (.event fired)) serves
          refine ⟨users.trans (congrArg (userSees calls rest) user), watches.trans ?_⟩
          have here := congrArg (Option.map WriterWatch.watch) watch
          rw [WriterUse.act, here, Option.map_map, Option.map_map, Option.map_map]
          cases watching with
          | false => rfl
          | true =>
              congr 1
              funext absence
              simp only [Function.comp, ↓reduceIte, counts, List.foldl_append]
      | poll now =>
          obtain ⟨users, watches⟩ := ih watching calls (use.act (.poll now)) serves
          refine ⟨users.trans (congrArg (userSees calls rest) (poll_user use.state now)), ?_⟩
          refine watches.trans ?_
          rw [WriterUse.act, poll_watch]
          rfl
      | setListener next answer =>
          by_cases accepted : answer = 0
          · subst accepted
            -- From here on the callbacks are the user's alone, so no count arrives any more.
            obtain ⟨users, watches⟩ := ih false next (use.act (.setListener next 0))
              (serves_setListener currentCount next use.writer)
            refine ⟨users, watches.trans ?_⟩
            cases watching <;> rfl
          · have same : use.act (.setListener next answer) = use := by
              rw [WriterUse.act, setListener_refused answer accepted]
            obtain ⟨users, watches⟩ := ih watching calls use serves
            rw [same, users, watches, userSees, counts, if_neg accepted, if_neg accepted]
            exact ⟨rfl, rfl⟩

theorem poll_logs (state : WriterState User) (absence : WriterWatch)
    (held : state.absenceWatch = some absence) (now : Nat) :
    (isReaderAbsent state now).2.absenceWatch =
        some { absence with lastAbsent := (isReaderAbsent state now).1 } ∧
      (isReaderAbsent state now).2.logs = state.logs ++
        if absence.lastAbsent ≠ (isReaderAbsent state now).1 then
          [logLine absence.topicName absence.watch.timeout (isReaderAbsent state now).1]
        else [] := by
  rw [isReaderAbsent, held]
  refine ⟨rfl, ?_⟩
  cases asked : absence.watch.isAbsentAt now <;> cases last : absence.lastAbsent <;>
    simp [logLine, asked, last]

theorem destutter'_head (last : Bool) (answers : List Bool) :
    answers.destutter' (· ≠ ·) last = last :: (answers.destutter' (· ≠ ·) last).tail := by
  induction answers with
  | nil => rfl
  | cons answer rest ih =>
      by_cases changed : last ≠ answer
      · rw [List.destutter'_cons_pos _ changed, List.tail_cons]
      · rw [List.destutter'_cons_neg _ changed]
        exact ih

/-- The answers that differ from the one before. -/
theorem changes_cons (last answer : Bool) (answers : List Bool) :
    ((answer :: answers).destutter' (· ≠ ·) last).tail =
      (if last ≠ answer then [answer] else []) ++ (answers.destutter' (· ≠ ·) answer).tail := by
  by_cases changed : last ≠ answer
  · rw [if_pos changed, List.destutter'_cons_pos _ changed, List.tail_cons, destutter'_head]
    rfl
  · rw [if_neg changed, List.destutter'_cons_neg _ changed, not_ne_iff.mp changed]
    rfl

/-- The log lines tell the changes of the answers, and nothing else. -/
theorem logs_run (watching : Bool) (calls : List (Call Status User))
    (actions : List (WriterAction Status User)) (use : WriterUse Status User Qos)
    (serves : Serves currentCount watching calls use.writer) (absence : WriterWatch)
    (held : use.state.absenceWatch = some absence) :
    ∃ answers, (actions.foldl WriterUse.act use).answers = use.answers ++ answers ∧
      (actions.foldl WriterUse.act use).state.logs = use.state.logs ++
        (answers.destutter' (· ≠ ·) absence.lastAbsent).tail.map
          (logLine absence.topicName absence.watch.timeout) := by
  induction actions generalizing watching calls use absence with
  | nil => exact ⟨[], (List.append_nil _).symm, (List.append_nil _).symm⟩
  | cons action rest ih =>
      rw [List.foldl_cons]
      cases action with
      | event fired =>
          obtain ⟨-, logs, watch⟩ := serve_step currentCount watching calls _ serves use.state fired
          rw [held, Option.map_some] at watch
          obtain ⟨answers, given, lines⟩ :=
            ih watching calls (use.act (.event fired)) serves _ watch
          refine ⟨answers, given, lines.trans ?_⟩
          rw [foldl_timeout, WriterUse.act, logs]
      | poll now =>
          obtain ⟨watch, logs⟩ := poll_logs use.state absence held now
          obtain ⟨answers, given, lines⟩ := ih watching calls (use.act (.poll now)) serves _ watch
          refine ⟨(isReaderAbsent use.state now).1 :: answers, ?_, lines.trans ?_⟩
          · rw [given, WriterUse.act, List.append_assoc]
            rfl
          · rw [WriterUse.act, logs, changes_cons, List.append_assoc, List.map_append]
            split <;> rfl
      | setListener next answer =>
          by_cases accepted : answer = 0
          · subst accepted
            exact ih false next (use.act (.setListener next 0))
              (serves_setListener currentCount next use.writer) absence held
          · have same : use.act (.setListener next answer) = use := by
              rw [WriterUse.act, setListener_refused answer accepted]
            rw [same]
            exact ih watching calls use serves absence held

/-- Without a watch there is nothing to poll, and nothing is logged. -/
theorem unwatched_logs (watching : Bool) (calls : List (Call Status User))
    (actions : List (WriterAction Status User)) (use : WriterUse Status User Qos)
    (serves : Serves currentCount watching calls use.writer)
    (unwatched : use.state.absenceWatch = none) :
    (actions.foldl WriterUse.act use).state.logs = use.state.logs := by
  induction actions generalizing watching calls use with
  | nil => rfl
  | cons action rest ih =>
      rw [List.foldl_cons]
      cases action with
      | event fired =>
          obtain ⟨-, logs, watch⟩ := serve_step currentCount watching calls _ serves use.state fired
          rw [unwatched, Option.map_none] at watch
          exact (ih watching calls (use.act (.event fired)) serves watch).trans logs
      | poll now =>
          have polled : isReaderAbsent use.state now = (false, use.state) := by
            rw [isReaderAbsent, unwatched]
          have same : (use.act (.poll now)).state = use.state := by
            rw [WriterUse.act, polled]
          rw [ih watching calls (use.act (.poll now)) serves (by rw [same, unwatched]), same]
      | setListener next answer =>
          by_cases accepted : answer = 0
          · subst accepted
            exact ih false next (use.act (.setListener next 0))
              (serves_setListener currentCount next use.writer) unwatched
          · have same : use.act (.setListener next answer) = use := by
              rw [WriterUse.act, setListener_refused answer accepted]
            rw [same]
            exact ih watching calls use serves unwatched

/-- The listener of the user sees every event exactly as if it were alone, from any options
and through any later `set_listener`. A poll finds the readers absent by the counts of the
events that came before a `set_listener` took the crate's callback away, and the log has one
line for each change of the answer, be it asked often or seldom, and none without a watch. -/
theorem writer_follows (options : List (WriterOption Status User Qos)) (handle : Int)
    (valid : 0 ≤ handle) (creation : Nat) (named : Option String) (user : User)
    (actions : List (WriterAction Status User)) :
    ∃ writer : DdsWriter Status User Qos,
      (options.foldl WriterOption.apply .new).create currentCount true handle creation named =
          .ok (.ok writer) ∧
        let final := actions.foldl WriterUse.act (writer.start user creation)
        final.state.user = userSees (writerCalls options) actions user ∧
          (∀ now, (isReaderAbsent final.state now).1 = true ↔
            ∃ timeout start since, latest WriterOption.timeout options = some timeout ∧
              ZeroRun creation (counts currentCount actions) start since ∧
              timeout ≤ now - start) ∧
          (latest WriterOption.timeout options = none → final.state.logs = []) ∧
          ∀ timeout, latest WriterOption.timeout options = some timeout →
            final.state.logs = (final.answers.destutter' (· ≠ ·) false).tail.map
              (logLine (topicNameForLog named) timeout) := by
  obtain ⟨writer, made, -, watched, serves⟩ :=
    writer_created currentCount options handle valid creation named
  obtain ⟨users, watches⟩ := use_run currentCount (latest WriterOption.timeout options).isSome
    (writerCalls options) actions (writer.start user creation) serves
  refine ⟨writer, made, users, fun now => ?_, fun unasked => ?_, fun timeout given => ?_⟩
  · rw [poll_absent, watches, DdsWriter.start, watched, ← given_absent]
    cases latest WriterOption.timeout options <;> rfl
  · rw [unasked] at watched
    exact unwatched_logs currentCount _ (writerCalls options) actions
      (writer.start user creation) serves watched
  · rw [given] at watched
    obtain ⟨answers, final, lines⟩ := logs_run currentCount _ (writerCalls options) actions
      (writer.start user creation) serves _ watched
    rw [final]
    exact lines

/-- A reader that comes back after a `set_listener` is not noticed: the writer goes on to find
the readers absent. -/
theorem writer_misses_return :
    ∃ writer : DdsWriter (fun _ => Nat) Nat Unit,
      (isReaderAbsent
        ([.event ⟨.publicationMatched, (7, (1 : Nat)), 3⟩, .poll 4,
          .event ⟨.publicationMatched, (7, (0 : Nat)), 20⟩, .setListener [] 0,
          .event ⟨.publicationMatched, (7, (1 : Nat)), 25⟩].foldl WriterUse.act
            (writer.start 0 0)).state 30).1 = true := by
  obtain ⟨writer, -, -, absent, -⟩ := @writer_follows (fun _ => Nat) Nat Unit id
    [.watchReaderAbsence 10] 0 (by decide) 0 (some "status") 0
    [.event ⟨.publicationMatched, (7, (1 : Nat)), 3⟩, .poll 4,
      .event ⟨.publicationMatched, (7, (0 : Nat)), 20⟩, .setListener [] 0,
      .event ⟨.publicationMatched, (7, (1 : Nat)), 25⟩]
  refine ⟨writer, (absent 30).mpr ⟨10, 20, [], rfl, ?_, by decide⟩⟩
  exact .afterMatch [] [] [] 1 3 20 (by decide) (by simp) (by simp [Unmatched])

end Writer

end CycloneddsRs.BuilderListeners
