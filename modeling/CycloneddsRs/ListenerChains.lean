import CycloneddsRs.Serdes
import Mathlib.Logic.Function.Basic

/-!
dds_listener.rs: the callbacks of a listener. A closure is what it does to the world,
`Status` has the status that each event brings. The builder sets the thirteen fields,
`build` registers a trampoline with C for those that are set, and an event reaches the
closures through the trampoline.
-/

namespace CycloneddsRs.ListenerChains
open Serdes

inductive Event where
  | sampleLost
  | dataAvailable
  | sampleRejected
  | livelinessChanged
  | requestedDeadlineMissed
  | requestedIncompatibleQos
  | subscriptionMatched
  | livelinessLost
  | offeredDeadlineMissed
  | offeredIncompatibleQos
  | publicationMatched
  | inconsistentTopic
  | dataOnReaders
  deriving DecidableEq

variable (Status : Event → Type) (World : Type)

abbrev Entity := Int32

abbrev Args : Event → Type
  | .dataAvailable => Entity
  | .dataOnReaders => Entity
  | event => Entity × Status event

abbrev Closure (event : Event) := Args Status event → World → World

structure Callbacks where
  onSampleLost : Option (Closure Status World .sampleLost)
  onDataAvailable : Option (Closure Status World .dataAvailable)
  onSampleRejected : Option (Closure Status World .sampleRejected)
  onLivelinessChanged : Option (Closure Status World .livelinessChanged)
  onRequestedDeadlineMissed : Option (Closure Status World .requestedDeadlineMissed)
  onRequestedIncompatibleQos : Option (Closure Status World .requestedIncompatibleQos)
  onSubscriptionMatched : Option (Closure Status World .subscriptionMatched)
  onLivelinessLost : Option (Closure Status World .livelinessLost)
  onOfferedDeadlineMissed : Option (Closure Status World .offeredDeadlineMissed)
  onOfferedIncompatibleQos : Option (Closure Status World .offeredIncompatibleQos)
  onPublicationMatched : Option (Closure Status World .publicationMatched)
  onInconsistentTopic : Option (Closure Status World .inconsistentTopic)
  onDataOnReaders : Option (Closure Status World .dataOnReaders)

def Callbacks.default : Callbacks Status World :=
  { onSampleLost := none
    onDataAvailable := none
    onSampleRejected := none
    onLivelinessChanged := none
    onRequestedDeadlineMissed := none
    onRequestedIncompatibleQos := none
    onSubscriptionMatched := none
    onLivelinessLost := none
    onOfferedDeadlineMissed := none
    onOfferedIncompatibleQos := none
    onPublicationMatched := none
    onInconsistentTopic := none
    onDataOnReaders := none }

/-- One of the thirteen fields. -/
structure Field (event : Event) where
  get : Callbacks Status World → Option (Closure Status World event)
  set : Callbacks Status World → Option (Closure Status World event) → Callbacks Status World

/-- A function for C, which calls it with the pointer to the callbacks. -/
abbrev Trampoline (event : Event) := Callbacks Status World → Args Status event → World → World

/-- What `dds_create_listener` allocates: a slot for each event. -/
abbrev CListener := (event : Event) → Option (Trampoline Status World event)

structure DdsListener where
  listener : Option (CListener Status World)
  callbacks : Option (Callbacks Status World)
  rawPtr : Option (Callbacks Status World)

structure DdsListenerBuilder where
  listener : DdsListener Status World

abbrev Method (event : Event) :=
  DdsListenerBuilder Status World → Closure Status World event → DdsListenerBuilder Status World

variable {Status World}

def DdsListener.new : DdsListener Status World :=
  { listener := none, callbacks := some (.default Status World), rawPtr := none }

def DdsListenerBuilder.new : DdsListenerBuilder Status World := { listener := .new }

/-! The fields -/

def Field.onSampleLost : Field Status World .sampleLost :=
  { get := fun callbacks => callbacks.onSampleLost
    set := fun callbacks closure => { callbacks with onSampleLost := closure } }

def Field.onDataAvailable : Field Status World .dataAvailable :=
  { get := fun callbacks => callbacks.onDataAvailable
    set := fun callbacks closure => { callbacks with onDataAvailable := closure } }

def Field.onSampleRejected : Field Status World .sampleRejected :=
  { get := fun callbacks => callbacks.onSampleRejected
    set := fun callbacks closure => { callbacks with onSampleRejected := closure } }

def Field.onLivelinessChanged : Field Status World .livelinessChanged :=
  { get := fun callbacks => callbacks.onLivelinessChanged
    set := fun callbacks closure => { callbacks with onLivelinessChanged := closure } }

def Field.onRequestedDeadlineMissed : Field Status World .requestedDeadlineMissed :=
  { get := fun callbacks => callbacks.onRequestedDeadlineMissed
    set := fun callbacks closure => { callbacks with onRequestedDeadlineMissed := closure } }

def Field.onRequestedIncompatibleQos : Field Status World .requestedIncompatibleQos :=
  { get := fun callbacks => callbacks.onRequestedIncompatibleQos
    set := fun callbacks closure => { callbacks with onRequestedIncompatibleQos := closure } }

def Field.onSubscriptionMatched : Field Status World .subscriptionMatched :=
  { get := fun callbacks => callbacks.onSubscriptionMatched
    set := fun callbacks closure => { callbacks with onSubscriptionMatched := closure } }

def Field.onLivelinessLost : Field Status World .livelinessLost :=
  { get := fun callbacks => callbacks.onLivelinessLost
    set := fun callbacks closure => { callbacks with onLivelinessLost := closure } }

def Field.onOfferedDeadlineMissed : Field Status World .offeredDeadlineMissed :=
  { get := fun callbacks => callbacks.onOfferedDeadlineMissed
    set := fun callbacks closure => { callbacks with onOfferedDeadlineMissed := closure } }

def Field.onOfferedIncompatibleQos : Field Status World .offeredIncompatibleQos :=
  { get := fun callbacks => callbacks.onOfferedIncompatibleQos
    set := fun callbacks closure => { callbacks with onOfferedIncompatibleQos := closure } }

def Field.onPublicationMatched : Field Status World .publicationMatched :=
  { get := fun callbacks => callbacks.onPublicationMatched
    set := fun callbacks closure => { callbacks with onPublicationMatched := closure } }

def Field.onInconsistentTopic : Field Status World .inconsistentTopic :=
  { get := fun callbacks => callbacks.onInconsistentTopic
    set := fun callbacks closure => { callbacks with onInconsistentTopic := closure } }

def Field.onDataOnReaders : Field Status World .dataOnReaders :=
  { get := fun callbacks => callbacks.onDataOnReaders
    set := fun callbacks closure => { callbacks with onDataOnReaders := closure } }

/-! Registration with C -/

/-- A trampoline calls what it finds in its field. -/
def callClosure {event : Event} (field : Field Status World event)
    (callbacks : Callbacks Status World) (args : Args Status event) (world : World) : World :=
  match field.get callbacks with
  | some closure => closure args world
  | none => world

def callDataAvailableClosure : Trampoline Status World .dataAvailable :=
  callClosure .onDataAvailable

def callSampleLostClosure : Trampoline Status World .sampleLost :=
  callClosure .onSampleLost

def callSampleRejectedClosure : Trampoline Status World .sampleRejected :=
  callClosure .onSampleRejected

def callLivelinessChangedClosure : Trampoline Status World .livelinessChanged :=
  callClosure .onLivelinessChanged

def callRequestedDeadlineMissedClosure : Trampoline Status World .requestedDeadlineMissed :=
  callClosure .onRequestedDeadlineMissed

def callRequestedIncompatibleQosClosure : Trampoline Status World .requestedIncompatibleQos :=
  callClosure .onRequestedIncompatibleQos

def callSubscriptionMatchedClosure : Trampoline Status World .subscriptionMatched :=
  callClosure .onSubscriptionMatched

def callLivelinessLostClosure : Trampoline Status World .livelinessLost :=
  callClosure .onLivelinessLost

def callOfferedDeadlineMissedClosure : Trampoline Status World .offeredDeadlineMissed :=
  callClosure .onOfferedDeadlineMissed

def callOfferedIncompatibleQosClosure : Trampoline Status World .offeredIncompatibleQos :=
  callClosure .onOfferedIncompatibleQos

def callPublicationMatchedClosure : Trampoline Status World .publicationMatched :=
  callClosure .onPublicationMatched

def callInconsistentTopicClosure : Trampoline Status World .inconsistentTopic :=
  callClosure .onInconsistentTopic

def callDataOnReadersClosure : Trampoline Status World .dataOnReaders :=
  callClosure .onDataOnReaders

/-- The `dds_lset_*` function of an event. -/
def ddsLset (event : Event) (listener : CListener Status World)
    (closure : Trampoline Status World event) : CListener Status World :=
  Function.update listener event (some closure)

def lset {event : Event} (callbacks : Callbacks Status World) (field : Field Status World event)
    (setter : CListener Status World → Trampoline Status World event → CListener Status World)
    (closure : Trampoline Status World event) (listener : CListener Status World) :
    CListener Status World :=
  if (field.get callbacks).isSome then setter listener closure else listener

def registerCallbacks (callbacks : Callbacks Status World) (listener : CListener Status World) :
    CListener Status World :=
  let listener := lset callbacks .onDataAvailable (ddsLset .dataAvailable)
    callDataAvailableClosure listener
  let listener := lset callbacks .onSampleLost (ddsLset .sampleLost) callSampleLostClosure listener
  let listener := lset callbacks .onSampleRejected (ddsLset .sampleRejected)
    callSampleRejectedClosure listener
  let listener := lset callbacks .onLivelinessChanged (ddsLset .livelinessChanged)
    callLivelinessChangedClosure listener
  let listener := lset callbacks .onRequestedDeadlineMissed (ddsLset .requestedDeadlineMissed)
    callRequestedDeadlineMissedClosure listener
  let listener := lset callbacks .onRequestedIncompatibleQos (ddsLset .requestedIncompatibleQos)
    callRequestedIncompatibleQosClosure listener
  let listener := lset callbacks .onSubscriptionMatched (ddsLset .subscriptionMatched)
    callSubscriptionMatchedClosure listener
  let listener := lset callbacks .onLivelinessLost (ddsLset .livelinessLost)
    callLivelinessLostClosure listener
  let listener := lset callbacks .onOfferedDeadlineMissed (ddsLset .offeredDeadlineMissed)
    callOfferedDeadlineMissedClosure listener
  let listener := lset callbacks .onOfferedIncompatibleQos (ddsLset .offeredIncompatibleQos)
    callOfferedIncompatibleQosClosure listener
  let listener := lset callbacks .onPublicationMatched (ddsLset .publicationMatched)
    callPublicationMatchedClosure listener
  let listener := lset callbacks .onInconsistentTopic (ddsLset .inconsistentTopic)
    callInconsistentTopicClosure listener
  let listener := lset callbacks .onDataOnReaders (ddsLset .dataOnReaders)
    callDataOnReadersClosure listener
  listener

/-- `created` is false when C has no memory for the listener. -/
def DdsListener.hook (created : Bool) (self : DdsListener Status World) :
    Panics (DdsListener Status World) :=
  match self.callbacks with
  | none => .ok self
  | some callbacks =>
      if created then
        .ok { listener := some (registerCallbacks callbacks fun _ => none)
              callbacks := none
              rawPtr := some callbacks }
      else .error "Error creating listener"

def DdsListenerBuilder.build (created : Bool) (builder : DdsListenerBuilder Status World) :
    Panics (DdsListener Status World) :=
  builder.listener.hook created

/-- C calls the closure in the slot of the event, with the pointer that it was given. -/
def DdsListener.fire (self : DdsListener Status World) (event : Event) (args : Args Status event)
    (world : World) : World :=
  match self.listener.bind fun listener => listener event, self.rawPtr with
  | some closure, some callbacks => closure callbacks args world
  | _, _ => world

def DdsListener.registered (self : DdsListener Status World) (event : Event) : Bool :=
  (self.listener.bind fun listener => listener event).isSome

/-! The builder -/

def setCallback {event : Event} (field : Field Status World event)
    (builder : DdsListenerBuilder Status World) (callback : Closure Status World event) :
    DdsListenerBuilder Status World :=
  match builder.listener.callbacks with
  | some callbacks =>
      { listener := { builder.listener with
          callbacks := some (field.set callbacks (some callback)) } }
  | none => builder

/-- The closure made of the new callback and the one before it. -/
def chained {event : Event} (callback : Closure Status World event)
    (previous : Option (Closure Status World event)) : Closure Status World event :=
  fun args world =>
    let world := callback args world
    match previous with
    | some previous => previous args world
    | none => world

def chainCallback {event : Event} (field : Field Status World event)
    (builder : DdsListenerBuilder Status World) (callback : Closure Status World event) :
    DdsListenerBuilder Status World :=
  match builder.listener.callbacks with
  | some callbacks =>
      let previous := field.get callbacks
      let callbacks := field.set callbacks none
      { listener := { builder.listener with
          callbacks := some (field.set callbacks (some (chained callback previous))) } }
  | none => builder

namespace DdsListenerBuilder

def onDataAvailable : Method Status World .dataAvailable :=
  setCallback .onDataAvailable

def onSampleLost : Method Status World .sampleLost :=
  setCallback .onSampleLost

def onSampleRejected : Method Status World .sampleRejected :=
  setCallback .onSampleRejected

def onLivelinessChanged : Method Status World .livelinessChanged :=
  setCallback .onLivelinessChanged

def onRequestedDeadlineMissed : Method Status World .requestedDeadlineMissed :=
  setCallback .onRequestedDeadlineMissed

def onRequestedIncompatibleQos : Method Status World .requestedIncompatibleQos :=
  setCallback .onRequestedIncompatibleQos

def onSubscriptionMatched : Method Status World .subscriptionMatched :=
  setCallback .onSubscriptionMatched

def onLivelinessLost : Method Status World .livelinessLost :=
  setCallback .onLivelinessLost

def onOfferedDeadlineMissed : Method Status World .offeredDeadlineMissed :=
  setCallback .onOfferedDeadlineMissed

def onOfferedIncompatibleQos : Method Status World .offeredIncompatibleQos :=
  setCallback .onOfferedIncompatibleQos

def onPublicationMatched : Method Status World .publicationMatched :=
  setCallback .onPublicationMatched

def onInconsistentTopic : Method Status World .inconsistentTopic :=
  setCallback .onInconsistentTopic

def onDataOnReaders : Method Status World .dataOnReaders :=
  setCallback .onDataOnReaders

def chainDataAvailable : Method Status World .dataAvailable :=
  chainCallback .onDataAvailable

def chainDataOnReaders : Method Status World .dataOnReaders :=
  chainCallback .onDataOnReaders

def chainSampleLost : Method Status World .sampleLost :=
  chainCallback .onSampleLost

def chainSampleRejected : Method Status World .sampleRejected :=
  chainCallback .onSampleRejected

def chainLivelinessChanged : Method Status World .livelinessChanged :=
  chainCallback .onLivelinessChanged

def chainRequestedDeadlineMissed : Method Status World .requestedDeadlineMissed :=
  chainCallback .onRequestedDeadlineMissed

def chainRequestedIncompatibleQos : Method Status World .requestedIncompatibleQos :=
  chainCallback .onRequestedIncompatibleQos

def chainSubscriptionMatched : Method Status World .subscriptionMatched :=
  chainCallback .onSubscriptionMatched

def chainLivelinessLost : Method Status World .livelinessLost :=
  chainCallback .onLivelinessLost

def chainOfferedDeadlineMissed : Method Status World .offeredDeadlineMissed :=
  chainCallback .onOfferedDeadlineMissed

def chainOfferedIncompatibleQos : Method Status World .offeredIncompatibleQos :=
  chainCallback .onOfferedIncompatibleQos

def chainPublicationMatched : Method Status World .publicationMatched :=
  chainCallback .onPublicationMatched

def chainInconsistentTopic : Method Status World .inconsistentTopic :=
  chainCallback .onInconsistentTopic

end DdsListenerBuilder

/-- A call on the builder. -/
inductive Call (Status : Event → Type) (World : Type) where
  | on (event : Event) (callback : Closure Status World event)
  | chain (event : Event) (callback : Closure Status World event)

def Call.event : Call Status World → Event
  | .on event _ => event
  | .chain event _ => event

def Call.apply (builder : DdsListenerBuilder Status World) :
    Call Status World → DdsListenerBuilder Status World
  | .on .sampleLost callback => builder.onSampleLost callback
  | .on .dataAvailable callback => builder.onDataAvailable callback
  | .on .sampleRejected callback => builder.onSampleRejected callback
  | .on .livelinessChanged callback => builder.onLivelinessChanged callback
  | .on .requestedDeadlineMissed callback => builder.onRequestedDeadlineMissed callback
  | .on .requestedIncompatibleQos callback => builder.onRequestedIncompatibleQos callback
  | .on .subscriptionMatched callback => builder.onSubscriptionMatched callback
  | .on .livelinessLost callback => builder.onLivelinessLost callback
  | .on .offeredDeadlineMissed callback => builder.onOfferedDeadlineMissed callback
  | .on .offeredIncompatibleQos callback => builder.onOfferedIncompatibleQos callback
  | .on .publicationMatched callback => builder.onPublicationMatched callback
  | .on .inconsistentTopic callback => builder.onInconsistentTopic callback
  | .on .dataOnReaders callback => builder.onDataOnReaders callback
  | .chain .sampleLost callback => builder.chainSampleLost callback
  | .chain .dataAvailable callback => builder.chainDataAvailable callback
  | .chain .sampleRejected callback => builder.chainSampleRejected callback
  | .chain .livelinessChanged callback => builder.chainLivelinessChanged callback
  | .chain .requestedDeadlineMissed callback => builder.chainRequestedDeadlineMissed callback
  | .chain .requestedIncompatibleQos callback => builder.chainRequestedIncompatibleQos callback
  | .chain .subscriptionMatched callback => builder.chainSubscriptionMatched callback
  | .chain .livelinessLost callback => builder.chainLivelinessLost callback
  | .chain .offeredDeadlineMissed callback => builder.chainOfferedDeadlineMissed callback
  | .chain .offeredIncompatibleQos callback => builder.chainOfferedIncompatibleQos callback
  | .chain .publicationMatched callback => builder.chainPublicationMatched callback
  | .chain .inconsistentTopic callback => builder.chainInconsistentTopic callback
  | .chain .dataOnReaders callback => builder.chainDataOnReaders callback

/-! What an event comes to -/

/-- The callbacks for an event, from the calls with the latest first: those that were chained
down to the last one that was set, and that one. -/
def invoked (event : Event) : List (Call Status World) → List (Closure Status World event)
  | [] => []
  | .on other callback :: older =>
      if same : other = event then [same ▸ callback] else invoked event older
  | .chain other callback :: older =>
      if same : other = event then (same ▸ callback) :: invoked event older
      else invoked event older

/-! The fields are apart -/

def field : (event : Event) → Field Status World event
  | .sampleLost => .onSampleLost
  | .dataAvailable => .onDataAvailable
  | .sampleRejected => .onSampleRejected
  | .livelinessChanged => .onLivelinessChanged
  | .requestedDeadlineMissed => .onRequestedDeadlineMissed
  | .requestedIncompatibleQos => .onRequestedIncompatibleQos
  | .subscriptionMatched => .onSubscriptionMatched
  | .livelinessLost => .onLivelinessLost
  | .offeredDeadlineMissed => .onOfferedDeadlineMissed
  | .offeredIncompatibleQos => .onOfferedIncompatibleQos
  | .publicationMatched => .onPublicationMatched
  | .inconsistentTopic => .onInconsistentTopic
  | .dataOnReaders => .onDataOnReaders

theorem field_default (event : Event) :
    (field event).get (Callbacks.default Status World) = none := by
  cases event <;> rfl

theorem field_set_self (event : Event) (callbacks : Callbacks Status World)
    (closure : Option (Closure Status World event)) :
    (field event).get ((field event).set callbacks closure) = closure := by
  cases event <;> rfl

theorem field_set_other (event other : Event) (different : event ≠ other)
    (callbacks : Callbacks Status World) (closure : Option (Closure Status World other)) :
    (field event).get ((field other).set callbacks closure) = (field event).get callbacks := by
  cases other <;> cases event <;> first | rfl | exact absurd rfl different

theorem lset_self {event : Event} (callbacks : Callbacks Status World)
    (field : Field Status World event) (closure : Trampoline Status World event)
    (listener : CListener Status World) :
    lset callbacks field (ddsLset event) closure listener event =
      if (field.get callbacks).isSome then some closure else listener event := by
  rw [lset]
  split
  · exact Function.update_self event _ listener
  · rfl

theorem lset_other {event : Event} (other : Event) (different : other ≠ event)
    (callbacks : Callbacks Status World) (field : Field Status World event)
    (closure : Trampoline Status World event) (listener : CListener Status World) :
    lset callbacks field (ddsLset event) closure listener other = listener other := by
  rw [lset]
  split
  · exact Function.update_of_ne different _ listener
  · rfl

/-- Each of the thirteen lines fills the slot of its own field. -/
theorem registerCallbacks_slot (event : Event) (callbacks : Callbacks Status World) :
    registerCallbacks callbacks (fun _ => none) event =
      if ((field event).get callbacks).isSome then some (callClosure (field event)) else none := by
  cases event <;> simp [registerCallbacks, lset_self, lset_other, field] <;> rfl

/-! The closures nest -/

/-- The closure that a field holds after such callbacks. -/
def nested {event : Event} :
    List (Closure Status World event) → Option (Closure Status World event)
  | [] => none
  | callback :: older => some (chained callback (nested older))

theorem nested_isSome {event : Event} (callbacks : List (Closure Status World event)) :
    (nested callbacks).isSome ↔ callbacks ≠ [] := by
  cases callbacks with
  | nil => simp [nested]
  | cons callback older => simp [nested]

/-- Calling it calls them all, in order. -/
theorem nested_calls {event : Event} (callbacks : List (Closure Status World event))
    (args : Args Status event) (world : World) :
    (match nested callbacks with
      | some closure => closure args world
      | none => world) = callbacks.foldl (fun world callback => callback args world) world := by
  induction callbacks generalizing world with
  | nil => rfl
  | cons callback older ih => exact ih (callback args world)

/-- A builder after some calls, the latest first. -/
def Holds (builder : DdsListenerBuilder Status World) (calls : List (Call Status World)) : Prop :=
  ∃ callbacks, builder.listener.callbacks = some callbacks ∧
    ∀ event, (field event).get callbacks = nested (invoked event calls)

theorem holds_new : Holds (.new : DdsListenerBuilder Status World) [] := by
  refine ⟨_, rfl, ?_⟩
  intro event
  exact field_default event

theorem setCallback_holds (event : Event) (callback : Closure Status World event)
    (builder : DdsListenerBuilder Status World) (calls : List (Call Status World))
    (holds : Holds builder calls) :
    Holds (setCallback (field event) builder callback) (.on event callback :: calls) := by
  obtain ⟨callbacks, present, fields⟩ := holds
  rw [setCallback, present]
  refine ⟨_, rfl, ?_⟩
  intro other
  rw [invoked]
  by_cases same : event = other
  · subst same
    rw [field_set_self, dif_pos rfl]
    rfl
  · rw [field_set_other other event (Ne.symm same), dif_neg same]
    exact fields other

theorem chainCallback_holds (event : Event) (callback : Closure Status World event)
    (builder : DdsListenerBuilder Status World) (calls : List (Call Status World))
    (holds : Holds builder calls) :
    Holds (chainCallback (field event) builder callback) (.chain event callback :: calls) := by
  obtain ⟨callbacks, present, fields⟩ := holds
  rw [chainCallback, present]
  refine ⟨_, rfl, ?_⟩
  intro other
  rw [invoked]
  by_cases same : event = other
  · subst same
    rw [field_set_self, dif_pos rfl, fields event]
    rfl
  · rw [field_set_other other event (Ne.symm same), field_set_other other event (Ne.symm same),
      dif_neg same]
    exact fields other

/-- Every method works on the field of its event. -/
theorem apply_holds (builder : DdsListenerBuilder Status World) (call : Call Status World)
    (calls : List (Call Status World)) (holds : Holds builder calls) :
    Holds (call.apply builder) (call :: calls) := by
  cases call with
  | on event callback =>
      have set := setCallback_holds event callback builder calls holds
      cases event <;> exact set
  | chain event callback =>
      have chain := chainCallback_holds event callback builder calls holds
      cases event <;> exact chain

theorem calls_hold (calls past : List (Call Status World))
    (builder : DdsListenerBuilder Status World) (holds : Holds builder past) :
    Holds (calls.foldl Call.apply builder) (calls.reverse ++ past) := by
  induction calls generalizing builder past with
  | nil => exact holds
  | cons call rest ih =>
      rw [List.reverse_cons, List.append_assoc]
      exact ih (call :: past) (call.apply builder) (apply_holds builder call past holds)

/-! Events -/

theorem invoked_nonempty (event : Event) (calls : List (Call Status World)) :
    invoked event calls ≠ [] ↔ ∃ call ∈ calls, call.event = event := by
  induction calls with
  | nil => simp [invoked]
  | cons call older ih =>
      cases call with
      | on other callback | chain other callback =>
          by_cases same : other = event
          · simp [invoked, same, Call.event]
          · simp only [invoked, same, dite_false, ih, List.mem_cons, exists_eq_or_imp, Call.event,
              false_or]

theorem invoked_filter (event : Event) (calls : List (Call Status World)) :
    invoked event calls = invoked event (calls.filter fun call => call.event = event) := by
  induction calls with
  | nil => rfl
  | cons call older ih =>
      cases call with
      | on other callback | chain other callback =>
          by_cases same : other = event
          · subst same
            simp [invoked, Call.event, ih]
          · simp [invoked, Call.event, same, ih]

/-- The callbacks of an event are called from the latest chained one down to the one set last,
whatever was set and chained for the others. -/
theorem build_invoked (calls : List (Call Status World)) :
    ∃ listener, (calls.foldl Call.apply DdsListenerBuilder.new).build true = .ok listener ∧
      ∀ event,
        (∀ args world, listener.fire event args world =
          (invoked event calls.reverse).foldl (fun world callback => callback args world) world) ∧
        (listener.registered event = true ↔ ∃ call ∈ calls, call.event = event) ∧
        invoked event calls.reverse =
          invoked event (calls.filter fun call => call.event = event).reverse := by
  have holds := calls_hold calls [] .new holds_new
  rw [List.append_nil] at holds
  obtain ⟨callbacks, present, fields⟩ := holds
  rw [DdsListenerBuilder.build, DdsListener.hook, present]
  refine ⟨_, rfl, ?_⟩
  intro event
  have slot := registerCallbacks_slot event callbacks
  rw [fields event] at slot
  refine ⟨?_, ?_, ?_⟩
  · intro args world
    rw [← nested_calls, DdsListener.fire, Option.bind_some, slot]
    cases held : nested (invoked event calls.reverse) with
    | none => rfl
    | some closure =>
        simp only [Option.isSome_some, if_true, callClosure, fields event, held]
  · have supplied := invoked_nonempty event calls.reverse
    simp only [List.mem_reverse] at supplied
    rw [← supplied, ← nested_isSome, DdsListener.registered, Option.bind_some, slot]
    split
    case isTrue some => exact iff_of_true rfl some
    case isFalse none => exact iff_of_false Bool.false_ne_true none
  · rw [← List.filter_reverse]
    exact invoked_filter event calls.reverse

example :
    let note (text : String) : Closure (fun _ => Unit) (List String) .dataAvailable :=
      fun _ log => log ++ [text]
    let builder := (DdsListenerBuilder.new.onDataAvailable (note "existing")).chainDataAvailable
      (note "chained")
    (builder.build true).map (fun listener => listener.fire .dataAvailable 0 []) =
      .ok ["chained", "existing"] := by rfl

end CycloneddsRs.ListenerChains
