import CycloneddsRs.EntityTree
import CycloneddsRs.StepRuns
import Mathlib.Data.List.Count
import Mathlib.Logic.Function.Basic

/-!
common.rs, dds_domain.rs, dds_participant.rs, dds_topic.rs, dds_publisher.rs,
dds_subscriber.rs, dds_reader.rs, dds_writer.rs, dds_builtin.rs, dds_waitset.rs: which Rust
value owns which entity of the C library and in what order the two go. A drop is taken apart
into the calls its glue makes, so that the drops of several threads interleave.
-/

namespace CycloneddsRs.EntityLifetimes
open EntityTree StepRuns

abbrev Handle := Nat

inductive Kind where
  | domain | participant | topic | publisher | subscriber | writer | reader
  | builtinReader | waitset | readCondition
  deriving DecidableEq, Repr

/-- The values kept behind an `Arc`: `TopicInner`, `PublisherInner`, `SubscriberInner` and
the `ReaderInner` of a builtin reader. -/
def Kind.shared : Kind → Bool
  | .topic | .publisher | .subscriber | .builtinReader => true
  | _ => false

/-- The values that nothing below them keeps alive. -/
def Kind.root : Kind → Bool
  | .domain | .participant => true
  | _ => false

/-! ## The C library -/

/-- The calls that make an entity: `dds_create_domain`, `dds_create_participant`, and all the
others, which take a parent and a reader or writer its topic. -/
inductive Request where
  | domain (id : Nat)
  | participant (id : Nat) (listener : Option Nat)
  | child (kind : Kind) (parent : Handle) (topic : Option Handle) (listener : Option Nat)

def Request.kind : Request → Kind
  | .domain _ => .domain
  | .participant _ _ => .participant
  | .child kind _ _ _ => kind

def Request.listener : Request → Option Nat
  | .domain _ => none
  | .participant _ listener => listener
  | .child _ _ _ listener => listener

/-- What a call answers and leaves behind. Without a handle nothing was made; `dds_delete` and
`dds_set_listener` answer whether they have succeeded. -/
structure Library (State : Type) where
  start : State
  create : State → Request → Option Handle × State
  ddsDelete : State → Handle → Bool × State
  setListener : State → Handle → Nat → Bool × State

/-- An entity and the listener that was set for it. -/
structure Entity where
  kind : Kind
  own : Option Nat

/-- What there is to see of a state: the entities that are still there of those that the calls
gave out, all handles given out so far, and the listeners that may be called for an entity. -/
structure View (State : Type) where
  entities : State → Forest Handle Entity
  issued : State → Handle → Prop
  calls : State → Handle → Nat → Prop

/-- Where a new entity stands: under its parent, and a participant under its domain when that
was made by a call, too. -/
def Placed (entities : Forest Handle Entity) : Request → List Handle → Prop
  | .domain _, ancestors => ancestors = []
  | .participant _ _, ancestors => ∀ ancestor ∈ ancestors,
      ∃ own, entities.node ancestor = some { ancestors := [], info := { kind := .domain, own } }
  | .child _ parent _ _, ancestors =>
      entities.Alive parent ∧ ancestors = parent :: entities.ancestors parent

/-- What is documented of the calls. An entity that the library makes of its own accord, as the
publisher of a writer that was given a participant, comes and goes unseen. -/
structure Documented {State : Type} (library : Library State) (view : View State) : Prop where
  empty : view.entities library.start = .empty
  created : ∀ state request handle after, library.create state request = (some handle, after) →
    ¬ view.issued state handle ∧
      (∀ other, view.issued after other ↔ view.issued state other ∨ other = handle) ∧
      ∃ ancestors, Placed (view.entities state) request ancestors ∧
        view.entities after = (view.entities state).insert handle ancestors
          { kind := request.kind, own := request.listener }
  refused : ∀ state request after, library.create state request = (none, after) →
    view.entities after = view.entities state ∧ view.issued after = view.issued state
  /-- Everything below an entity is deleted with it. -/
  deleted : ∀ state handle answer after, library.ddsDelete state handle = (answer, after) →
    view.issued after = view.issued state ∧
      if (view.entities state).Alive handle then
        answer = true ∧ view.entities after = (view.entities state).delete handle
      else answer = false ∧ view.entities after = view.entities state
  listened : ∀ state handle listener answer after,
    library.setListener state handle listener = (answer, after) →
      view.issued after = view.issued state ∧
        view.entities after =
          if answer then
            (view.entities state).update handle fun entity => { entity with own := some listener }
          else view.entities state
  /-- An entity has the callbacks of its own listener and inherits those above it. -/
  called : ∀ state handle listener, view.calls state handle listener →
    ∃ node, (view.entities state).node handle = some node ∧
      (node.info.own = some listener ∨ ∃ ancestor ∈ node.ancestors, ∃ above,
        (view.entities state).node ancestor = some above ∧ above.info.own = some listener)

/-! ## Values -/

/-- How far the drop of a value has come: `Drop::drop` with its `dds_delete`, then the fields
`_topic`, `_parent` and `_listener` in this order. -/
inductive Stage where
  | owned | dropping | deleted | topicDropped | parentDropped
  deriving DecidableEq, Repr

def Stage.registered : Stage → Bool
  | .owned | .dropping => true
  | _ => false

def Stage.holdsTopic : Stage → Bool
  | .owned | .dropping | .deleted => true
  | _ => false

def Stage.holdsParent : Stage → Bool
  | .parentDropped => false
  | _ => true

/-- A Rust value that owns an entity. Only readers and writers have a topic and a parent. -/
structure Object where
  kind : Kind
  listener : Option Nat
  topic : Option Handle
  parent : Option Handle
  leaked : Bool
  stage : Stage

/-- The entities whose `Arc` the value still holds. -/
def Object.held (object : Object) : List Handle :=
  (if object.stage.holdsTopic then object.topic.toList else []) ++
    (if object.stage.holdsParent then object.parent.toList else [])

/-- `references` lists the strong references to the values behind an `Arc`: those of user
code have no holder. `unwinding` holds the drops that each thread is in the middle of, innermost
first. `deletions` has the answers to `dds_delete`. -/
structure World (State : Type) where
  library : State
  objects : Handle → Option Object
  references : List (Option Handle × Handle)
  unwinding : Nat → List Handle
  nextListener : Nat
  freed : List Nat
  deletions : List (Handle × Bool)

variable {State : Type} (library : Library State)

def World.initial : World State :=
  { library := library.start, objects := fun _ => none, references := []
    unwinding := fun _ => [], nextListener := 0, freed := [], deletions := [] }

/-! ## Creating -/

def World.takeListener (world : World State) (given : Bool) : Option Nat × World State :=
  if given then (some world.nextListener, { world with nextListener := world.nextListener + 1 })
  else (none, world)

/-- Drop of a `DdsListener`: its `Callbacks` are freed. -/
def World.freeListener (world : World State) : Option Nat → World State
  | none => world
  | some listener => { world with freed := world.freed ++ [listener] }

/-- A `dds_create_*` call with the value built around its handle. -/
def World.register (world : World State) (request : Request) (object : Object) :
    Option Handle × World State :=
  match library.create world.library request with
  | (some handle, state) =>
      (some handle, { world with
        library := state
        objects := Function.update world.objects handle (some object) })
  | (none, state) => (none, { world with library := state })

def newObject (kind : Kind) (listener : Option Nat) : Object :=
  { kind := kind, listener := listener, topic := none, parent := none, leaked := false
    stage := .owned }

def DdsDomain.create (world : World State) (id : Nat) (leaked : Bool) : World State :=
  (world.register library (.domain id) { newObject .domain none with leaked := leaked }).2

/-- With an error the listener that was passed by value is dropped. -/
def DdsParticipant.create (world : World State) (id : Nat) (leaked listener : Bool) :
    Option Handle × World State :=
  let (listener, world) := world.takeListener listener
  let object := { newObject .participant listener with leaked := leaked }
  match world.register library (.participant id listener) object with
  | (some handle, created) => (some handle, created)
  | (none, refused) => (none, refused.freeListener listener)

/-- A value behind an `Arc` below a participant, with the first reference to it. -/
def createShared (kind : Kind) (world : World State) (participant : Handle) (listener : Bool) :
    World State :=
  let (listener, world) := world.takeListener listener
  match world.register library (.child kind participant none listener)
      (newObject kind listener) with
  | (some handle, created) =>
      { created with references := (none, handle) :: created.references }
  | (none, refused) => refused.freeListener listener

def DdsTopic.create := createShared library .topic

def DdsPublisher.create := createShared library .publisher

def DdsSubscriber.create := createShared library .subscriber

def BuiltinDataReader.create := createShared library .builtinReader

def DdsWaitset.create (world : World State) (participant : Handle) : World State :=
  (world.register library (.child .waitset participant none none) (newObject .waitset none)).2

/-- It borrows the reader and has no `Drop`: the entity stays until the reader goes. -/
def DdsReadCondition.create (world : World State) (reader : Handle) : World State :=
  { world with
    library := (library.create world.library (.child .readCondition reader none none)).2 }

/-! ## Dropping -/

def restage (objects : Handle → Option Object) (handle : Handle) (stage : Stage) :
    Handle → Option Object :=
  Function.update objects handle
    ((objects handle).map fun object => { object with stage := stage })

def World.setStage (world : World State) (handle : Handle) (stage : Stage) : World State :=
  { world with objects := restage world.objects handle stage }

def World.beginDrop (world : World State) (thread : Nat) (handle : Handle) : World State :=
  { world.setStage handle .dropping with
    unwinding := Function.update world.unwinding thread (handle :: world.unwinding thread) }

/-- The end of one strong reference. With the last one the value behind it is dropped. -/
def World.release (world : World State) (thread : Nat) (holder : Option Handle)
    (target : Handle) : World State :=
  let world := { world with references := world.references.erase (holder, target) }
  if target ∈ world.references.map Prod.snd then world else world.beginDrop thread target

def World.releaseAll (world : World State) (thread : Nat) (holder : Handle) :
    Option Handle → World State
  | none => world
  | some target => world.release thread (some holder) target

def World.ddsDelete (world : World State) (handle : Handle) : World State :=
  let (answer, state) := library.ddsDelete world.library handle
  { world with library := state, deletions := world.deletions ++ [(handle, answer)] }

/-- The next call of the innermost drop of a thread. -/
def World.advance (world : World State) (thread : Nat) : Option (World State) :=
  match world.unwinding thread with
  | [] => none
  | handle :: rest =>
      (world.objects handle).bind fun object =>
        match object.stage with
        | .owned => none
        | .dropping => some ((world.ddsDelete library handle).setStage handle .deleted)
        | .deleted =>
            some ((world.setStage handle .topicDropped).releaseAll thread handle object.topic)
        | .topicDropped =>
            some ((world.setStage handle .parentDropped).releaseAll thread handle object.parent)
        | .parentDropped =>
            some { world.freeListener object.listener with
              objects := Function.update world.objects handle none
              unwinding := Function.update world.unwinding thread rest }

/-- `get_or_create` drops the participant that it has just made when there is a shared one of
that domain already, or when `domain_id` fails. Nobody else has seen it. -/
def DdsParticipant.discard (world : World State) (thread id : Nat) (listener : Bool) :
    World State :=
  match DdsParticipant.create library world id false listener with
  | (some handle, created) => created.beginDrop thread handle
  | (none, refused) => refused

/-! ## Endpoints -/

/-- `DdsReader::create` and `DdsWriter::create`. The topic comes by value: its reference goes
into the new value, or is dropped with the error. `entity.keepalive()` is a new reference to
a publisher or subscriber and nothing for a participant. -/
def createEndpoint (kind : Kind) (world : World State) (thread : Nat) (parent topic : Handle)
    (keepalive listener : Bool) : World State :=
  let (listener, world) := world.takeListener listener
  let object := { newObject kind listener with
    topic := some topic
    parent := if keepalive then some parent else none }
  match world.register library (.child kind parent (some topic) listener) object with
  | (some handle, created) =>
      let moved := (some handle, topic) :: created.references.erase (none, topic)
      { created with
        references := if keepalive then (some handle, parent) :: moved else moved }
  | (none, refused) => (refused.freeListener listener).release thread none topic

def DdsReader.create := createEndpoint library .reader

def DdsWriter.create := createEndpoint library .writer

/-- The listener that was registered before is dropped, or the new one if the call fails. -/
def DdsWriter.setListener (world : World State) (writer : Handle) (object : Object) :
    World State :=
  let listener := world.nextListener
  let world := { world with nextListener := listener + 1 }
  match library.setListener world.library writer listener with
  | (true, state) =>
      { world.freeListener object.listener with
        library := state
        objects := Function.update world.objects writer
          (some { object with listener := some listener }) }
  | (false, state) => { world with library := state }.freeListener (some listener)

/-! ## Runs -/

inductive Action where
  | createDomain (id : Nat) (leaked : Bool)
  | createParticipant (id : Nat) (leaked listener : Bool)
  | discardParticipant (thread id : Nat) (listener : Bool)
  | createShared (kind : Kind) (participant : Handle) (listener : Bool)
  | createWaitset (participant : Handle)
  | createReadCondition (reader : Handle)
  | createEndpoint (kind : Kind) (thread : Nat) (parent topic : Handle) (listener : Bool)
  | setListener (writer : Handle)
  | cloneHandle (handle : Handle)
  | dropHandle (thread : Nat) (handle : Handle)
  | dropUnique (thread : Nat) (handle : Handle)
  | advance (thread : Nat)

/-- A value of this kind that a caller can still borrow. -/
def World.Borrows (world : World State) (kind : Kind) (handle : Handle) : Prop :=
  ∃ object ∈ world.objects handle, object.kind = kind ∧ object.stage = .owned

instance (world : World State) (kind : Kind) (handle : Handle) :
    Decidable (world.Borrows kind handle) :=
  inferInstanceAs (Decidable (∃ object ∈ world.objects handle, _))

/-- The publisher of a writer, the subscriber of a reader. -/
def Kind.keeper : Kind → Kind
  | .writer => .publisher
  | _ => .subscriber

/-- A call is refused where the borrow checker refuses it: what it borrows or moves must be
there, and a thread in the middle of a drop finishes that first. -/
def step (world : World State) : Action → Option (World State)
  | .createDomain id leaked => some (DdsDomain.create library world id leaked)
  | .createParticipant id leaked listener =>
      some (DdsParticipant.create library world id leaked listener).2
  | .discardParticipant thread id listener =>
      if world.unwinding thread = [] then
        some (DdsParticipant.discard library world thread id listener)
      else none
  | .createShared kind participant listener =>
      if kind.shared ∧ world.Borrows .participant participant then
        some (createShared library kind world participant listener)
      else none
  | .createWaitset participant =>
      if world.Borrows .participant participant then
        some (DdsWaitset.create library world participant)
      else none
  | .createReadCondition reader =>
      if world.Borrows .reader reader then some (DdsReadCondition.create library world reader)
      else none
  | .createEndpoint kind thread parent topic listener =>
      if (kind = .reader ∨ kind = .writer) ∧ world.unwinding thread = [] ∧
          (none, topic) ∈ world.references ∧ world.Borrows .topic topic then
        if world.Borrows .participant parent then
          some (createEndpoint library kind world thread parent topic false listener)
        else if (none, parent) ∈ world.references ∧ world.Borrows kind.keeper parent then
          some (createEndpoint library kind world thread parent topic true listener)
        else none
      else none
  | .setListener writer =>
      (world.objects writer).bind fun object =>
        if object.kind = .writer ∧ object.stage = .owned then
          some (DdsWriter.setListener library world writer object)
        else none
  | .cloneHandle handle =>
      if (none, handle) ∈ world.references then
        some { world with references := (none, handle) :: world.references }
      else none
  | .dropHandle thread handle =>
      if world.unwinding thread = [] ∧ (none, handle) ∈ world.references then
        some (world.release thread none handle)
      else none
  | .dropUnique thread handle =>
      (world.objects handle).bind fun object =>
        if world.unwinding thread = [] ∧ ¬ object.kind.shared ∧ ¬ object.leaked ∧
            object.stage = .owned then
          some (world.beginDrop thread handle)
        else none
  | .advance thread => world.advance library thread

end CycloneddsRs.EntityLifetimes
