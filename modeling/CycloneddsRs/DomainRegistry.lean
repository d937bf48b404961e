import CycloneddsRs.DdsError
import CycloneddsRs.StepRuns
import Mathlib.Logic.Function.Basic

/-!
shared_registry.rs: entities kept for the life of the process, one for a domain
id. A call runs under the mutex, so a history is a list of calls. An entity that
is leaked stays for good; its address is its position among the leaked ones. The
real id of an entity is known only after its creation.
-/

namespace CycloneddsRs.DomainRegistry

open DdsError StepRuns

abbrev DdsDomainId := UInt32

def ddsDomainDefault : DdsDomainId := 0xFFFFFFFF

structure SharedRegistry (T : Type) where
  entries : DdsDomainId → Option Nat
  leaked : List T

inductive Shared where
  | existing (entity : Nat)
  | created (entity : Nat)
  deriving DecidableEq, Repr

def Shared.entity : Shared → Nat
  | .existing entity | .created entity => entity

/-- What a call leaves behind: besides its result and the registry, the entity
that it dropped. -/
structure Outcome (T : Type) where
  result : Except DDSError Shared
  registry : SharedRegistry T
  dropped : Option T

section Registry

variable {T : Type}

def SharedRegistry.new : SharedRegistry T := { entries := fun _ => none, leaked := [] }

def SharedRegistry.insert (registry : SharedRegistry T) (key : DdsDomainId) (entity : Nat) :
    SharedRegistry T :=
  { registry with entries := Function.update registry.entries key (some entity) }

/-- `Box::leak`; the new entity gets the next address. -/
def SharedRegistry.leak (registry : SharedRegistry T) (entity : T) : SharedRegistry T :=
  { registry with leaked := registry.leaked ++ [entity] }

@[simp] theorem insert_entries (registry : SharedRegistry T) (key other : DdsDomainId)
    (entity : Nat) : (registry.insert key entity).entries other =
      if other = key then some entity else registry.entries other :=
  Function.update_apply registry.entries key (some entity) other

@[simp] theorem insert_leaked (registry : SharedRegistry T) (key : DdsDomainId) (entity : Nat) :
    (registry.insert key entity).leaked = registry.leaked := rfl

@[simp] theorem leak_entries (registry : SharedRegistry T) (entity : T) :
    (registry.leak entity).entries = registry.entries := rfl

/-- The closures are called at most once: `create` is its outcome. -/
def SharedRegistry.getOrCreate (registry : SharedRegistry T) (key : DdsDomainId)
    (create : Except DDSError T) (resolveKey : T → Except DDSError DdsDomainId) : Outcome T :=
  match registry.entries key with
  | some entity => { result := .ok (.existing entity), registry := registry, dropped := none }
  | none =>
      match create with
      | .error error => { result := .error error, registry := registry, dropped := none }
      | .ok entity =>
          match resolveKey entity with
          -- The early return between creation and registration.
          | .error error =>
              { result := .error error, registry := registry, dropped := some entity }
          | .ok actual =>
              match registry.entries actual with
              | some existing =>
                  { result := .ok (.existing existing)
                    registry := registry.insert key existing
                    dropped := some entity }
              | none =>
                  let leaked := registry.leaked.length
                  let registered := (registry.leak entity).insert actual leaked
                  { result := .ok (.created leaked)
                    registry := if key = actual then registered else registered.insert key leaked
                    dropped := none }

end Registry

/-- The two callers of the registry. A QoS or a listener, or another configuration
than the one in use, is refused when the entity exists already. -/
def DdsParticipant.getOrCreateWith {T Qos Listener : Type} (registry : SharedRegistry T)
    (maybeDomain : Option DdsDomainId) (maybeQos : Option Qos) (maybeListener : Option Listener)
    (create : Option DdsDomainId → Option Qos → Option Listener → Except DDSError T)
    (domainId : T → Except DDSError DdsDomainId) : Except DDSError Nat × Outcome T :=
  let hasExplicitArgs := maybeQos.isSome || maybeListener.isSome
  let shared := registry.getOrCreate (maybeDomain.getD ddsDomainDefault)
    (create maybeDomain maybeQos maybeListener) domainId
  let result := match shared.result with
    | .error error => .error error
    | .ok (.created participant) => .ok participant
    | .ok (.existing participant) =>
        if hasExplicitArgs then .error .preconditionNotMet else .ok participant
  (result, shared)

structure DdsDomain where
  entity : Int
  config : Option String
  deriving DecidableEq, Repr

def DdsDomain.getOrCreate (registry : SharedRegistry DdsDomain) (domain : DdsDomainId)
    (config : Option String)
    (create : DdsDomainId → Option String → Except DDSError DdsDomain) :
    Except DDSError Nat × Outcome DdsDomain :=
  let shared := registry.getOrCreate domain (create domain config) fun _ => .ok domain
  let result := match shared.result with
    | .error error => .error error
    | .ok (.created domain) => .ok domain
    | .ok (.existing existing) =>
        let inUse := (shared.registry.leaked[existing]?).bind DdsDomain.config
        if config = none ∨ config = inUse then .ok existing else .error .preconditionNotMet
  (result, shared)

theorem getOrCreate_mapped {T : Type} (registry : SharedRegistry T) (key : DdsDomainId)
    (create : Except DDSError T) (resolveKey : T → Except DDSError DdsDomainId) (shared : Shared)
    (returned : (registry.getOrCreate key create resolveKey).result = .ok shared) :
    (registry.getOrCreate key create resolveKey).registry.entries key = some shared.entity := by
  unfold SharedRegistry.getOrCreate at returned ⊢
  cases mapped : registry.entries key with
  | some entity =>
      simp only [mapped, Except.ok.injEq] at returned ⊢
      rw [← returned]
      rfl
  | none =>
      cases create with
      | error error => simp [mapped] at returned
      | ok entity =>
          cases answer : resolveKey entity with
          | error error => simp [mapped, answer] at returned
          | ok actual =>
              cases held : registry.entries actual with
              | some existing =>
                  simp only [mapped, answer, held, Except.ok.injEq] at returned ⊢
                  simp [← returned, Shared.entity]
              | none =>
                  simp only [mapped, answer, held, Except.ok.injEq] at returned ⊢
                  by_cases same : key = actual <;> simp [same, ← returned, Shared.entity]

/-- What a caller gets back is what the registry holds for its key from then on. -/
theorem participant_mapped {T Qos Listener : Type} (registry : SharedRegistry T)
    (maybeDomain : Option DdsDomainId) (maybeQos : Option Qos) (maybeListener : Option Listener)
    (create : Option DdsDomainId → Option Qos → Option Listener → Except DDSError T)
    (domainId : T → Except DDSError DdsDomainId) (participant : Nat)
    (returned : (DdsParticipant.getOrCreateWith registry maybeDomain maybeQos maybeListener create
      domainId).1 = .ok participant) :
    (DdsParticipant.getOrCreateWith registry maybeDomain maybeQos maybeListener create
      domainId).2.registry.entries (maybeDomain.getD ddsDomainDefault) = some participant := by
  simp only [DdsParticipant.getOrCreateWith] at returned ⊢
  split at returned
  · cases returned
  · rename_i answer
    cases returned
    exact getOrCreate_mapped _ _ _ _ _ answer
  · rename_i answer
    split at returned <;> cases returned
    exact getOrCreate_mapped _ _ _ _ _ answer

theorem domain_mapped (registry : SharedRegistry DdsDomain) (domain : DdsDomainId)
    (config : Option String) (create : DdsDomainId → Option String → Except DDSError DdsDomain)
    (instanceId : Nat)
    (returned : (DdsDomain.getOrCreate registry domain config create).1 = .ok instanceId) :
    (DdsDomain.getOrCreate registry domain config create).2.registry.entries domain =
      some instanceId := by
  simp only [DdsDomain.getOrCreate] at returned ⊢
  split at returned
  · cases returned
  · rename_i answer
    cases returned
    exact getOrCreate_mapped _ _ _ _ _ answer
  · rename_i answer
    split at returned <;> cases returned
    exact getOrCreate_mapped _ _ _ _ _ answer

section Histories

variable {T : Type} (actualId : T → DdsDomainId)

/-- One call. `resolve_key` may fail, but what it answers is the fixed id of the
entity; an entity created for an explicit key has that key. -/
structure Call where
  key : DdsDomainId
  create : Except DDSError T
  resolveKey : T → Except DDSError DdsDomainId
  resolved : ∀ entity id, create = .ok entity → resolveKey entity = .ok id →
    id = actualId entity
  explicitKey : ∀ entity, create = .ok entity → key ≠ ddsDomainDefault → actualId entity = key

variable {actualId}

def Call.run (call : Call actualId) (registry : SharedRegistry T) : Outcome T :=
  registry.getOrCreate call.key call.create call.resolveKey

/-- Everything a call can do. -/
inductive CallCase (call : Call actualId) (registry : SharedRegistry T) : Outcome T → Prop where
  | hit (entity : Nat) :
      registry.entries call.key = some entity →
      CallCase call registry
        { result := .ok (.existing entity), registry := registry, dropped := none }
  | createFailed (error : DDSError) :
      registry.entries call.key = none → call.create = .error error →
      CallCase call registry { result := .error error, registry := registry, dropped := none }
  | resolveFailed (entity : T) (error : DDSError) :
      registry.entries call.key = none → call.create = .ok entity →
      call.resolveKey entity = .error error →
      CallCase call registry
        { result := .error error, registry := registry, dropped := some entity }
  | discarded (entity : T) (existing : Nat) :
      registry.entries call.key = none → call.create = .ok entity →
      call.resolveKey entity = .ok (actualId entity) →
      registry.entries (actualId entity) = some existing →
      CallCase call registry
        { result := .ok (.existing existing)
          registry := registry.insert call.key existing
          dropped := some entity }
  | created (entity : T) (after : SharedRegistry T) :
      registry.entries call.key = none → call.create = .ok entity →
      call.resolveKey entity = .ok (actualId entity) →
      registry.entries (actualId entity) = none →
      after.leaked = registry.leaked ++ [entity] →
      (∀ key, after.entries key =
        if key = call.key ∨ key = actualId entity then some registry.leaked.length
        else registry.entries key) →
      CallCase call registry
        { result := .ok (.created registry.leaked.length), registry := after, dropped := none }

theorem run_cases (call : Call actualId) (registry : SharedRegistry T) :
    CallCase call registry (call.run registry) := by
  unfold Call.run SharedRegistry.getOrCreate
  cases mapped : registry.entries call.key with
  | some entity => exact .hit entity mapped
  | none =>
      cases made : call.create with
      | error error => exact .createFailed error mapped made
      | ok entity =>
          cases answer : call.resolveKey entity with
          | error error => simpa [answer] using CallCase.resolveFailed entity error mapped made answer
          | ok id =>
              obtain rfl := call.resolved entity id made answer
              cases held : registry.entries (actualId entity) with
              | some existing =>
                  simpa [answer, held] using CallCase.discarded entity existing mapped made answer held
              | none =>
                  simp only [answer, held]
                  apply CallCase.created entity _ mapped made answer held
                  · split <;> rfl
                  · intro key
                    split
                    · rename_i same
                      simp [same]
                    · by_cases asked : key = call.key <;> simp [asked]

/-! What holds of every registry, and how a registry grows. -/

structure Inv (actualId : T → DdsDomainId) (registry : SharedRegistry T) : Prop where
  bounded : ∀ key address, registry.entries key = some address → address < registry.leaked.length
  registered : ∀ address entity, registry.leaked[address]? = some entity →
    registry.entries (actualId entity) = some address
  explicitKey : ∀ key address entity, registry.entries key = some address →
    registry.leaked[address]? = some entity → key ≠ ddsDomainDefault → actualId entity = key

structure Extends (before after : SharedRegistry T) : Prop where
  entries : ∀ key address, before.entries key = some address →
    after.entries key = some address
  leaked : before.leaked <+: after.leaked

theorem Extends.leaked_some {before after : SharedRegistry T} (grown : Extends before after)
    (address : Nat) (entity : T) (present : before.leaked[address]? = some entity) :
    after.leaked[address]? = some entity := by
  obtain ⟨bounded, -⟩ := List.getElem?_eq_some_iff.mp present
  obtain ⟨new, grown⟩ := grown.leaked
  rw [← grown, List.getElem?_append_left bounded]
  exact present

theorem Extends.refl (registry : SharedRegistry T) : Extends registry registry :=
  ⟨fun _ _ held => held, List.prefix_rfl⟩

theorem Extends.trans {first second third : SharedRegistry T} (left : Extends first second)
    (right : Extends second third) : Extends first third :=
  ⟨fun key address held => right.entries key address (left.entries key address held),
    left.leaked.trans right.leaked⟩

theorem new_inv : Inv actualId (SharedRegistry.new : SharedRegistry T) := by
  constructor <;> simp [SharedRegistry.new]

theorem case_extends (call : Call actualId) (registry : SharedRegistry T) (outcome : Outcome T)
    (done : CallCase call registry outcome) : Extends registry outcome.registry := by
  cases done with
  | hit | createFailed | resolveFailed => exact .refl registry
  | discarded entity existing unmapped =>
      refine ⟨?_, List.prefix_rfl⟩
      intro key address held
      have other : key ≠ call.key := by
        rintro rfl
        simp [unmapped] at held
      simpa [other] using held
  | created entity after unmapped _ _ fresh leaked entries =>
      refine ⟨?_, ⟨[entity], leaked.symm⟩⟩
      intro key address held
      have other : ¬ (key = call.key ∨ key = actualId entity) := by
        rintro (rfl | rfl)
        · simp [unmapped] at held
        · simp [fresh] at held
      simpa [entries, other] using held

theorem discarded_inv (call : Call actualId) (registry : SharedRegistry T) (entity : T)
    (existing : Nat) (inv : Inv actualId registry) (unmapped : registry.entries call.key = none)
    (made : call.create = .ok entity)
    (held : registry.entries (actualId entity) = some existing) :
    Inv actualId (registry.insert call.key existing) := by
  have bounded := inv.bounded (actualId entity) existing held
  -- An explicit key is the id of the entity, which is mapped already.
  have default : call.key = ddsDomainDefault := by
    by_contra explicitKey
    rw [call.explicitKey entity made explicitKey, unmapped] at held
    cases held
  constructor
  · intro key address found
    rw [insert_entries] at found
    split at found
    · cases found
      exact bounded
    · exact inv.bounded key address found
  · intro address other present
    have own := inv.registered address other present
    have kept : actualId other ≠ call.key := by
      intro same
      rw [same, unmapped] at own
      cases own
    simpa [kept] using own
  · intro key address other found present explicitKey
    have kept : key ≠ call.key := fun same => explicitKey (same.trans default)
    exact inv.explicitKey key address other (by simpa [kept] using found) present explicitKey

theorem created_inv (call : Call actualId) (registry after : SharedRegistry T) (entity : T)
    (inv : Inv actualId registry) (made : call.create = .ok entity)
    (fresh : registry.entries (actualId entity) = none)
    (leaked : after.leaked = registry.leaked ++ [entity])
    (entries : ∀ key, after.entries key =
      if key = call.key ∨ key = actualId entity then some registry.leaked.length
      else registry.entries key)
    (unmapped : registry.entries call.key = none) : Inv actualId after := by
  constructor
  · intro key address found
    rw [entries] at found
    rw [leaked, List.length_append]
    split at found
    · cases found
      exact Nat.lt_succ_self _
    · exact Nat.lt_succ_of_lt (inv.bounded key address found)
  · intro address other present
    rw [leaked, List.getElem?_append] at present
    rw [entries]
    split at present
    · have own := inv.registered address other present
      have kept : ¬ (actualId other = call.key ∨ actualId other = actualId entity) := by
        rintro (same | same) <;> rw [same] at own
        · simp [unmapped] at own
        · simp [fresh] at own
      simpa [kept] using own
    · rename_i beyond
      rw [List.getElem?_singleton] at present
      obtain ⟨start, ⟨⟩⟩ := Option.ite_none_right_eq_some.mp present
      have position : address = registry.leaked.length := by omega
      simp [position]
  · intro key address other found present explicitKey
    rw [entries] at found
    rw [leaked] at present
    split at found
    · rename_i asked
      cases found
      obtain rfl : entity = other := by simpa using present
      rcases asked with rfl | same
      · exact call.explicitKey entity made explicitKey
      · exact same.symm
    · have bounded := inv.bounded key address found
      rw [List.getElem?_append_left bounded] at present
      exact inv.explicitKey key address other found present explicitKey

theorem case_inv (call : Call actualId) (registry : SharedRegistry T) (outcome : Outcome T)
    (inv : Inv actualId registry) (done : CallCase call registry outcome) :
    Inv actualId outcome.registry := by
  cases done with
  | hit | createFailed | resolveFailed => exact inv
  | discarded entity existing unmapped made _ held =>
      exact discarded_inv call registry entity existing inv unmapped made held
  | created entity after unmapped made _ fresh leaked entries =>
      exact created_inv call registry after entity inv made fresh leaked entries unmapped

/-! Histories -/

/-- A call with the registry that it found. -/
structure Event (actualId : T → DdsDomainId) where
  before : SharedRegistry T
  call : Call actualId

def Event.outcome (event : Event actualId) : Outcome T := event.call.run event.before

def Event.after (event : Event actualId) : SharedRegistry T := event.outcome.registry

/-- The instance that the call returned. -/
def Event.instance? (event : Event actualId) : Option Nat :=
  match event.outcome.result with
  | .ok shared => some shared.entity
  | .error _ => none

def Event.createdId (event : Event actualId) : Option DdsDomainId :=
  match event.outcome.result with
  | .ok (.created entity) => (event.after.leaked[entity]?).map actualId
  | _ => none

/-- What `resolve_key` answered, if the call came that far. -/
def Event.resolvedId (event : Event actualId) : Option DdsDomainId :=
  match event.before.entries event.call.key, event.call.create with
  | none, .ok entity =>
      match event.call.resolveKey entity with
      | .ok id => some id
      | .error _ => none
  | _, _ => none

def replay : SharedRegistry T → List (Call actualId) → List (Event actualId)
  | _, [] => []
  | registry, call :: rest =>
      let event : Event actualId := { before := registry, call := call }
      event :: replay event.after rest

def final (registry : SharedRegistry T) (calls : List (Call actualId)) : SharedRegistry T :=
  calls.foldl (fun registry call => (call.run registry).registry) registry

/-- An explicit key denotes itself, the default what `resolve_key` answered for it. -/
def Denotes (history : List (Event actualId)) (event : Event actualId) (id : DdsDomainId) : Prop :=
  (event.call.key ≠ ddsDomainDefault ∧ id = event.call.key) ∨
    (event.call.key = ddsDomainDefault ∧
      ∃ mapping ∈ history, mapping.call.key = ddsDomainDefault ∧ mapping.resolvedId = some id)

structure OneSharedEntity (calls : List (Call actualId)) : Prop where
  createdOnce : (replay .new calls).Pairwise fun earlier later =>
    ∀ id, earlier.createdId = some id → later.createdId ≠ some id
  sameInstance : ∀ left ∈ replay .new calls, ∀ right ∈ replay .new calls,
    ∀ leftEntity rightEntity id,
      left.instance? = some leftEntity → right.instance? = some rightEntity →
      Denotes (replay .new calls) left id → Denotes (replay .new calls) right id →
        leftEntity = rightEntity
  denotes : ∀ event ∈ replay .new calls, event.instance?.isSome →
    ∃ id, Denotes (replay .new calls) event id
  kept : ∀ earlier later, calls = earlier ++ later → ∀ key address,
    (final .new earlier).entries key = some address →
      (final .new calls).entries key = some address
  sameEntry : ∀ key address, (final .new calls).entries key = some address →
    ∃ entity, (final .new calls).leaked[address]? = some entity ∧
      (final .new calls).entries (actualId entity) = some address
  failed : ∀ event ∈ replay .new calls, ∀ error, event.outcome.result = .error error →
    event.after = event.before

theorem event_case (event : Event actualId) : CallCase event.call event.before event.outcome :=
  run_cases event.call event.before

theorem final_extends (registry : SharedRegistry T) (calls : List (Call actualId)) :
    Extends registry (final registry calls) := by
  induction calls generalizing registry with
  | nil => exact .refl registry
  | cons call rest ih =>
      exact (case_extends call registry _ (run_cases call registry)).trans (ih _)

theorem final_inv (registry : SharedRegistry T) (calls : List (Call actualId))
    (inv : Inv actualId registry) : Inv actualId (final registry calls) := by
  induction calls generalizing registry with
  | nil => exact inv
  | cons call rest ih => exact ih _ (case_inv call registry _ inv (run_cases call registry))

/-- Where an event of a history stands: between the first and the last registry. -/
theorem replay_between (registry : SharedRegistry T) (calls : List (Call actualId))
    (inv : Inv actualId registry) (event : Event actualId) (member : event ∈ replay registry calls) :
    Inv actualId event.before ∧ Extends registry event.before ∧
      Extends event.after (final registry calls) := by
  induction calls generalizing registry with
  | nil => cases member
  | cons call rest ih =>
      have head := run_cases call registry
      rcases List.mem_cons.mp member with rfl | later
      · exact ⟨inv, .refl registry, final_extends _ rest⟩
      · obtain ⟨before, grown, bounded⟩ := ih _ (case_inv call registry _ inv head) later
        exact ⟨before, (case_extends call registry _ head).trans grown, bounded⟩

/-- An existing entity behind the id of a discarded one has that id too. -/
theorem discarded_id (call : Call actualId) (registry : SharedRegistry T) (entity : T)
    (existing : Nat) (inv : Inv actualId registry) (unmapped : registry.entries call.key = none)
    (made : call.create = .ok entity)
    (held : registry.entries (actualId entity) = some existing) :
    ∃ other, registry.leaked[existing]? = some other ∧ actualId other = actualId entity := by
  have bounded := inv.bounded (actualId entity) existing held
  have present := List.getElem?_eq_getElem bounded
  refine ⟨_, present, inv.explicitKey (actualId entity) existing _ held present ?_⟩
  intro default
  by_cases asked : call.key = ddsDomainDefault
  · rw [default, ← asked, unmapped] at held
    cases held
  · rw [call.explicitKey entity made asked, unmapped] at held
    cases held

theorem event_mapped (event : Event actualId) (address : Nat)
    (returned : event.instance? = some address) :
    event.after.entries event.call.key = some address := by
  rw [Event.instance?] at returned
  split at returned
  · rename_i shared answer
    cases returned
    exact getOrCreate_mapped _ _ _ _ _ answer
  · cases returned

theorem event_resolved (event : Event actualId) (inv : Inv actualId event.before)
    (id : DdsDomainId) (resolved : event.resolvedId = some id) :
    ∃ address entity, event.after.entries event.call.key = some address ∧
      event.after.leaked[address]? = some entity ∧ actualId entity = id := by
  have done := event_case event
  rw [Event.after]
  generalize event.outcome = outcome at done ⊢
  cases done with
  | hit entity mapped => simp [Event.resolvedId, mapped] at resolved
  | createFailed error unmapped made => simp [Event.resolvedId, unmapped, made] at resolved
  | resolveFailed entity error unmapped made answer =>
      simp [Event.resolvedId, unmapped, made, answer] at resolved
  | discarded entity existing unmapped made answer held =>
      obtain ⟨other, present, same⟩ :=
        discarded_id event.call event.before entity existing inv unmapped made held
      have asked : actualId entity = id := by
        simpa [Event.resolvedId, unmapped, made, answer] using resolved
      exact ⟨existing, other, by simp, present, same.trans asked⟩
  | created entity after unmapped made answer fresh leaked entries =>
      have asked : actualId entity = id := by
        simpa [Event.resolvedId, unmapped, made, answer] using resolved
      exact ⟨event.before.leaked.length, entity, by simp [entries], by simp [leaked], asked⟩

theorem event_createdId (event : Event actualId) (id : DdsDomainId)
    (created : event.createdId = some id) :
    event.before.entries id = none ∧ event.after.entries id ≠ none := by
  have done := event_case event
  rw [Event.createdId, Event.after] at created
  rw [Event.after]
  generalize event.outcome = outcome at done created ⊢
  cases done with
  | hit | createFailed | resolveFailed | discarded => cases created
  | created entity after unmapped made answer fresh leaked entries =>
      have asked : actualId entity = id := by simpa [leaked] using created
      subst asked
      exact ⟨fresh, by simp [entries]⟩

/-- Only a call for the default maps it, after `resolve_key` has answered. -/
theorem event_default (event : Event actualId)
    (unmapped : event.before.entries ddsDomainDefault = none)
    (mapped : event.after.entries ddsDomainDefault ≠ none) :
    event.call.key = ddsDomainDefault ∧ event.resolvedId.isSome := by
  have done := event_case event
  rw [Event.after] at mapped
  generalize event.outcome = outcome at done mapped
  cases done with
  | hit | createFailed | resolveFailed => exact absurd unmapped mapped
  | discarded entity existing free made answer =>
      have asked : event.call.key = ddsDomainDefault := by
        by_contra other
        simp [Ne.symm other, unmapped] at mapped
      exact ⟨asked, by simp [Event.resolvedId, free, made, answer]⟩
  | created entity after free made answer fresh leaked entries =>
      have asked : event.call.key = ddsDomainDefault := by
        by_contra other
        have explicitKey := event.call.explicitKey entity made other
        simp [entries, explicitKey, Ne.symm other, unmapped] at mapped
      exact ⟨asked, by simp [Event.resolvedId, free, made, answer]⟩

theorem default_resolved (registry : SharedRegistry T) (calls : List (Call actualId))
    (event : Event actualId) (member : event ∈ replay registry calls)
    (asked : event.call.key = ddsDomainDefault) (answered : event.instance?.isSome)
    (unmapped : registry.entries ddsDomainDefault = none) :
    ∃ mapping ∈ replay registry calls, mapping.call.key = ddsDomainDefault ∧
      mapping.resolvedId.isSome := by
  induction calls generalizing registry with
  | nil => cases member
  | cons call rest ih =>
      let head : Event actualId := { before := registry, call := call }
      by_cases maps : head.after.entries ddsDomainDefault = none
      · rcases List.mem_cons.mp member with rfl | later
        · obtain ⟨address, returned⟩ := Option.isSome_iff_exists.mp answered
          have mapped := event_mapped _ address returned
          rw [asked] at mapped
          exact absurd (mapped.symm.trans maps) nofun
        · obtain ⟨mapping, inside, found⟩ := ih head.after later maps
          exact ⟨mapping, List.mem_cons_of_mem head inside, found⟩
      · exact ⟨head, List.mem_cons_self, event_default head unmapped maps⟩

/-- In the last registry of a history an instance that was returned has the id that
the call denotes. -/
theorem denotes_id (calls : List (Call actualId)) (event : Event actualId)
    (member : event ∈ replay .new calls) (address : Nat) (id : DdsDomainId)
    (returned : event.instance? = some address)
    (denoted : Denotes (replay .new calls) event id) :
    ∃ entity, (final .new calls).leaked[address]? = some entity ∧ actualId entity = id := by
  have last : Inv actualId (final .new calls) := final_inv .new calls new_inv
  obtain ⟨-, -, grown⟩ := replay_between .new calls new_inv event member
  have mapped := grown.entries _ address (event_mapped event address returned)
  have present := List.getElem?_eq_getElem (last.bounded _ address mapped)
  rcases denoted with ⟨explicitKey, rfl⟩ | ⟨default, mapping, inside, asked, resolved⟩
  · exact ⟨_, present, last.explicitKey _ address _ mapped present explicitKey⟩
  · obtain ⟨before, -, mappingGrown⟩ := replay_between .new calls new_inv mapping inside
    obtain ⟨first, entity, held, leaked, same⟩ := event_resolved mapping before id resolved
    have present := mappingGrown.leaked_some first entity leaked
    have kept := mappingGrown.entries _ first held
    -- Both calls asked for the default, so both found the one entry of it.
    rw [asked, ← default, mapped] at kept
    cases kept
    exact ⟨entity, present, same⟩

theorem denoted (calls : List (Call actualId)) (event : Event actualId)
    (member : event ∈ replay .new calls) (answered : event.instance?.isSome) :
    ∃ id, Denotes (replay .new calls) event id := by
  by_cases asked : event.call.key = ddsDomainDefault
  · obtain ⟨mapping, inside, same, resolved⟩ :=
      default_resolved .new calls event member asked answered rfl
    obtain ⟨id, resolved⟩ := Option.isSome_iff_exists.mp resolved
    exact ⟨id, .inr ⟨asked, mapping, inside, same, resolved⟩⟩
  · exact ⟨_, .inl ⟨asked, rfl⟩⟩

theorem replay_createdOnce (registry : SharedRegistry T) (calls : List (Call actualId))
    (inv : Inv actualId registry) :
    (replay registry calls).Pairwise fun earlier later =>
      ∀ id, earlier.createdId = some id → later.createdId ≠ some id := by
  induction calls generalizing registry with
  | nil => exact List.Pairwise.nil
  | cons call rest ih =>
      let head : Event actualId := { before := registry, call := call }
      have after : Inv actualId head.after := case_inv call registry _ inv (run_cases call registry)
      refine List.pairwise_cons.mpr ⟨?_, ih head.after after⟩
      intro later member id first second
      obtain ⟨-, grown, -⟩ := replay_between head.after rest after later member
      obtain ⟨-, taken⟩ := event_createdId head id first
      obtain ⟨free, -⟩ := event_createdId later id second
      obtain ⟨address, held⟩ := Option.ne_none_iff_exists'.mp taken
      rw [grown.entries id address held] at free
      cases free

theorem one_shared_entity (calls : List (Call actualId)) : OneSharedEntity calls := by
  have last : Inv actualId (final .new calls) := final_inv .new calls new_inv
  constructor
  · exact replay_createdOnce .new calls new_inv
  · intro left leftMember right rightMember leftEntity rightEntity id leftReturned rightReturned
      leftDenotes rightDenotes
    obtain ⟨first, firstLeaked, firstId⟩ :=
      denotes_id calls left leftMember leftEntity id leftReturned leftDenotes
    obtain ⟨second, secondLeaked, secondId⟩ :=
      denotes_id calls right rightMember rightEntity id rightReturned rightDenotes
    have firstEntry := last.registered leftEntity first firstLeaked
    have secondEntry := last.registered rightEntity second secondLeaked
    rw [firstId] at firstEntry
    rw [secondId] at secondEntry
    exact Option.some.inj (firstEntry.symm.trans secondEntry)
  · exact denoted calls
  · rintro earlier later rfl key address held
    rw [final, List.foldl_append]
    exact (final_extends _ later).entries key address held
  · intro key address held
    have present := List.getElem?_eq_getElem (last.bounded key address held)
    exact ⟨_, present, last.registered address _ present⟩
  · intro event _ error failed
    have done := event_case event
    rw [Event.after]
    generalize event.outcome = outcome at done failed ⊢
    cases done with
    | createFailed | resolveFailed => rfl
    | hit | discarded | created => cases failed

def sharedCall (key actual : DdsDomainId) (same : key ≠ ddsDomainDefault → actual = key) :
    Call (id : DdsDomainId → DdsDomainId) :=
  { key := key
    create := .ok actual
    resolveKey := .ok
    resolved := by
      rintro entity id - ⟨⟩
      rfl
    explicitKey := by
      rintro entity ⟨⟩
      exact same }

/-- The participant of domain 5 is made for the default and found by its own id; domain 7 gets
another one. -/
def sharedCalls : List (Call (id : DdsDomainId → DdsDomainId)) :=
  [sharedCall ddsDomainDefault 5 (absurd rfl), sharedCall 5 5 fun _ => rfl,
    sharedCall 7 7 fun _ => rfl]

theorem one_shared_entity_sharedCalls :
    (replay .new sharedCalls).map Event.instance? = [some 0, some 0, some 1] ∧
      OneSharedEntity sharedCalls :=
  ⟨rfl, one_shared_entity sharedCalls⟩

/-! What a call drops. -/

def step (registry : SharedRegistry T) (call : Call actualId) : Option (SharedRegistry T) :=
  some (call.run registry).registry

/-- An entry leads to an entity of that id. Entities behind entries are never dropped. -/
def Alive (actualId : T → DdsDomainId) (registry : SharedRegistry T) (id : DdsDomainId) : Prop :=
  ∃ key address live, registry.entries key = some address ∧
    registry.leaked[address]? = some live ∧ actualId live = id

/-- The SAFETY comments of the two callers: an entity is dropped only while a shared
one of the same domain is alive. -/
def DropsGuarded (registry : SharedRegistry T) (call : Call actualId) : Prop :=
  ∀ entity, (call.run registry).dropped = some entity →
    Alive actualId registry (actualId entity)

/-- A `resolve_key` that fails does so on an entity whose domain is registered. -/
def FailsLate (registry : SharedRegistry T) (call : Call actualId) : Prop :=
  ∀ entity error, registry.entries call.key = none → call.create = .ok entity →
    call.resolveKey entity = .error error → registry.entries (actualId entity) ≠ none

theorem dropsGuarded_iff (registry : SharedRegistry T) (call : Call actualId)
    (inv : Inv actualId registry) : DropsGuarded registry call ↔ FailsLate registry call := by
  have done := run_cases call registry
  rw [DropsGuarded]
  generalize call.run registry = outcome at done ⊢
  have alive : ∀ entity, registry.entries call.key = none → call.create = .ok entity →
      registry.entries (actualId entity) ≠ none → Alive actualId registry (actualId entity) := by
    intro entity unmapped made taken
    obtain ⟨existing, held⟩ := Option.ne_none_iff_exists'.mp taken
    obtain ⟨live, present, same⟩ := discarded_id call registry entity existing inv unmapped made held
    exact ⟨_, existing, live, held, present, same⟩
  cases done with
  | hit entity mapped =>
      apply iff_of_true nofun
      intro entity error unmapped
      simp [mapped] at unmapped
  | createFailed error _ made =>
      apply iff_of_true nofun
      intro entity error _ created
      simp [made] at created
  | resolveFailed entity error unmapped made answer =>
      constructor
      · intro guarded other error _ created _
        obtain rfl : entity = other := by simpa [made] using created
        obtain ⟨key, address, live, -, present, same⟩ := guarded entity rfl
        rw [← same, inv.registered address live present]
        nofun
      · rintro late other ⟨⟩
        exact alive entity unmapped made (late entity error unmapped made answer)
  | discarded entity existing unmapped made answer held =>
      apply iff_of_true
      · rintro other ⟨⟩
        exact alive entity unmapped made (by simp [held])
      · intro other error _ created failed
        obtain rfl : entity = other := by simpa [made] using created
        simp [answer] at failed
  | created entity after unmapped made answer =>
      apply iff_of_true nofun
      intro other error _ created failed
      obtain rfl : entity = other := by simpa [made] using created
      simp [answer] at failed

theorem drops_guarded_iff (calls : List (Call actualId)) :
    Along step (fun registry call _ => DropsGuarded registry call) .new calls ↔
      Along step (fun registry call _ => FailsLate registry call) .new calls := by
  apply along_iff step (Inv actualId)
  · intro registry call next inv _
    exact dropsGuarded_iff registry call inv
  · rintro registry call next inv ⟨⟩ _
    exact case_inv call registry _ inv (run_cases call registry)
  · exact new_inv

/-- The first participant of a process: created for the default domain, and
`dds_get_domainid` fails on it. -/
def unresolvedCall : Call (id : DdsDomainId → DdsDomainId) :=
  { key := ddsDomainDefault
    create := .ok 0
    resolveKey := fun _ => .error .ddsError
    resolved := nofun
    explicitKey := fun _ _ other => absurd rfl other }

theorem unresolved_drops_unguarded :
    (DdsParticipant.getOrCreateWith .new none (none : Option Unit) (none : Option Unit)
        (fun _ _ _ => .ok (0 : DdsDomainId)) fun _ => .error .ddsError).2.dropped = some 0 ∧
      ¬ Along step (fun registry call _ => DropsGuarded registry call) .new [unresolvedCall] := by
  refine ⟨rfl, ?_⟩
  intro guarded
  obtain ⟨key, address, live, held, -⟩ := (guarded _ rfl).1 0 rfl
  cases held

end Histories

end CycloneddsRs.DomainRegistry
