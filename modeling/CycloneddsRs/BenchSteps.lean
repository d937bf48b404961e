import CycloneddsRs.BenchSafety

/-!
Each step of the runner and of its children keeps what is known about a benchmark case: a child
changes nothing that the runner has read, and the runner nothing that a child has done.
-/

namespace CycloneddsRs.BenchSteps
open BoundaryPayload DdsError ReceiveVerdict BenchProtocol BenchSafety StepRuns

section Steps

variable (benchmark : BenchmarkCase) (runId : List Char)

/-! ## Frames -/

theorem publishing_frame (world next : World) (held : Publishing benchmark runId world)
    (publisher : next.publisher = world.publisher ∨ next.publisher = .exited false ∨
      (world.publisher = .unborn ∧ next.publisher = .creating))
    (given : world.publisherIn.sent <+: next.publisherIn.sent)
    (controls : next.publisherIn.sent <+: [.start, .stop])
    (read : next.publisherIn.read = world.publisherIn.read)
    (out : next.publisherOut.sent = world.publisherOut.sent)
    (written : next.written = world.written) : Publishing benchmark runId next := by
  have kept : ∀ progress, publisherProgress next.publisher = some progress →
      publisherProgress world.publisher = some progress := by
    intro progress known
    rcases publisher with same | failed | ⟨unborn, creating⟩
    · rwa [same] at known
    · rw [failed] at known
      cases known
    · rw [creating] at known
      rw [unborn]
      exact known
  have nonempty : world.publisherIn.sent ≠ [] → next.publisherIn.sent ≠ [] := by
    intro some none
    rw [none] at given
    exact some (List.prefix_nil.mp given)
  refine
    { controls := controls, within := ?_, told := by rw [out]; exact held.told
      progress := ?_, messages := by rw [written]; exact held.messages
      bounded := by rw [written]; exact held.bounded, fits := by rw [out]; exact held.fits
      sending := ?_, waiting := ?_, begun := ?_, doneStarted := ?_, doneWritten := ?_ }
  · rw [read]
    exact Nat.le_trans held.within given.length_le
  · intro printed taken known
    rw [out, read]
    exact held.progress printed taken (kept _ known)
  · intro sequence bytesSent sending
    rw [written]
    rcases publisher with same | failed | ⟨-, creating⟩
    · exact held.sending sequence bytesSent (same.symm.trans sending)
    · rw [failed] at sending
      cases sending
    · rw [creating] at sending
      cases sending
  · intro printed known
    rw [written]
    exact held.waiting printed (kept _ known)
  · rw [written]
    exact fun some => nonempty (held.begun some)
  · rw [out]
    exact fun many => nonempty (held.doneStarted many)
  · rw [out, written]
    exact held.doneWritten

theorem receiving_frame (world next : World) (held : Receiving benchmark world)
    (subscriber : next.subscriber = world.subscriber ∨ next.subscriber = .exited false ∨
      (world.subscriber = .unborn ∧ next.subscriber = .creating))
    (given : world.subscriberIn.sent <+: next.subscriberIn.sent)
    (controls : next.subscriberIn.sent <+: [.start])
    (read : next.subscriberIn.read = world.subscriberIn.read)
    (out : next.subscriberOut.sent = world.subscriberOut.sent)
    (consumed : next.consumed = world.consumed)
    (written : ∀ message ∈ world.written, message ∈ next.written) : Receiving benchmark next := by
  have kept : ∀ progress, subscriberProgress next.subscriber = some progress →
      subscriberProgress world.subscriber = some progress := by
    intro progress known
    rcases subscriber with same | failed | ⟨unborn, creating⟩
    · rwa [same] at known
    · rw [failed] at known
      cases known
    · rw [creating] at known
      rw [unborn]
      exact known
  have nonempty : world.subscriberIn.sent ≠ [] → next.subscriberIn.sent ≠ [] := by
    intro some none
    rw [none] at given
    exact some (List.prefix_nil.mp given)
  refine
    { controls := controls, within := ?_, told := by rw [out, consumed]; exact held.told
      progress := ?_, receiving := ?_, waiting := ?_, genuine := ?_, begun := ?_
      resultStarted := ?_ }
  · rw [read]
    exact Nat.le_trans held.within given.length_le
  · intro printed taken known
    rw [out, read]
    exact held.progress printed taken (kept _ known)
  · intro counters receiving
    rw [consumed]
    rcases subscriber with same | failed | ⟨-, creating⟩
    · exact held.receiving counters (same.symm.trans receiving)
    · rw [failed] at receiving
      cases receiving
    · rw [creating] at receiving
      cases receiving
  · intro printed known
    rw [consumed]
    exact held.waiting printed (kept _ known)
  · rw [consumed]
    exact fun item member valid => written item.message (held.genuine item member valid)
  · rw [consumed]
    exact fun some => nonempty (held.begun some)
  · rw [out]
    exact fun many => nonempty (held.resultStarted many)

/-- Nothing that the runner has read or was told is taken back. -/
structure Grown (world next : World) : Prop where
  subscriberIn : next.subscriberIn.sent = world.subscriberIn.sent
  publisherIn : next.publisherIn.sent = world.publisherIn.sent
  subscriberRead : world.subscriberOut.read ≤ next.subscriberOut.read
  publisherRead : world.publisherOut.read ≤ next.publisherOut.read
  subscriberOut : world.subscriberOut.sent <+: next.subscriberOut.sent
  publisherOut : world.publisherOut.sent <+: next.publisherOut.sent
  subscriberExited : ∀ status, world.subscriber = .exited status → next.subscriber = .exited status
  publisherExited : ∀ status, world.publisher = .exited status → next.publisher = .exited status
  subscriberUnborn : world.subscriber = .unborn → next.subscriber = .unborn
  publisherUnborn : world.publisher = .unborn → next.publisher = .unborn

/-- What a child does is seen by the runner only as more lines and as an exit. -/
structure Onward (world next : World) : Prop extends Grown world next where
  sameSubscriberRead : next.subscriberOut.read = world.subscriberOut.read
  samePublisherRead : next.publisherOut.read = world.publisherOut.read

theorem onward_publisher (world : World) (publisher : Publisher) (publisherIn : Pipe Control)
    (publisherOut : Pipe Line) (written : List BenchmarkMessage)
    (alive : world.publisher ≠ .unborn) (running : ∀ status, world.publisher ≠ .exited status)
    (given : publisherIn.sent = world.publisherIn.sent)
    (read : publisherOut.read = world.publisherOut.read)
    (out : world.publisherOut.sent <+: publisherOut.sent) :
    Onward world { world with
      publisher := publisher, publisherIn := publisherIn, publisherOut := publisherOut
      written := written } where
  subscriberIn := rfl
  publisherIn := given
  subscriberRead := Nat.le_refl _
  publisherRead := Nat.le_of_eq read.symm
  sameSubscriberRead := rfl
  samePublisherRead := read
  subscriberOut := List.prefix_rfl
  publisherOut := out
  subscriberExited := fun _ => id
  publisherExited := fun status exited => absurd exited (running status)
  subscriberUnborn := id
  publisherUnborn := fun unborn => absurd unborn alive

theorem onward_subscriber (world : World) (subscriber : Subscriber) (subscriberIn : Pipe Control)
    (subscriberOut : Pipe Line) (consumed : List Item)
    (alive : world.subscriber ≠ .unborn) (running : ∀ status, world.subscriber ≠ .exited status)
    (given : subscriberIn.sent = world.subscriberIn.sent)
    (read : subscriberOut.read = world.subscriberOut.read)
    (out : world.subscriberOut.sent <+: subscriberOut.sent) :
    Onward world { world with
      subscriber := subscriber, subscriberIn := subscriberIn, subscriberOut := subscriberOut
      consumed := consumed } where
  subscriberIn := given
  publisherIn := rfl
  subscriberRead := Nat.le_of_eq read.symm
  publisherRead := Nat.le_refl _
  sameSubscriberRead := read
  samePublisherRead := rfl
  subscriberOut := out
  publisherOut := List.prefix_rfl
  subscriberExited := fun status exited => absurd exited (running status)
  publisherExited := fun _ => id
  subscriberUnborn := fun unborn => absurd unborn alive
  publisherUnborn := id

theorem onward_refl (world : World) : Onward world world where
  subscriberIn := rfl
  publisherIn := rfl
  subscriberRead := Nat.le_refl _
  publisherRead := Nat.le_refl _
  sameSubscriberRead := rfl
  samePublisherRead := rfl
  subscriberOut := List.prefix_rfl
  publisherOut := List.prefix_rfl
  subscriberExited := fun _ => id
  publisherExited := fun _ => id
  subscriberUnborn := id
  publisherUnborn := id

theorem onward_publish (world next : World) (clock : UInt64)
    (taken : publish benchmark runId world clock = some next) : Onward world next := by
  unfold publish at taken
  cases phase : world.publisher with
  | unborn => simp [phase] at taken
  | exited success => simp [phase] at taken
  | creating =>
      simp only [phase] at taken
      split at taken <;> cases taken
      · exact onward_publisher world _ _ _ _ (by simp [phase]) (by simp [phase])
          rfl rfl (List.prefix_append _ _)
      · exact onward_publisher world _ _ _ _ (by simp [phase]) (by simp [phase])
          rfl rfl List.prefix_rfl
  | matching =>
      simp only [phase, Option.some.injEq] at taken
      subst taken
      exact onward_publisher world _ _ _ _ (by simp [phase]) (by simp [phase])
        rfl rfl (List.prefix_append _ _)
  | starting =>
      simp only [phase] at taken
      obtain ⟨control, -, rfl⟩ := Option.map_eq_some_iff.mp taken
      exact onward_publisher world _ _ _ _ (by simp [phase]) (by simp [phase])
        rfl rfl List.prefix_rfl
  | sending sequence bytesSent =>
      simp only [phase] at taken
      split at taken <;> cases taken
      · exact onward_publisher world _ _ _ _ (by simp [phase]) (by simp [phase])
          rfl rfl List.prefix_rfl
      · exact onward_publisher world _ _ _ _ (by simp [phase]) (by simp [phase])
          rfl rfl (List.prefix_append _ _)
  | stopping =>
      simp only [phase] at taken
      obtain ⟨control, -, rfl⟩ := Option.map_eq_some_iff.mp taken
      exact onward_publisher world _ _ _ _ (by simp [phase]) (by simp [phase])
        rfl rfl List.prefix_rfl
  | returning =>
      simp only [phase, Option.some.injEq] at taken
      subst taken
      exact onward_publisher world _ _ _ _ (by simp [phase]) (by simp [phase])
        rfl rfl List.prefix_rfl

theorem onward_subscribe (world next : World) (poll : Option Poll)
    (taken : subscribe benchmark world poll = some next) : Onward world next := by
  unfold subscribe at taken
  cases phase : world.subscriber with
  | unborn => simp [phase] at taken
  | exited success => simp [phase] at taken
  | creating =>
      simp only [phase] at taken
      split at taken <;> cases taken
      · exact onward_subscriber world _ _ _ _ (by simp [phase]) (by simp [phase])
          rfl rfl (List.prefix_append _ _)
      · exact onward_subscriber world _ _ _ _ (by simp [phase]) (by simp [phase])
          rfl rfl List.prefix_rfl
  | matching =>
      simp only [phase, Option.some.injEq] at taken
      subst taken
      exact onward_subscriber world _ _ _ _ (by simp [phase]) (by simp [phase])
        rfl rfl (List.prefix_append _ _)
  | starting =>
      simp only [phase] at taken
      obtain ⟨control, -, rfl⟩ := Option.map_eq_some_iff.mp taken
      exact onward_subscriber world _ _ _ _ (by simp [phase]) (by simp [phase])
        rfl rfl List.prefix_rfl
  | receiving counters =>
      have finished := onward_subscriber world .returning world.subscriberIn
        (world.subscriberOut.send (.result (resultRecord benchmark counters))) world.consumed
        (by simp [phase]) (by simp [phase]) rfl rfl (List.prefix_append _ _)
      simp only [phase] at taken
      split at taken
      case isFalse =>
          cases taken
          exact finished
      case isTrue =>
          cases poll with
          | none =>
              cases taken
              exact finished
          | some poll =>
              cases poll with
              | noData =>
                  cases taken
                  exact onward_refl world
              | error error =>
                  cases taken
                  exact onward_subscriber world _ _ _ _ (by simp [phase]) (by simp [phase])
                    rfl rfl List.prefix_rfl
              | batch items =>
                  obtain ⟨-, made⟩ := Option.ite_none_right_eq_some.mp taken
                  cases made
                  exact onward_subscriber world _ _ _ _ (by simp [phase]) (by simp [phase])
                    rfl rfl List.prefix_rfl
  | returning =>
      simp only [phase, Option.some.injEq] at taken
      subst taken
      exact onward_subscriber world _ _ _ _ (by simp [phase]) (by simp [phase])
        rfl rfl List.prefix_rfl

theorem killPublisher_cases (world : World) :
    (world.killPublisher = world ∧ PublisherGone world) ∨
      (world.killPublisher = { world with publisher := .exited false } ∧
        world.publisher ≠ .unborn ∧ ∀ status, world.publisher ≠ .exited status) := by
  unfold World.killPublisher
  cases phase : world.publisher with
  | unborn => exact .inl ⟨rfl, .inl phase⟩
  | exited success => exact .inl ⟨rfl, .inr ⟨success, phase⟩⟩
  | _ => exact .inr ⟨rfl, by simp, by simp⟩

theorem killSubscriber_cases (world : World) :
    (world.killSubscriber = world ∧ SubscriberGone world) ∨
      (world.killSubscriber = { world with subscriber := .exited false } ∧
        world.subscriber ≠ .unborn ∧ ∀ status, world.subscriber ≠ .exited status) := by
  unfold World.killSubscriber
  cases phase : world.subscriber with
  | unborn => exact .inl ⟨rfl, .inl phase⟩
  | exited success => exact .inl ⟨rfl, .inr ⟨success, phase⟩⟩
  | _ => exact .inr ⟨rfl, by simp, by simp⟩

theorem onward_killPublisher (world : World) : Onward world world.killPublisher := by
  rcases killPublisher_cases world with ⟨same, -⟩ | ⟨killed, alive, running⟩
  · rw [same]
    exact onward_refl world
  · rw [killed]
    exact onward_publisher world _ _ _ _ alive running rfl rfl List.prefix_rfl

theorem onward_killSubscriber (world : World) : Onward world world.killSubscriber := by
  rcases killSubscriber_cases world with ⟨same, -⟩ | ⟨killed, alive, running⟩
  · rw [same]
    exact onward_refl world
  · rw [killed]
    exact onward_subscriber world _ _ _ _ alive running rfl rfl List.prefix_rfl

/-! ## What the runner knows -/

theorem prefix_getElem? (before after : List Line) (index : Nat) (line : Line)
    (grown : before <+: after) (found : before[index]? = some line) :
    after[index]? = some line := by
  obtain ⟨rest, rfl⟩ := grown
  rw [List.getElem?_append_left (List.getElem?_eq_some_iff.mp found).1]
  exact found

theorem resultRead_grown (world next : World) (record : ResultRecord)
    (grown : Grown world next) (held : ResultRead world record) : ResultRead next record :=
  ⟨prefix_getElem? _ _ _ _ grown.subscriberOut held.1,
    Nat.lt_of_lt_of_le held.2 grown.subscriberRead⟩

theorem doneRead_grown (world next : World) (messagesSent bytesSent : Nat)
    (grown : Grown world next) (held : DoneRead world messagesSent bytesSent) :
    DoneRead next messagesSent bytesSent := by
  obtain ⟨text, done, reads, read⟩ := held
  exact ⟨text, prefix_getElem? _ _ _ _ grown.publisherOut done, reads,
    Nat.lt_of_lt_of_le read grown.publisherRead⟩

theorem collected_grown (world next : World) (record : ResultRecord)
    (grown : Grown world next) (held : Collected world record) : Collected next record := by
  obtain ⟨base, messagesSent, bytesSent, result, done, same⟩ := held
  exact ⟨base, messagesSent, bytesSent, resultRead_grown world next base grown result,
    doneRead_grown world next messagesSent bytesSent grown done, same⟩

theorem concluded_grown (world next : World) (outcome : Outcome) (grown : Grown world next)
    (held : Concluded world outcome) : Concluded next outcome := by
  cases outcome with
  | failed error => trivial
  | record record childFailed =>
      obtain ⟨base, subscriberStatus, publisherStatus, collected, subscriber, publisher, same⟩ :=
        held
      exact ⟨base, subscriberStatus, publisherStatus,
        collected_grown world next base grown collected,
        grown.subscriberExited _ subscriber, grown.publisherExited _ publisher, same⟩

theorem marked_onward (world next : World) (marks : Finset Mark) (onward : Onward world next)
    (held : Marked world marks) : Marked next marks := by
  unfold Marked
  rw [onward.sameSubscriberRead, onward.samePublisherRead]
  exact held

theorem at_grown (world next : World) (started commands : List Control) (least : Nat)
    (grown : Grown world next) (held : At world started commands least) :
    At next started commands least where
  subscriberIn := grown.subscriberIn.trans held.subscriberIn
  publisherIn := grown.publisherIn.trans held.publisherIn
  subscriberOut := Nat.le_trans held.subscriberOut grown.subscriberRead
  publisherOut := Nat.le_trans held.publisherOut grown.publisherRead

theorem publisherGone_grown (world next : World) (grown : Grown world next)
    (held : PublisherGone world) : PublisherGone next := by
  rcases held with unborn | ⟨status, exited⟩
  · exact .inl (grown.publisherUnborn unborn)
  · exact .inr ⟨status, grown.publisherExited status exited⟩

theorem subscriberGone_grown (world next : World) (grown : Grown world next)
    (held : SubscriberGone world) : SubscriberGone next := by
  rcases held with unborn | ⟨status, exited⟩
  · exact .inl (grown.subscriberUnborn unborn)
  · exact .inr ⟨status, grown.subscriberExited status exited⟩

/-- A child can take no knowledge from the runner. -/
theorem steered_onward (world next : World) (runner : Runner) (onward : Onward world next)
    (held : Steered world runner) : Steered next runner := by
  have resultRead : ∀ record, ResultRead world record → ResultRead next record :=
    fun record => resultRead_grown world next record onward.toGrown
  have doneRead : ∀ messages bytes, DoneRead world messages bytes → DoneRead next messages bytes :=
    fun messages bytes => doneRead_grown world next messages bytes onward.toGrown
  cases runner with
  | spawnSubscriber =>
      obtain ⟨commands, marks, subscriber, publisher⟩ := held
      exact ⟨at_grown world next _ _ _ onward.toGrown commands,
        marked_onward world next _ onward marks,
        onward.subscriberUnborn subscriber, onward.publisherUnborn publisher⟩
  | spawnPublisher =>
      obtain ⟨commands, marks, publisher⟩ := held
      exact ⟨at_grown world next _ _ _ onward.toGrown commands,
        marked_onward world next _ onward marks,
        onward.publisherUnborn publisher⟩
  | handshake marks turn =>
      exact ⟨at_grown world next _ _ _ onward.toGrown held.1,
        marked_onward world next _ onward held.2⟩
  | startSubscriber => exact at_grown world next _ _ _ onward.toGrown held
  | startPublisher => exact at_grown world next _ _ _ onward.toGrown held
  | collecting result messagesSent bytesSent turn =>
      obtain ⟨commands, result, done⟩ := held
      refine ⟨at_grown world next _ _ _ onward.toGrown commands, ?_, ?_⟩
      · exact result.imp_right fun ⟨record, same, read⟩ => ⟨record, same, resultRead record read⟩
      · exact done.imp_right fun ⟨messages, bytes, first, second, read⟩ =>
          ⟨messages, bytes, first, second, doneRead messages bytes read⟩
  | stopPublisher record =>
      exact ⟨at_grown world next _ _ _ onward.toGrown held.1,
        collected_grown world next record onward.toGrown held.2⟩
  | waitSubscriber record =>
      exact ⟨at_grown world next _ _ _ onward.toGrown held.1,
        collected_grown world next record onward.toGrown held.2⟩
  | waitPublisher record status =>
      exact ⟨at_grown world next _ _ _ onward.toGrown held.1,
        collected_grown world next record onward.toGrown held.2.1,
        onward.subscriberExited status held.2.2⟩
  | dropPublisher outcome => exact concluded_grown world next outcome onward.toGrown held
  | dropSubscriber outcome =>
      exact ⟨concluded_grown world next outcome onward.toGrown held.1,
        publisherGone_grown world next onward.toGrown held.2⟩
  | ended outcome =>
      exact ⟨concluded_grown world next outcome onward.toGrown held.1,
        publisherGone_grown world next onward.toGrown held.2.1,
        subscriberGone_grown world next onward.toGrown held.2.2⟩

theorem commanded_grown (world next : World) (grown : Grown world next)
    (held : Commanded world) : Commanded next where
  started := by
    rw [grown.subscriberIn, grown.publisherIn]
    intro started
    obtain ⟨subscriber, publisher⟩ := held.started started
    exact ⟨Nat.le_trans subscriber grown.subscriberRead,
      Nat.le_trans publisher grown.publisherRead⟩
  stopped := by
    rw [grown.publisherIn]
    intro stop
    obtain ⟨record, collected⟩ := held.stopped stop
    exact ⟨record, collected_grown world next record grown collected⟩

/-- The invariant after a step of a child, given what it does to its own side. -/
theorem inv_onward (world next : World) (held : Inv benchmark runId world)
    (onward : Onward world next) (steered : Steered world next.runner)
    (publishing : Publishing benchmark runId next) (receiving : Receiving benchmark next) :
    Inv benchmark runId next where
  publishing := publishing
  receiving := receiving
  steered := steered_onward world next next.runner onward steered
  commanded := commanded_grown world next onward.toGrown held.commanded
  subscriberRead := by
    rw [onward.sameSubscriberRead]
    exact Nat.le_trans held.subscriberRead onward.subscriberOut.length_le
  publisherRead := by
    rw [onward.samePublisherRead]
    exact Nat.le_trans held.publisherRead onward.publisherOut.length_le

/-- Neither the runner nor the subscriber moves, and nothing written is lost. -/
structure PublisherOnly (world next : World) : Prop where
  runner : next.runner = world.runner
  subscriber : next.subscriber = world.subscriber
  subscriberIn : next.subscriberIn = world.subscriberIn
  subscriberOut : next.subscriberOut = world.subscriberOut
  consumed : next.consumed = world.consumed
  written : ∀ message ∈ world.written, message ∈ next.written

theorem publish_only (world next : World) (clock : UInt64)
    (taken : publish benchmark runId world clock = some next) : PublisherOnly world next := by
  unfold publish at taken
  split at taken
  case h_1 | h_2 => cases taken
  case h_3 => split at taken <;> cases taken <;> exact ⟨rfl, rfl, rfl, rfl, rfl, fun _ => id⟩
  case h_5 | h_7 =>
      obtain ⟨control, -, rfl⟩ := Option.map_eq_some_iff.mp taken
      exact ⟨rfl, rfl, rfl, rfl, rfl, fun _ => id⟩
  case h_6 =>
      split at taken <;> cases taken
      · exact ⟨rfl, rfl, rfl, rfl, rfl, fun _ => List.mem_append_left _⟩
      · exact ⟨rfl, rfl, rfl, rfl, rfl, fun _ => id⟩
  all_goals
    cases taken
    exact ⟨rfl, rfl, rfl, rfl, rfl, fun _ => id⟩

structure SubscriberOnly (world next : World) : Prop where
  runner : next.runner = world.runner
  publisher : next.publisher = world.publisher
  publisherIn : next.publisherIn = world.publisherIn
  publisherOut : next.publisherOut = world.publisherOut
  written : next.written = world.written

theorem subscribe_only (world next : World) (poll : Option Poll)
    (taken : subscribe benchmark world poll = some next) : SubscriberOnly world next := by
  unfold subscribe at taken
  split at taken
  case h_1 | h_2 => cases taken
  case h_3 => split at taken <;> cases taken <;> exact ⟨rfl, rfl, rfl, rfl, rfl⟩
  case h_5 =>
      obtain ⟨control, -, rfl⟩ := Option.map_eq_some_iff.mp taken
      exact ⟨rfl, rfl, rfl, rfl, rfl⟩
  case h_6 =>
      dsimp only at taken
      split at taken
      case isFalse =>
          cases taken
          exact ⟨rfl, rfl, rfl, rfl, rfl⟩
      case isTrue =>
          split at taken
          case h_4 =>
              obtain ⟨-, made⟩ := Option.ite_none_right_eq_some.mp taken
              cases made
              exact ⟨rfl, rfl, rfl, rfl, rfl⟩
          all_goals
            cases taken
            exact ⟨rfl, rfl, rfl, rfl, rfl⟩
  all_goals
    cases taken
    exact ⟨rfl, rfl, rfl, rfl, rfl⟩

theorem publish_inv (world next : World) (clock : UInt64) (held : Inv benchmark runId world)
    (taken : publish benchmark runId world clock = some next) : Inv benchmark runId next := by
  have only := publish_only benchmark runId world next clock taken
  refine inv_onward benchmark runId world next held
    (onward_publish benchmark runId world next clock taken) ?_
    (publish_publishing benchmark runId world next clock held.publishing taken) ?_
  · rw [only.runner]
    exact held.steered
  · refine receiving_frame benchmark world next held.receiving (.inl only.subscriber) ?_ ?_ ?_ ?_
      only.consumed only.written
    all_goals simp only [only.subscriberIn, only.subscriberOut]
    · exact List.prefix_rfl
    · exact held.receiving.controls

theorem subscribe_inv (world next : World) (poll : Option Poll) (held : Inv benchmark runId world)
    (taken : subscribe benchmark world poll = some next) : Inv benchmark runId next := by
  have only := subscribe_only benchmark world next poll taken
  refine inv_onward benchmark runId world next held
    (onward_subscribe benchmark world next poll taken) ?_ ?_
    (subscribe_receiving benchmark world next poll held.receiving taken)
  · rw [only.runner]
    exact held.steered
  · refine publishing_frame benchmark runId world next held.publishing (.inl only.publisher)
      ?_ ?_ ?_ ?_ only.written
    all_goals simp only [only.publisherIn, only.publisherOut]
    · exact List.prefix_rfl
    · exact held.publishing.controls

theorem killPublisher_inv (world : World) (held : Inv benchmark runId world) :
    Inv benchmark runId world.killPublisher := by
  have onward := onward_killPublisher world
  rcases killPublisher_cases world with ⟨same, -⟩ | ⟨killed, -, -⟩
  · rw [same]
    exact held
  · rw [killed] at onward ⊢
    exact inv_onward benchmark runId world _ held onward held.steered
      (publishing_failed benchmark runId world held.publishing)
      (receiving_frame benchmark world _ held.receiving (.inl rfl) List.prefix_rfl
        held.receiving.controls rfl rfl rfl fun _ => id)

theorem killSubscriber_inv (world : World) (held : Inv benchmark runId world) :
    Inv benchmark runId world.killSubscriber := by
  have onward := onward_killSubscriber world
  rcases killSubscriber_cases world with ⟨same, -⟩ | ⟨killed, -, -⟩
  · rw [same]
    exact held
  · rw [killed] at onward ⊢
    exact inv_onward benchmark runId world _ held onward held.steered
      (publishing_frame benchmark runId world _ held.publishing (.inl rfl) List.prefix_rfl
        held.publishing.controls rfl rfl rfl)
      (receiving_failed benchmark world held.receiving)

/-! ## Steps of the runner -/

theorem onward_moved (world : World) (runner : Runner) :
    Onward world { world with runner := runner } where
  subscriberIn := rfl
  publisherIn := rfl
  subscriberRead := Nat.le_refl _
  publisherRead := Nat.le_refl _
  sameSubscriberRead := rfl
  samePublisherRead := rfl
  subscriberOut := List.prefix_rfl
  publisherOut := List.prefix_rfl
  subscriberExited := fun _ => id
  publisherExited := fun _ => id
  subscriberUnborn := id
  publisherUnborn := id

theorem inv_moved (world : World) (runner : Runner) (held : Inv benchmark runId world)
    (steered : Steered world runner) : Inv benchmark runId { world with runner := runner } :=
  inv_onward benchmark runId world _ held (onward_moved world runner) steered
    (publishing_frame benchmark runId world _ held.publishing (.inl rfl) List.prefix_rfl
      held.publishing.controls rfl rfl rfl)
    (receiving_frame benchmark world _ held.receiving (.inl rfl) List.prefix_rfl
      held.receiving.controls rfl rfl rfl fun _ => id)

theorem fail_inv (world : World) (error : RunError) (held : Inv benchmark runId world) :
    Inv benchmark runId (world.fail error) :=
  inv_moved benchmark runId world (.dropPublisher (.failed error)) held trivial

theorem grown_readSubscriber (world : World) (runner : Runner) :
    Grown world { world with runner := runner, subscriberOut := world.subscriberOut.advance } where
  subscriberIn := rfl
  publisherIn := rfl
  subscriberRead := Nat.le_succ _
  publisherRead := Nat.le_refl _
  subscriberOut := List.prefix_rfl
  publisherOut := List.prefix_rfl
  subscriberExited := fun _ => id
  publisherExited := fun _ => id
  subscriberUnborn := id
  publisherUnborn := id

theorem grown_readPublisher (world : World) (runner : Runner) :
    Grown world { world with runner := runner, publisherOut := world.publisherOut.advance } where
  subscriberIn := rfl
  publisherIn := rfl
  subscriberRead := Nat.le_refl _
  publisherRead := Nat.le_succ _
  subscriberOut := List.prefix_rfl
  publisherOut := List.prefix_rfl
  subscriberExited := fun _ => id
  publisherExited := fun _ => id
  subscriberUnborn := id
  publisherUnborn := id

theorem inv_readSubscriber (world : World) (runner : Runner) (line : Line)
    (held : Inv benchmark runId world) (unread : world.subscriberOut.next? = some line)
    (steered : Steered
      { world with runner := runner, subscriberOut := world.subscriberOut.advance } runner) :
    Inv benchmark runId
      { world with runner := runner, subscriberOut := world.subscriberOut.advance } where
  publishing := publishing_frame benchmark runId world _ held.publishing (.inl rfl)
    List.prefix_rfl held.publishing.controls rfl rfl rfl
  receiving := receiving_frame benchmark world _ held.receiving (.inl rfl) List.prefix_rfl
    held.receiving.controls rfl rfl rfl fun _ => id
  steered := steered
  commanded := commanded_grown world _ (grown_readSubscriber world runner) held.commanded
  subscriberRead := (List.getElem?_eq_some_iff.mp unread).1
  publisherRead := held.publisherRead

theorem inv_readPublisher (world : World) (runner : Runner) (line : Line)
    (held : Inv benchmark runId world) (unread : world.publisherOut.next? = some line)
    (steered : Steered
      { world with runner := runner, publisherOut := world.publisherOut.advance } runner) :
    Inv benchmark runId
      { world with runner := runner, publisherOut := world.publisherOut.advance } where
  publishing := publishing_frame benchmark runId world _ held.publishing (.inl rfl)
    List.prefix_rfl held.publishing.controls rfl rfl rfl
  receiving := receiving_frame benchmark world _ held.receiving (.inl rfl) List.prefix_rfl
    held.receiving.controls rfl rfl rfl fun _ => id
  steered := steered
  commanded := commanded_grown world _ (grown_readPublisher world runner) held.commanded
  subscriberRead := held.subscriberRead
  publisherRead := (List.getElem?_eq_some_iff.mp unread).1

theorem tryRecv_cases (pipe : Pipe Line) (exited arrived : Bool) :
    (∃ line, pipe.next? = some line ∧
      tryRecv pipe exited arrived = (.line line, pipe.advance)) ∨
      tryRecv pipe exited arrived = (.empty, pipe) ∨
      tryRecv pipe exited arrived = (.disconnected, pipe) := by
  unfold tryRecv
  cases arrived with
  | false => exact .inr (.inl rfl)
  | true =>
      cases unread : pipe.next? with
      | some line => exact .inl ⟨line, rfl, rfl⟩
      | none => cases exited <;> simp

theorem publisher_line (world : World) (line : Line) (held : Publishing benchmark runId world)
    (unread : world.publisherOut.next? = some line) :
    (world.publisherOut.read = 0 ∧ line = .ready .publisher) ∨
      (world.publisherOut.read = 1 ∧ line = .matched .publisher) ∨
      (world.publisherOut.read = 2 ∧ 2 < world.publisherOut.sent.length ∧
        ∃ text, line = .done text) := by
  obtain ⟨elapsedNs, told⟩ := held.told
  have inside := (List.getElem?_eq_some_iff.mp unread).1
  have script := prefix_getElem? _ _ _ _ told unread
  match read : world.publisherOut.read with
  | 0 =>
      rw [read] at script
      exact .inl ⟨rfl, by simpa [publisherLines] using script.symm⟩
  | 1 =>
      rw [read] at script
      exact .inr (.inl ⟨rfl, by simpa [publisherLines] using script.symm⟩)
  | 2 =>
      rw [read] at script
      exact .inr (.inr ⟨rfl, by omega, _, (Option.some.inj script).symm⟩)
  | count + 3 =>
      rw [read] at script
      simp [publisherLines] at script

theorem subscriber_line (world : World) (line : Line) (held : Receiving benchmark world)
    (unread : world.subscriberOut.next? = some line) :
    (world.subscriberOut.read = 0 ∧ line = .ready .subscriber) ∨
      (world.subscriberOut.read = 1 ∧ line = .matched .subscriber) ∨
      (world.subscriberOut.read = 2 ∧ 2 < world.subscriberOut.sent.length ∧
        ∃ record, line = .result record) := by
  obtain ⟨counters, told, -⟩ := held.told
  have inside := (List.getElem?_eq_some_iff.mp unread).1
  have script := prefix_getElem? _ _ _ _ told unread
  match read : world.subscriberOut.read with
  | 0 =>
      rw [read] at script
      exact .inl ⟨rfl, by simpa [subscriberLines] using script.symm⟩
  | 1 =>
      rw [read] at script
      exact .inr (.inl ⟨rfl, by simpa [subscriberLines] using script.symm⟩)
  | 2 =>
      rw [read] at script
      exact .inr (.inr ⟨rfl, by omega, _, (Option.some.inj script).symm⟩)
  | count + 3 =>
      rw [read] at script
      simp [subscriberLines] at script

/-- Before the commands the subscriber has nothing but its two lines to say, and none is lost. -/
theorem handshake_subscriber (world : World) (marks : Finset Mark) (exited arrived : Bool)
    (next : World) (held : Inv benchmark runId world) (commands : At world [] [] 0)
    (marked : Marked world marks)
    (taken : (match receiveHandshakeLine .subscriber
        (tryRecv world.subscriberOut exited arrived).1 marks with
      | .ok marks => some { world with
          runner := .handshake marks .publisher
          subscriberOut := (tryRecv world.subscriberOut exited arrived).2 }
      | .error error => some (world.fail error)) = some next) : Inv benchmark runId next := by
  rcases tryRecv_cases world.subscriberOut exited arrived with
    ⟨line, unread, received⟩ | received | received
  · rw [received] at taken
    have told := subscriber_line benchmark world line held.receiving unread
    have grown := fun runner => grown_readSubscriber world runner
    rcases told with ⟨read, rfl⟩ | ⟨read, rfl⟩ | ⟨-, many, -⟩
    · cases taken
      refine inv_readSubscriber benchmark runId world _ _ held unread
        ⟨at_grown world _ _ _ _ (grown _) commands, ?_⟩
      obtain ⟨first, second, third, fourth⟩ := marked
      simp [Marked, Pipe.advance, first, second, third, fourth, read]
    · cases taken
      refine inv_readSubscriber benchmark runId world _ _ held unread
        ⟨at_grown world _ _ _ _ (grown _) commands, ?_⟩
      obtain ⟨first, second, third, fourth⟩ := marked
      simp [Marked, Pipe.advance, first, second, third, fourth, read]
    · exact absurd commands.subscriberIn (held.receiving.resultStarted many)
  · rw [received] at taken
    cases taken
    exact inv_moved benchmark runId world _ held ⟨commands, marked⟩
  · rw [received] at taken
    cases taken
    exact fail_inv benchmark runId world _ held

theorem kill_inv (world : World) (error : RunError) (held : Inv benchmark runId world) :
    Inv benchmark runId (world.killSubscriber.killPublisher.fail error) :=
  fail_inv benchmark runId _ error (killPublisher_inv benchmark runId _
    (killSubscriber_inv benchmark runId world held))

theorem handshake_publisher (world : World) (marks : Finset Mark) (exited arrived late : Bool)
    (next : World) (held : Inv benchmark runId world) (commands : At world [] [] 0)
    (marked : Marked world marks)
    (taken : (match receiveHandshakeLine .publisher
        (tryRecv world.publisherOut exited arrived).1 marks with
      | .ok marks =>
          if late then some (world.killSubscriber.killPublisher.fail .readyMatchedTimeout)
          else some { world with
            runner := .handshake marks .subscriber
            publisherOut := (tryRecv world.publisherOut exited arrived).2 }
      | .error error => some (world.fail error)) = some next) : Inv benchmark runId next := by
  rcases tryRecv_cases world.publisherOut exited arrived with
    ⟨line, unread, received⟩ | received | received
  · rw [received] at taken
    have told := publisher_line benchmark runId world line held.publishing unread
    have grown := fun runner => grown_readPublisher world runner
    rcases told with ⟨read, rfl⟩ | ⟨read, rfl⟩ | ⟨-, many, -⟩
    · cases late <;> cases taken
      · refine inv_readPublisher benchmark runId world _ _ held unread
          ⟨at_grown world _ _ _ _ (grown _) commands, ?_⟩
        obtain ⟨first, second, third, fourth⟩ := marked
        simp [Marked, Pipe.advance, first, second, third, fourth, read]
      · exact kill_inv benchmark runId world _ held
    · cases late <;> cases taken
      · refine inv_readPublisher benchmark runId world _ _ held unread
          ⟨at_grown world _ _ _ _ (grown _) commands, ?_⟩
        obtain ⟨first, second, third, fourth⟩ := marked
        simp [Marked, Pipe.advance, first, second, third, fourth, read]
      · exact kill_inv benchmark runId world _ held
    · exact absurd commands.publisherIn (held.publishing.doneStarted many)
  · rw [received] at taken
    cases late <;> cases taken
    · exact inv_moved benchmark runId world _ held ⟨commands, marked⟩
    · exact kill_inv benchmark runId world _ held
  · rw [received] at taken
    cases taken
    exact fail_inv benchmark runId world _ held

theorem startSubscriber_inv (world : World) (held : Inv benchmark runId world)
    (commands : At world [] [] 2) :
    Inv benchmark runId { world with
      runner := .startPublisher, subscriberIn := world.subscriberIn.send .start } where
  publishing := publishing_frame benchmark runId world _ held.publishing (.inl rfl)
    List.prefix_rfl held.publishing.controls rfl rfl rfl
  receiving := by
    refine receiving_frame benchmark world _ held.receiving (.inl rfl) (List.prefix_append _ _)
      ?_ rfl rfl rfl fun _ => id
    simp [Pipe.send, commands.subscriberIn]
  steered := ⟨by simp [Pipe.send, commands.subscriberIn], commands.publisherIn,
    commands.subscriberOut, commands.publisherOut⟩
  commanded := ⟨fun _ => ⟨commands.subscriberOut, commands.publisherOut⟩, by
    simp [commands.publisherIn]⟩
  subscriberRead := held.subscriberRead
  publisherRead := held.publisherRead

theorem startPublisher_inv (world : World) (held : Inv benchmark runId world)
    (commands : At world [.start] [] 2) :
    Inv benchmark runId { world with
      runner := .collecting none none none .subscriber
      publisherIn := world.publisherIn.send .start } where
  publishing := by
    refine publishing_frame benchmark runId world _ held.publishing (.inl rfl)
      (List.prefix_append _ _) ?_ rfl rfl rfl
    simp [Pipe.send, commands.publisherIn]
  receiving := receiving_frame benchmark world _ held.receiving (.inl rfl) List.prefix_rfl
    held.receiving.controls rfl rfl rfl fun _ => id
  steered := ⟨⟨commands.subscriberIn, by simp [Pipe.send, commands.publisherIn],
    commands.subscriberOut, commands.publisherOut⟩, .inl rfl, .inl ⟨rfl, rfl⟩⟩
  commanded := ⟨fun _ => ⟨commands.subscriberOut, commands.publisherOut⟩, by
    simp [Pipe.send, commands.publisherIn]⟩
  subscriberRead := held.subscriberRead
  publisherRead := held.publisherRead

theorem stopPublisher_inv (world : World) (record : ResultRecord)
    (held : Inv benchmark runId world) (commands : At world [.start] [.start] 2)
    (collected : Collected world record) :
    Inv benchmark runId { world with
      runner := .waitSubscriber record, publisherIn := world.publisherIn.send .stop } where
  publishing := by
    refine publishing_frame benchmark runId world _ held.publishing (.inl rfl)
      (List.prefix_append _ _) ?_ rfl rfl rfl
    simp [Pipe.send, commands.publisherIn]
  receiving := receiving_frame benchmark world _ held.receiving (.inl rfl) List.prefix_rfl
    held.receiving.controls rfl rfl rfl fun _ => id
  steered := ⟨⟨commands.subscriberIn, by simp [Pipe.send, commands.publisherIn],
    commands.subscriberOut, commands.publisherOut⟩, collected⟩
  commanded := ⟨fun _ => ⟨commands.subscriberOut, commands.publisherOut⟩,
    fun _ => ⟨record, collected⟩⟩
  subscriberRead := held.subscriberRead
  publisherRead := held.publisherRead

/-- After the first command the next line of the subscriber can only be its result. -/
theorem collect_subscriber (world next : World) (result : Option ResultRecord)
    (messagesSent bytesSent : Option Nat) (exited arrived : Bool)
    (held : Inv benchmark runId world)
    (steered : Steered world (.collecting result messagesSent bytesSent .subscriber))
    (taken : some { world with
      runner :=
        .collecting (receiveResultLine (tryRecv world.subscriberOut exited arrived).1 result)
        messagesSent bytesSent .publisher
      subscriberOut := (tryRecv world.subscriberOut exited arrived).2 } = some next) :
    Inv benchmark runId next := by
  obtain ⟨commands, known, done⟩ := steered
  cases taken
  rcases tryRecv_cases world.subscriberOut exited arrived with
    ⟨line, unread, received⟩ | received | received
  · rw [received]
    have least := commands.subscriberOut
    rcases subscriber_line benchmark world line held.receiving unread with
      ⟨read, -⟩ | ⟨read, -⟩ | ⟨read, -, record, rfl⟩
    · omega
    · omega
    · have printed : world.subscriberOut.sent[2]? = some (.result record) := by
        rw [← read]
        exact unread
      have found : ∀ runner, ResultRead
          { world with runner := runner, subscriberOut := world.subscriberOut.advance } record :=
        fun runner => ⟨printed, Nat.lt_succ_of_le read.ge⟩
      exact inv_readSubscriber benchmark runId world _ _ held unread
        ⟨at_grown world _ _ _ _ (grown_readSubscriber world _) commands,
          .inr ⟨record, rfl, found _⟩, done⟩
  · rw [received]
    exact inv_moved benchmark runId world _ held ⟨commands, known, done⟩
  · rw [received]
    exact inv_moved benchmark runId world _ held ⟨commands, known, done⟩

theorem collect_publisher (world next : World) (result : Option ResultRecord)
    (messagesSent bytesSent : Option Nat) (exited arrived late : Bool)
    (held : Inv benchmark runId world)
    (steered : Steered world (.collecting result messagesSent bytesSent .publisher))
    (taken : (match receivePublisherLine (tryRecv world.publisherOut exited arrived).1
        messagesSent bytesSent with
      | .ok (messagesSent, bytesSent) =>
          if late then some (world.killSubscriber.killPublisher.fail .childTimeout)
          else some { world with
            runner := .collecting result messagesSent bytesSent .subscriber
            publisherOut := (tryRecv world.publisherOut exited arrived).2 }
      | .error error => some (world.fail error)) = some next) : Inv benchmark runId next := by
  obtain ⟨commands, known, done⟩ := steered
  have same : ∀ pipe, pipe = world.publisherOut →
      (if late then some (world.killSubscriber.killPublisher.fail .childTimeout)
        else some { world with
          runner := .collecting result messagesSent bytesSent .subscriber
          publisherOut := pipe }) = some next → Inv benchmark runId next := by
    rintro _ rfl made
    cases late <;> cases made
    · exact inv_moved benchmark runId world _ held ⟨commands, known, done⟩
    · exact kill_inv benchmark runId world _ held
  rcases tryRecv_cases world.publisherOut exited arrived with
    ⟨line, unread, received⟩ | received | received
  · rw [received] at taken
    have least := commands.publisherOut
    rcases publisher_line benchmark runId world line held.publishing unread with
      ⟨read, -⟩ | ⟨read, -⟩ | ⟨read, -, text, rfl⟩
    · omega
    · omega
    · simp only [receivePublisherLine] at taken
      split at taken
      case h_2 error failed =>
          cases taken
          exact fail_inv benchmark runId world _ held
      case h_1 messages bytes parsed =>
          split at parsed
          case h_2 => cases parsed
          case h_1 first second messagesRead bytesRead =>
              cases parsed
              have printed : world.publisherOut.sent[2]? = some (.done text) := by
                rw [← read]
                exact unread
              have found : ∀ runner, DoneRead
                  { world with runner := runner, publisherOut := world.publisherOut.advance }
                  first second :=
                fun runner => ⟨text, printed, ⟨messagesRead, bytesRead⟩, Nat.lt_succ_of_le read.ge⟩
              cases late <;> cases taken
              · exact inv_readPublisher benchmark runId world _ _ held unread
                  ⟨at_grown world _ _ _ _ (grown_readPublisher world _) commands, known,
                    .inr ⟨first, second, rfl, rfl, found _⟩⟩
              · exact kill_inv benchmark runId world _ held
  · rw [received] at taken
    exact same _ rfl taken
  · rw [received] at taken
    exact same _ rfl taken

theorem handshake_done (world : World) (marks : Finset Mark) (commands : At world [] [] 0)
    (marked : Marked world marks) (many : ¬ marks.card < 4) :
    At world [] [] 2 := by
  have all : marks = Finset.univ := by
    refine Finset.eq_univ_of_card marks (Nat.le_antisymm (Finset.card_le_univ marks) ?_)
    have four : Fintype.card Mark = 4 := rfl
    omega
  obtain ⟨-, subscriber, -, publisher⟩ := marked
  exact ⟨commands.subscriberIn, commands.publisherIn, subscriber.mp (by simp [all]),
    publisher.mp (by simp [all])⟩

theorem spawnSubscriber_inv (world : World) (held : Inv benchmark runId world)
    (steered : Steered world .spawnSubscriber) :
    Inv benchmark runId
      { world with runner := .spawnPublisher, subscriber := .creating } := by
  obtain ⟨commands, marked, unborn, publisher⟩ := steered
  exact
    { publishing := publishing_frame benchmark runId world _ held.publishing (.inl rfl)
        List.prefix_rfl held.publishing.controls rfl rfl rfl
      receiving := receiving_frame benchmark world _ held.receiving (.inr (.inr ⟨unborn, rfl⟩))
        List.prefix_rfl held.receiving.controls rfl rfl rfl fun _ => id
      steered := ⟨⟨commands.subscriberIn, commands.publisherIn, Nat.zero_le _, Nat.zero_le _⟩,
        marked, publisher⟩
      commanded := by
        constructor
        · simp [commands.subscriberIn, commands.publisherIn]
        · simp [commands.publisherIn]
      subscriberRead := held.subscriberRead
      publisherRead := held.publisherRead }

theorem spawnPublisher_inv (world : World) (held : Inv benchmark runId world)
    (steered : Steered world .spawnPublisher) :
    Inv benchmark runId
      { world with runner := .handshake ∅ .subscriber, publisher := .creating } := by
  obtain ⟨commands, marked, unborn⟩ := steered
  exact
    { publishing := publishing_frame benchmark runId world _ held.publishing
        (.inr (.inr ⟨unborn, rfl⟩)) List.prefix_rfl held.publishing.controls rfl rfl rfl
      receiving := receiving_frame benchmark world _ held.receiving (.inl rfl) List.prefix_rfl
        held.receiving.controls rfl rfl rfl fun _ => id
      steered := ⟨⟨commands.subscriberIn, commands.publisherIn, Nat.zero_le _, Nat.zero_le _⟩,
        marked⟩
      commanded := by
        constructor
        · simp [commands.subscriberIn, commands.publisherIn]
        · simp [commands.publisherIn]
      subscriberRead := held.subscriberRead
      publisherRead := held.publisherRead }

theorem publisherGone_kill (world : World) : PublisherGone world.killPublisher := by
  rcases killPublisher_cases world with ⟨same, gone⟩ | ⟨killed, -, -⟩
  · rw [same]
    exact gone
  · rw [killed]
    exact .inr ⟨false, rfl⟩

theorem subscriberGone_kill (world : World) : SubscriberGone world.killSubscriber := by
  rcases killSubscriber_cases world with ⟨same, gone⟩ | ⟨killed, -, -⟩
  · rw [same]
    exact gone
  · rw [killed]
    exact .inr ⟨false, rfl⟩

theorem concluded_finish (world : World) (record : ResultRecord)
    (subscriberStatus publisherStatus : Bool) (collected : Collected world record)
    (subscriber : world.subscriber = .exited subscriberStatus)
    (publisher : world.publisher = .exited publisherStatus) :
    Concluded world (finish record subscriberStatus publisherStatus) := by
  have conclude : ∀ outcome, outcome = finish record subscriberStatus publisherStatus →
      Concluded world outcome := by
    intro outcome same
    cases outcome with
    | failed error => trivial
    | record other childFailed =>
        exact ⟨record, subscriberStatus, publisherStatus, collected, subscriber, publisher, same⟩
  exact conclude _ rfl

theorem collected_all (world : World) (record : ResultRecord) (messages bytes : Nat)
    (steered : Steered world
      (.collecting (some record) (some messages) (some bytes) .subscriber)) :
    Steered world
      (.stopPublisher { record with messagesSent := messages, bytesSent := bytes }) := by
  obtain ⟨commands, known, done⟩ := steered
  rcases known with missing | ⟨result, same, read⟩
  · cases missing
  · rcases done with ⟨missing, -⟩ | ⟨first, second, firstSame, secondSame, doneRead⟩
    · cases missing
    · cases same
      cases firstSame
      cases secondSame
      exact ⟨commands, record, messages, bytes, read, doneRead, rfl⟩

theorem runChildren_inv (world next : World) (arrived late spawned : Bool)
    (held : Inv benchmark runId world)
    (taken : runChildren world arrived late spawned = some next) : Inv benchmark runId next := by
  have steered := held.steered
  unfold runChildren at taken
  cases phase : world.runner with
  | spawnSubscriber =>
      rw [phase] at steered
      simp only [phase] at taken
      split at taken <;> cases taken
      · exact spawnSubscriber_inv benchmark runId world held steered
      · exact inv_moved benchmark runId world _ held
          ⟨trivial, .inl steered.2.2.2, .inl steered.2.2.1⟩
  | spawnPublisher =>
      rw [phase] at steered
      simp only [phase] at taken
      split at taken <;> cases taken
      · exact spawnPublisher_inv benchmark runId world held steered
      · exact inv_moved benchmark runId world _ held ⟨trivial, .inl steered.2.2⟩
  | handshake marks turn =>
      rw [phase] at steered
      obtain ⟨commands, marked⟩ := steered
      cases turn with
      | subscriber =>
          simp only [phase] at taken
          split at taken
          case isTrue =>
              exact handshake_subscriber benchmark runId world marks _ arrived next held commands
                marked taken
          case isFalse many =>
              cases taken
              exact inv_moved benchmark runId world _ held
                (handshake_done world marks commands marked many)
      | publisher =>
          simp only [phase] at taken
          exact handshake_publisher benchmark runId world marks _ arrived late next held commands
            marked taken
  | startSubscriber =>
      rw [phase] at steered
      simp only [phase] at taken
      split at taken <;> cases taken
      · exact fail_inv benchmark runId world _ held
      · exact startSubscriber_inv benchmark runId world held steered
  | startPublisher =>
      rw [phase] at steered
      simp only [phase] at taken
      split at taken <;> cases taken
      · exact fail_inv benchmark runId world _ held
      · exact startPublisher_inv benchmark runId world held steered
  | collecting result messagesSent bytesSent turn =>
      rw [phase] at steered
      cases turn with
      | publisher =>
          simp only [phase] at taken
          exact collect_publisher benchmark runId world next result messagesSent bytesSent _ arrived
            late held steered taken
      | subscriber =>
          cases result with
          | none =>
              simp only [phase] at taken
              exact collect_subscriber benchmark runId world next none messagesSent bytesSent _
                arrived held steered taken
          | some record =>
              cases messagesSent with
              | none =>
                  simp only [phase] at taken
                  exact collect_subscriber benchmark runId world next (some record) none bytesSent _
                    arrived held steered taken
              | some messages =>
                  cases bytesSent with
                  | none =>
                      simp only [phase] at taken
                      exact collect_subscriber benchmark runId world next (some record)
                        (some messages) none _ arrived held steered taken
                  | some bytes =>
                      simp only [phase, Option.some.injEq] at taken
                      subst taken
                      exact inv_moved benchmark runId world _ held
                        (collected_all world record messages bytes steered)
  | stopPublisher record =>
      rw [phase] at steered
      simp only [phase] at taken
      split at taken <;> cases taken
      · exact fail_inv benchmark runId world _ held
      · exact stopPublisher_inv benchmark runId world record held steered.1 steered.2
  | waitSubscriber record =>
      rw [phase] at steered
      simp only [phase] at taken
      split at taken
      case h_2 => cases taken
      case h_1 status exited =>
          cases taken
          exact inv_moved benchmark runId world _ held ⟨steered.1, steered.2, exited⟩
  | waitPublisher record subscriberStatus =>
      rw [phase] at steered
      simp only [phase] at taken
      split at taken
      case h_2 => cases taken
      case h_1 status exited =>
          cases taken
          exact inv_moved benchmark runId world _ held
            (concluded_finish world record subscriberStatus status steered.2.1 steered.2.2 exited)
  | dropPublisher outcome =>
      rw [phase] at steered
      simp only [phase, Option.some.injEq] at taken
      subst taken
      exact inv_moved benchmark runId world.killPublisher _
        (killPublisher_inv benchmark runId world held)
        ⟨concluded_grown world _ outcome (onward_killPublisher world).toGrown steered,
          publisherGone_kill world⟩
  | dropSubscriber outcome =>
      rw [phase] at steered
      simp only [phase, Option.some.injEq] at taken
      subst taken
      have grown := (onward_killSubscriber world).toGrown
      exact inv_moved benchmark runId world.killSubscriber _
        (killSubscriber_inv benchmark runId world held)
        ⟨concluded_grown world _ outcome grown steered.1,
          publisherGone_grown world _ grown steered.2, subscriberGone_kill world⟩
  | ended outcome =>
      simp [phase] at taken

end Steps

end CycloneddsRs.BenchSteps
