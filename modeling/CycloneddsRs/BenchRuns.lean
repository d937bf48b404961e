import CycloneddsRs.BenchSteps

/-!
Whole runs of a benchmark case: the children are always reaped, the runner never waits in vain,
and a good record means that each message came through once.
-/

namespace CycloneddsRs.BenchRuns
open BoundaryPayload DdsError ReceiveVerdict BenchProtocol BenchSafety BenchSteps StepRuns

section Runs

variable (benchmark : BenchmarkCase) (runId : List Char)

/-! ## Runs -/

theorem step_inv (world next : World) (action : Action) (held : Inv benchmark runId world)
    (taken : step benchmark runId world action = some next) : Inv benchmark runId next := by
  cases action with
  | runner arrived late spawned =>
      exact runChildren_inv benchmark runId world next arrived late spawned held taken
  | publisher clock => exact publish_inv benchmark runId world next clock held taken
  | subscriber poll => exact subscribe_inv benchmark runId world next poll held taken
  | fails role =>
      cases role with
      | publisher =>
          cases taken
          exact killPublisher_inv benchmark runId world held
      | subscriber =>
          cases taken
          exact killSubscriber_inv benchmark runId world held

theorem run_inv (actions : List Action) (world : World)
    (run : exec (step benchmark runId) World.initial actions = some world) :
    Inv benchmark runId world := by
  refine exec_invariant (step benchmark runId) (fun _ => Inv benchmark runId) ?_ [] actions
    World.initial world (init_inv benchmark runId) run
  intro _ before action next held taken
  exact step_inv benchmark runId before next action held taken

/-- The first two lines are always those of the handshake. -/
theorem first_lines (world : World) (held : Inv benchmark runId world) :
    (2 ≤ world.publisherOut.read → world.publisherOut.sent.take 2 =
        [.ready .publisher, .matched .publisher]) ∧
      (2 ≤ world.subscriberOut.read → world.subscriberOut.sent.take 2 =
        [.ready .subscriber, .matched .subscriber]) := by
  obtain ⟨elapsedNs, publisher⟩ := held.publishing.told
  obtain ⟨counters, subscriber, -⟩ := held.receiving.told
  constructor
  · intro two
    have long := Nat.le_trans two held.publisherRead
    rw [List.prefix_iff_eq_take.mp publisher, List.take_take, Nat.min_eq_left long]
    rfl
  · intro two
    have long := Nat.le_trans two held.subscriberRead
    rw [List.prefix_iff_eq_take.mp subscriber, List.take_take, Nat.min_eq_left long]
    rfl

/-- In every interleaving the publisher writes the messages in order, neither child touches the
topic before the runner has read `READY` and `MATCHED` of both, and the publisher is not told
to stop before it has written everything and the result is there. -/
theorem protocol_order (actions : List Action) (world : World)
    (run : exec (step benchmark runId) World.initial actions = some world) :
    (∀ index message, world.written[index]? = some message →
      ∃ clock, message = makeMessage (UInt64.ofNat index) benchmark.payloadBytes clock) ∧
      world.written.length ≤ benchmark.total ∧
      (world.written ≠ [] ∨ world.consumed ≠ [] →
        2 ≤ world.publisherOut.read ∧ 2 ≤ world.subscriberOut.read ∧
          world.publisherOut.sent.take 2 = [.ready .publisher, .matched .publisher] ∧
          world.subscriberOut.sent.take 2 = [.ready .subscriber, .matched .subscriber]) ∧
      (.stop ∈ world.publisherIn.sent →
        world.written.length = benchmark.total ∧ ∃ record, ResultRead world record) := by
  have held := run_inv benchmark runId actions world run
  refine ⟨held.publishing.messages, held.publishing.bounded, ?_, ?_⟩
  · intro touched
    have commanded : world.subscriberIn.sent ≠ [] ∨ world.publisherIn.sent ≠ [] :=
      touched.symm.imp held.receiving.begun held.publishing.begun
    obtain ⟨subscriber, publisher⟩ := held.commanded.started commanded
    obtain ⟨publisherLines, subscriberLines⟩ := first_lines benchmark runId world held
    exact ⟨publisher, subscriber, publisherLines publisher, subscriberLines subscriber⟩
  · intro stop
    obtain ⟨-, base, -, -, result, ⟨text, done, -⟩, -⟩ := held.commanded.stopped stop
    exact ⟨held.publishing.doneWritten (List.getElem?_eq_some_iff.mp done).1, base, result⟩

/-- However `run_children` ends, no child is left running. -/
theorem children_reaped (actions : List Action) (world : World) (outcome : Outcome)
    (run : exec (step benchmark runId) World.initial actions = some world)
    (ended : world.runner = .ended outcome) : PublisherGone world ∧ SubscriberGone world := by
  have steered := (run_inv benchmark runId actions world run).steered
  rw [ended] at steered
  exact steered.2

/-! ## The verdict -/

theorem written_sequence (world : World) (held : Publishing benchmark runId world)
    (fits : benchmark.total < 2 ^ 31) (index : Nat) (message : BenchmarkMessage)
    (found : world.written[index]? = some message) : message.sequence.toNat = index := by
  obtain ⟨clock, rfl⟩ := held.messages index message found
  have bounded := held.bounded
  have inside := (List.getElem?_eq_some_iff.mp found).1
  simp only [makeMessage, UInt64.toNat_ofNat']
  exact Nat.mod_eq_of_lt (by omega)

/-- Where all was written, the numbers in order are the messages as they were written. -/
theorem consumed_iff (world : World) (held : Inv benchmark runId world)
    (fits : benchmark.total < 2 ^ 31) (all : world.written.length = benchmark.total) :
    (∀ item ∈ world.consumed, Passes benchmark item) ∧
        world.consumed.map Item.sequence = List.range benchmark.total ↔
      world.consumed.map Item.message = world.written ∧
        ∀ item ∈ world.consumed, item.valid = true ∧
          (benchmark.warmupMessages.toNat ≤ item.sequence →
            ¬ item.receivedAt < item.message.sentMonotonicNs) := by
  have numbered := written_sequence benchmark runId world held.publishing fits
  constructor
  · rintro ⟨passes, numbers⟩
    refine ⟨List.ext_getElem? fun index => ?_, fun item member => ⟨(passes item member).valid, ?_⟩⟩
    · have number := congrArg (·[index]?) numbers
      simp only [List.getElem?_map] at number ⊢
      cases found : world.consumed[index]? with
      | none =>
          have late : benchmark.total ≤ index := by
            simpa [found, List.getElem?_eq_none_iff] using number.symm
          exact (List.getElem?_eq_none (by omega)).symm
      | some item =>
          have member := List.mem_of_getElem? found
          have genuine := held.receiving.genuine item member (passes item member).valid
          obtain ⟨other, there⟩ := List.mem_iff_getElem?.mp genuine
          have same : other = index := by
            have here := (List.getElem?_eq_some_iff.mp
              (show (List.range benchmark.total)[index]? = some item.sequence by
                simpa [found] using number.symm)).2
            rw [List.getElem_range] at here
            exact (numbered other item.message there).symm.trans here.symm
          rw [← same]
          exact there.symm
    · intro measured
      have inside : item.sequence ∈ List.range benchmark.total := by
        rw [← numbers]
        exact List.mem_map_of_mem member
      exact (passes item member).latency measured (List.mem_range.mp inside)
  · rintro ⟨messages, clean⟩
    refine ⟨fun item member => ?_, ?_⟩
    · obtain ⟨valid, latency⟩ := clean item member
      refine ⟨valid, fun _ => ?_, fun measured _ => latency measured⟩
      obtain ⟨index, there⟩ := List.mem_iff_getElem?.mp (held.receiving.genuine item member valid)
      obtain ⟨clock, same⟩ := held.publishing.messages index item.message there
      rw [same]
      rfl
    · have sequences : world.consumed.map Item.sequence =
          world.written.map fun message => message.sequence.toNat := by
        rw [← messages, List.map_map]
        rfl
      rw [sequences]
      refine List.ext_getElem? fun index => ?_
      rw [List.getElem?_map]
      cases found : world.written[index]? with
      | none =>
          have late := List.getElem?_eq_none_iff.mp found
          exact (List.getElem?_eq_none (by simp; omega)).symm
      | some message =>
          have inside := (List.getElem?_eq_some_iff.mp found).1
          rw [Option.map_some, numbered index message found, List.getElem?_range (by omega)]

/-- A record says "ok" exactly if both children came to their end and the subscriber has taken
the messages as the publisher wrote them, each once, in order, all valid and none of the measured
ones received before it was sent. The counts of the publisher are those of the case. -/
theorem verdict_end_to_end (actions : List Action) (world : World) (record : ResultRecord)
    (childFailed : Bool) (plain : ∀ character ∈ runId, isWhitespace character = false)
    (usize : benchmark.payloadBytes < 2 ^ 64)
    (run : exec (step benchmark runId) World.initial actions = some world)
    (ended : world.runner = .ended (.record record childFailed)) :
    (record.status = "ok" ↔ world.publisher = .exited true ∧ world.subscriber = .exited true ∧
      world.consumed.map Item.message = world.written ∧
      ∀ item ∈ world.consumed, item.valid = true ∧
        (benchmark.warmupMessages.toNat ≤ item.sequence →
          ¬ item.receivedAt < item.message.sentMonotonicNs)) ∧
      world.written.length = benchmark.total ∧ record.messagesSent = benchmark.total ∧
      record.bytesSent = benchmark.total * benchmark.payloadBytes := by
  have held := run_inv benchmark runId actions world run
  have steered := held.steered
  rw [ended] at steered
  obtain ⟨base, subscriberStatus, publisherStatus, collected, subscriber, publisher, final⟩ :=
    steered.1
  obtain ⟨result, messagesSent, bytesSent, resultRead, ⟨text, done, reads⟩, rfl⟩ := collected
  have printed := (List.getElem?_eq_some_iff.mp done).1
  have fits := held.publishing.fits (List.ne_nil_of_length_pos (by omega))
  have all := held.publishing.doneWritten printed
  -- The line of the publisher bears the numbers of the case.
  have numbers : messagesSent = benchmark.total ∧
      bytesSent = benchmark.total * benchmark.payloadBytes := by
    obtain ⟨elapsedNs, told⟩ := held.publishing.told
    have line := prefix_getElem? _ _ _ _ told done
    simp only [publisherLines, List.getElem?_cons_succ, List.getElem?_cons_zero,
      Option.some.injEq, Line.done.injEq] at line
    obtain ⟨sent, bytes⟩ := parseValue_doneLine runId benchmark.total
      (benchmark.total * benchmark.payloadBytes) elapsedNs plain
    have bound : benchmark.total * benchmark.payloadBytes < 2 ^ 128 :=
      calc benchmark.total * benchmark.payloadBytes
          ≤ 2 ^ 31 * 2 ^ 64 := Nat.mul_le_mul (Nat.le_of_lt fits) (Nat.le_of_lt usize)
        _ < 2 ^ 128 := by decide
    rw [← line, Reads, sent, bytes, Option.bind_some, Option.bind_some,
      parseUnsigned_digits _ _ (by omega), parseUnsigned_digits _ _ bound] at reads
    exact ⟨(Option.some.inj reads.1.1).symm, (Option.some.inj reads.1.2).symm⟩
  obtain ⟨rfl, rfl⟩ := numbers
  -- The result is that of the counters over all that was consumed.
  have verdict : result.status = "ok" ↔ world.consumed.map Item.message = world.written ∧
      ∀ item ∈ world.consumed, item.valid = true ∧
        (benchmark.warmupMessages.toNat ≤ item.sequence →
          ¬ item.receivedAt < item.message.sentMonotonicNs) := by
    obtain ⟨counters, told, observed⟩ := held.receiving.told
    have line := prefix_getElem? _ _ _ _ told resultRead.1
    simp only [subscriberLines, List.getElem?_cons_succ, List.getElem?_cons_zero,
      Option.some.injEq, Line.result.injEq] at line
    have seen := observed (List.getElem?_eq_some_iff.mp resultRead.1).1
    rw [← line, ← consumed_iff benchmark runId world held fits all]
    refine resultRecord_ok_iff benchmark world.consumed counters seen fun item member valid => ?_
    obtain ⟨index, there⟩ := List.mem_iff_getElem?.mp (held.receiving.genuine item member valid)
    have inside := (List.getElem?_eq_some_iff.mp there).1
    have number :=
      written_sequence benchmark runId world held.publishing fits index item.message there
    show item.message.sequence.toNat < benchmark.total
    omega
  rw [publisher, subscriber]
  cases publisherStatus <;> cases subscriberStatus <;> cases final
  case true.true => exact ⟨by simpa using verdict, all, rfl, rfl⟩
  all_goals exact ⟨by simp, all, rfl, rfl⟩

/-! ## The runner comes to an end -/

/-- Calls that bring a run to its end: no error is needed, and the loops end with their deadline. -/
def Ends (world : World) (count : Nat) : Prop :=
  ∃ actions, actions.length ≤ count ∧ (∀ role, .fails role ∉ actions) ∧
    ∃ final outcome, exec (step benchmark runId) world actions = some final ∧
      final.runner = .ended outcome

theorem ends_step (world next : World) (action : Action) (count : Nat)
    (noFailure : ∀ role, action ≠ .fails role)
    (taken : step benchmark runId world action = some next)
    (later : Ends benchmark runId next count) :
    Ends benchmark runId world (count + 1) := by
  obtain ⟨actions, short, clean, final, outcome, run, ended⟩ := later
  refine ⟨action :: actions, Nat.succ_le_succ short, fun role member => ?_, final, outcome, ?_,
    ended⟩
  · rcases List.mem_cons.mp member with same | inside
    · exact noFailure role same.symm
    · exact clean role inside
  · rw [exec, taken]
    exact run

theorem ends_more (world : World) (first second : Nat) (less : first ≤ second)
    (ends : Ends benchmark runId world first) : Ends benchmark runId world second := by
  obtain ⟨actions, short, rest⟩ := ends
  exact ⟨actions, Nat.le_trans short less, rest⟩

theorem ends_ended (world : World) (outcome : Outcome) (ended : world.runner = .ended outcome) :
    Ends benchmark runId world 0 :=
  ⟨[], Nat.le_refl _, by simp, world, outcome, rfl, ended⟩

theorem ends_runner (world next : World) (arrived late spawned : Bool) (count : Nat)
    (taken : runChildren world arrived late spawned = some next)
    (later : Ends benchmark runId next count) : Ends benchmark runId world (count + 1) :=
  ends_step benchmark runId world next (.runner arrived late spawned) count (by simp) taken later

theorem ends_dropSubscriber (world : World) (outcome : Outcome)
    (phase : world.runner = .dropSubscriber outcome) : Ends benchmark runId world 1 :=
  ends_runner benchmark runId world { world.killSubscriber with runner := .ended outcome }
    false false false 0 (by simp [runChildren, phase]) (ends_ended benchmark runId _ outcome rfl)

theorem ends_dropPublisher (world : World) (outcome : Outcome)
    (phase : world.runner = .dropPublisher outcome) : Ends benchmark runId world 2 :=
  ends_runner benchmark runId world { world.killPublisher with runner := .dropSubscriber outcome }
    false false false 1 (by simp [runChildren, phase])
    (ends_dropSubscriber benchmark runId _ outcome rfl)

theorem ends_failed (world : World) (error : RunError) :
    Ends benchmark runId (world.fail error) 2 :=
  ends_dropPublisher benchmark runId (world.fail error) (.failed error) rfl

theorem ends_exitedPublisher (world : World) (record : ResultRecord)
    (subscriberStatus status : Bool)
    (phase : world.runner = .waitPublisher record subscriberStatus)
    (gone : world.publisher = .exited status) : Ends benchmark runId world 3 :=
  ends_runner benchmark runId world
    { world with runner := .dropPublisher (finish record subscriberStatus status) }
    false false false 2 (by simp [runChildren, phase, gone])
    (ends_dropPublisher benchmark runId _ _ rfl)

theorem ends_returningPublisher (world : World) (record : ResultRecord) (subscriberStatus : Bool)
    (phase : world.runner = .waitPublisher record subscriberStatus)
    (ready : world.publisher = .returning) : Ends benchmark runId world 4 :=
  ends_step benchmark runId world { world with publisher := .exited true } (.publisher 0) 3
    (by simp) (by simp [step, publish, ready])
    (ends_exitedPublisher benchmark runId _ record subscriberStatus true phase rfl)

/-- The publisher has printed its last line, so only its last two calls can be ahead. -/
theorem ends_waitPublisher (world : World) (record : ResultRecord) (subscriberStatus : Bool)
    (held : Inv benchmark runId world)
    (phase : world.runner = .waitPublisher record subscriberStatus) :
    Ends benchmark runId world 5 := by
  have steered := held.steered
  rw [phase] at steered
  obtain ⟨commands, ⟨base, messages, bytes, -, ⟨text, done, -⟩, -⟩, -⟩ := steered
  have printed := (List.getElem?_eq_some_iff.mp done).1
  have progress := held.publishing.progress
  cases reached : world.publisher with
  | exited status =>
      exact ends_more benchmark runId world 3 5 (by decide)
        (ends_exitedPublisher benchmark runId world record subscriberStatus status phase reached)
  | returning =>
      exact ends_more benchmark runId world 4 5 (by decide)
        (ends_returningPublisher benchmark runId world record subscriberStatus phase reached)
  | stopping =>
      obtain ⟨-, read⟩ := progress 3 1 (by rw [reached]; rfl)
      exact ends_step benchmark runId world
        { world with publisher := .returning, publisherIn := world.publisherIn.advance }
        (.publisher 0) 4 (by simp)
        (by simp [step, publish, reached, Pipe.next?, read, commands.publisherIn])
        (ends_returningPublisher benchmark runId _ record subscriberStatus phase rfl)
  | unborn =>
      have short := (progress 0 0 (by rw [reached]; rfl)).1
      omega
  | creating =>
      have short := (progress 0 0 (by rw [reached]; rfl)).1
      omega
  | matching =>
      have short := (progress 1 0 (by rw [reached]; rfl)).1
      omega
  | starting =>
      have short := (progress 2 0 (by rw [reached]; rfl)).1
      omega
  | sending sequence bytesSent =>
      have short := (progress 2 1 (by rw [reached]; rfl)).1
      omega

theorem ends_exitedSubscriber (world : World) (record : ResultRecord) (status : Bool)
    (held : Inv benchmark runId world) (phase : world.runner = .waitSubscriber record)
    (gone : world.subscriber = .exited status) : Ends benchmark runId world 6 := by
  have taken : runChildren world false false false =
      some { world with runner := .waitPublisher record status } := by
    simp [runChildren, phase, gone]
  exact ends_runner benchmark runId world _ false false false 5 taken
    (ends_waitPublisher benchmark runId _ record status
      (runChildren_inv benchmark runId world _ false false false held taken) rfl)

theorem ends_waitSubscriber (world : World) (record : ResultRecord)
    (held : Inv benchmark runId world) (phase : world.runner = .waitSubscriber record) :
    Ends benchmark runId world 7 := by
  have steered := held.steered
  rw [phase] at steered
  obtain ⟨-, base, messages, bytes, ⟨result, -⟩, -, -⟩ := steered
  have printed := (List.getElem?_eq_some_iff.mp result).1
  have progress := held.receiving.progress
  cases reached : world.subscriber with
  | exited status =>
      exact ends_more benchmark runId world 6 7 (by decide)
        (ends_exitedSubscriber benchmark runId world record status held phase reached)
  | returning =>
      have taken : step benchmark runId world (.subscriber none) =
          some { world with subscriber := .exited true } := by
        simp [step, subscribe, reached]
      exact ends_step benchmark runId world _ (.subscriber none) 6 (by simp) taken
        (ends_exitedSubscriber benchmark runId _ record true
          (step_inv benchmark runId world _ (.subscriber none) held taken) phase rfl)
  | unborn =>
      have short := (progress 0 0 (by rw [reached]; rfl)).1
      omega
  | creating =>
      have short := (progress 0 0 (by rw [reached]; rfl)).1
      omega
  | matching =>
      have short := (progress 1 0 (by rw [reached]; rfl)).1
      omega
  | starting =>
      have short := (progress 2 0 (by rw [reached]; rfl)).1
      omega
  | receiving counters =>
      have short := (progress 2 1 (by rw [reached]; rfl)).1
      omega

theorem ends_stopPublisher (world : World) (record : ResultRecord)
    (held : Inv benchmark runId world) (phase : world.runner = .stopPublisher record) :
    Ends benchmark runId world 8 := by
  by_cases gone : world.publisher.HasExited = true
  · exact ends_more benchmark runId world 3 8 (by decide)
      (ends_runner benchmark runId world (world.fail (.brokenPipe .publisher)) false false false 2
        (by simp only [runChildren, phase, gone, if_true]) (ends_failed benchmark runId world _))
  · have taken : runChildren world false false false =
        some { world with
          runner := .waitSubscriber record, publisherIn := world.publisherIn.send .stop } := by
      simp only [runChildren, phase, gone]
      rfl
    exact ends_runner benchmark runId world _ false false false 7 taken
      (ends_waitSubscriber benchmark runId _ record
        (runChildren_inv benchmark runId world _ false false false held taken) rfl)

/-- With the deadline behind it a loop ends at the next look at the clock. -/
theorem ends_collectPublisher (world : World) (result : Option ResultRecord)
    (messagesSent bytesSent : Option Nat)
    (phase : world.runner = .collecting result messagesSent bytesSent .publisher) :
    Ends benchmark runId world 3 :=
  ends_runner benchmark runId world (world.killSubscriber.killPublisher.fail .childTimeout)
    false true false 2 (by simp [runChildren, phase, tryRecv, receivePublisherLine])
    (ends_failed benchmark runId _ _)

theorem ends_collectSubscriber (world : World) (result : Option ResultRecord)
    (messagesSent bytesSent : Option Nat) (held : Inv benchmark runId world)
    (phase : world.runner = .collecting result messagesSent bytesSent .subscriber) :
    Ends benchmark runId world 9 := by
  have waits : runChildren world false false false = some { world with
      runner := .collecting result messagesSent bytesSent .publisher } →
      Ends benchmark runId world 9 := by
    intro taken
    exact ends_more benchmark runId world 4 9 (by decide)
      (ends_runner benchmark runId world _ false false false 3 taken
        (ends_collectPublisher benchmark runId _ result messagesSent bytesSent rfl))
  cases result with
  | none => exact waits (by simp [runChildren, phase, tryRecv, receiveResultLine])
  | some record =>
      cases messagesSent with
      | none => exact waits (by simp [runChildren, phase, tryRecv, receiveResultLine])
      | some messages =>
          cases bytesSent with
          | none => exact waits (by simp [runChildren, phase, tryRecv, receiveResultLine])
          | some bytes =>
              have taken : runChildren world false false false = some { world with
                  runner := .stopPublisher
                    { record with messagesSent := messages, bytesSent := bytes } } := by
                simp [runChildren, phase]
              exact ends_runner benchmark runId world _ false false false 8 taken
                (ends_stopPublisher benchmark runId _ _
                  (runChildren_inv benchmark runId world _ false false false held taken) rfl)

theorem ends_startPublisher (world : World) (held : Inv benchmark runId world)
    (phase : world.runner = .startPublisher) : Ends benchmark runId world 10 := by
  by_cases gone : world.publisher.HasExited = true
  · exact ends_more benchmark runId world 3 10 (by decide)
      (ends_runner benchmark runId world (world.fail (.brokenPipe .publisher)) false false false 2
        (by simp only [runChildren, phase, gone, if_true]) (ends_failed benchmark runId world _))
  · have taken : runChildren world false false false = some { world with
        runner := .collecting none none none .subscriber
        publisherIn := world.publisherIn.send .start } := by
      simp only [runChildren, phase, gone]
      rfl
    exact ends_runner benchmark runId world _ false false false 9 taken
      (ends_collectSubscriber benchmark runId _ none none none
        (runChildren_inv benchmark runId world _ false false false held taken) rfl)

theorem ends_startSubscriber (world : World) (held : Inv benchmark runId world)
    (phase : world.runner = .startSubscriber) : Ends benchmark runId world 11 := by
  by_cases gone : world.subscriber.HasExited = true
  · exact ends_more benchmark runId world 3 11 (by decide)
      (ends_runner benchmark runId world (world.fail (.brokenPipe .subscriber)) false false false 2
        (by simp only [runChildren, phase, gone, if_true]) (ends_failed benchmark runId world _))
  · have taken : runChildren world false false false = some { world with
        runner := .startPublisher, subscriberIn := world.subscriberIn.send .start } := by
      simp only [runChildren, phase, gone]
      rfl
    exact ends_runner benchmark runId world _ false false false 10 taken
      (ends_startPublisher benchmark runId _
        (runChildren_inv benchmark runId world _ false false false held taken) rfl)

theorem ends_handshakePublisher (world : World) (marks : Finset Mark)
    (phase : world.runner = .handshake marks .publisher) : Ends benchmark runId world 3 :=
  ends_runner benchmark runId world (world.killSubscriber.killPublisher.fail .readyMatchedTimeout)
    false true false 2 (by simp [runChildren, phase, tryRecv, receiveHandshakeLine])
    (ends_failed benchmark runId _ _)

theorem ends_handshakeSubscriber (world : World) (marks : Finset Mark)
    (held : Inv benchmark runId world) (phase : world.runner = .handshake marks .subscriber) :
    Ends benchmark runId world 12 := by
  by_cases few : marks.card < 4
  · have taken : runChildren world false false false =
        some { world with runner := .handshake marks .publisher } := by
      simp [runChildren, phase, few, tryRecv, receiveHandshakeLine]
    exact ends_more benchmark runId world 4 12 (by decide)
      (ends_runner benchmark runId world _ false false false 3 taken
        (ends_handshakePublisher benchmark runId _ marks rfl))
  · have taken : runChildren world false false false =
        some { world with runner := .startSubscriber } := by
      simp [runChildren, phase, few]
    exact ends_runner benchmark runId world _ false false false 11 taken
      (ends_startSubscriber benchmark runId _
        (runChildren_inv benchmark runId world _ false false false held taken) rfl)

/-- No wait of the runner is in vain: from every state that can be reached, twelve calls can end
the run, none of them an error of a child. -/
theorem runner_ends (actions : List Action) (world : World)
    (run : exec (step benchmark runId) World.initial actions = some world) :
    Ends benchmark runId world 12 := by
  have held := run_inv benchmark runId actions world run
  cases phase : world.runner with
  | spawnSubscriber =>
      exact ends_more benchmark runId world 1 12 (by decide)
        (ends_runner benchmark runId world
          { world with runner := .ended (.failed (.spawn .subscriber)) }
          false false false 0 (by simp [runChildren, phase]) (ends_ended benchmark runId _ _ rfl))
  | spawnPublisher =>
      exact ends_more benchmark runId world 2 12 (by decide)
        (ends_runner benchmark runId world
          { world with runner := .dropSubscriber (.failed (.spawn .publisher)) } false false false 1
          (by simp [runChildren, phase]) (ends_dropSubscriber benchmark runId _ _ rfl))
  | handshake marks turn =>
      cases turn with
      | subscriber => exact ends_handshakeSubscriber benchmark runId world marks held phase
      | publisher =>
          exact ends_more benchmark runId world 3 12 (by decide)
            (ends_handshakePublisher benchmark runId world marks phase)
  | startSubscriber =>
      exact ends_more benchmark runId world 11 12 (by decide)
        (ends_startSubscriber benchmark runId world held phase)
  | startPublisher =>
      exact ends_more benchmark runId world 10 12 (by decide)
        (ends_startPublisher benchmark runId world held phase)
  | collecting result messagesSent bytesSent turn =>
      cases turn with
      | subscriber =>
          exact ends_more benchmark runId world 9 12 (by decide)
            (ends_collectSubscriber benchmark runId world result messagesSent bytesSent held phase)
      | publisher =>
          exact ends_more benchmark runId world 3 12 (by decide)
            (ends_collectPublisher benchmark runId world result messagesSent bytesSent phase)
  | stopPublisher record =>
      exact ends_more benchmark runId world 8 12 (by decide)
        (ends_stopPublisher benchmark runId world record held phase)
  | waitSubscriber record =>
      exact ends_more benchmark runId world 7 12 (by decide)
        (ends_waitSubscriber benchmark runId world record held phase)
  | waitPublisher record subscriberStatus =>
      exact ends_more benchmark runId world 5 12 (by decide)
        (ends_waitPublisher benchmark runId world record subscriberStatus held phase)
  | dropPublisher outcome =>
      exact ends_more benchmark runId world 2 12 (by decide)
        (ends_dropPublisher benchmark runId world outcome phase)
  | dropSubscriber outcome =>
      exact ends_more benchmark runId world 1 12 (by decide)
        (ends_dropSubscriber benchmark runId world outcome phase)
  | ended outcome =>
      exact ends_more benchmark runId world 0 12 (by decide)
        (ends_ended benchmark runId world outcome phase)

end Runs

/-! ## A case of two messages -/

def twoMessages : BenchmarkCase := { warmupMessages := 1, measuredMessages := 1, payloadBytes := 1 }

def firstItem : Item := { message := makeMessage 0 1 10, valid := true, receivedAt := 25 }

def secondItem : Item := { message := makeMessage 1 1 12, valid := true, receivedAt := 27 }

/-- A call of the runner to which a line has come in time. -/
def inTime : Action := .runner true false true

def twoRun : List Action :=
  [inTime, inTime, .subscriber none, .publisher 0, .subscriber none, .publisher 0] ++
    List.replicate 7 inTime ++
    [.publisher 10, .publisher 10, .publisher 12, .publisher 30, .subscriber none,
      .subscriber (some (.batch [firstItem])), .subscriber (some (.batch [secondItem])),
      .subscriber none] ++
    List.replicate 4 inTime ++
    [.subscriber none, inTime, .publisher 0, .publisher 0, inTime, inTime, inTime]

theorem twoRun_plain : ∀ character ∈ "r1".toList, isWhitespace character = false :=
  word_of_all (by decide)

theorem verdict_end_to_end_twoRun : ∃ world record,
    exec (step twoMessages "r1".toList) World.initial twoRun = some world ∧
      world.runner = .ended (.record record false) ∧
      (record.status = "ok" ↔ world.publisher = .exited true ∧ world.subscriber = .exited true ∧
        world.consumed.map Item.message = world.written ∧
        ∀ item ∈ world.consumed, item.valid = true ∧
          (twoMessages.warmupMessages.toNat ≤ item.sequence →
            ¬ item.receivedAt < item.message.sentMonotonicNs)) ∧
      world.written.length = twoMessages.total ∧ record.messagesSent = twoMessages.total ∧
      record.bytesSent = twoMessages.total * twoMessages.payloadBytes :=
  ⟨_, _, rfl, rfl, verdict_end_to_end twoMessages "r1".toList twoRun _ _ false twoRun_plain
    (by decide) rfl rfl⟩

theorem protocol_order_twoRun : ∃ world,
    exec (step twoMessages "r1".toList) World.initial twoRun = some world ∧
      world.written.length = twoMessages.total ∧ ∃ record, ResultRead world record := by
  refine ⟨_, rfl, (protocol_order twoMessages "r1".toList twoRun _ rfl).2.2.2 ?_⟩
  exact List.mem_cons_of_mem _ List.mem_cons_self

theorem children_reaped_twoRun : ∃ world,
    exec (step twoMessages "r1".toList) World.initial twoRun = some world ∧
      PublisherGone world ∧ SubscriberGone world :=
  ⟨_, rfl, children_reaped twoMessages "r1".toList twoRun _ _ rfl rfl⟩

theorem runner_ends_twoRun : ∃ world,
    exec (step twoMessages "r1".toList) World.initial (twoRun.take 25) = some world ∧
      Ends twoMessages "r1".toList world 12 :=
  ⟨_, rfl, runner_ends twoMessages "r1".toList (twoRun.take 25) _ rfl⟩

end CycloneddsRs.BenchRuns
