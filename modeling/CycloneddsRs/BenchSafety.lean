import CycloneddsRs.BenchProtocol
import Mathlib.Data.List.Infix

/-!
What holds in every interleaving of the runner, the publisher and the subscriber, whatever
the topic does to the samples: nothing is sent before both are ready, and a run that is
reported as good has delivered each message once and in order.
-/

namespace CycloneddsRs.BenchSafety
open BoundaryPayload DdsError ReceiveVerdict BenchProtocol StepRuns

section Counters

variable (benchmark : BenchmarkCase)

/-- The checks that `receive` makes of a sample. The latency of the warm-up is not looked at. -/
structure Passes (item : Item) : Prop where
  valid : item.valid = true
  payload : item.sequence < benchmark.total →
    item.message.payload = (makeMessage item.message.sequence benchmark.payloadBytes
      item.message.sentMonotonicNs).payload
  latency : benchmark.warmupMessages.toNat ≤ item.sequence → item.sequence < benchmark.total →
    ¬ item.receivedAt < item.message.sentMonotonicNs

theorem checkPayload_payloadError (counters : Counters) (item : Item) :
    (counters.checkPayload benchmark item).payloadError = none ↔
      counters.payloadError = none ∧ (item.sequence < benchmark.total →
        item.message.payload = (makeMessage item.message.sequence benchmark.payloadBytes
          item.message.sentMonotonicNs).payload) := by
  unfold Counters.checkPayload
  by_cases inside : item.sequence < benchmark.total
  · by_cases same : item.message.payload = (makeMessage item.message.sequence
        benchmark.payloadBytes item.message.sentMonotonicNs).payload
    · simp [inside, same]
    · simp [inside, same]
  · simp [inside]

theorem measure_payloadError (counters : Counters) (item : Item) :
    (counters.measure benchmark item).payloadError = none ↔
      counters.payloadError = none ∧ (benchmark.warmupMessages.toNat ≤ item.sequence →
        item.sequence < benchmark.total → ¬ item.receivedAt < item.message.sentMonotonicNs) := by
  unfold Counters.measure
  by_cases measured : benchmark.warmupMessages.toNat ≤ item.sequence ∧
      item.sequence < benchmark.total
  · by_cases early : item.receivedAt < item.message.sentMonotonicNs
    · simp [measured, early]
    · simp [measured, early]
  · rw [if_neg measured]
    exact ⟨fun clean => ⟨clean, fun low high => absurd ⟨low, high⟩ measured⟩, And.left⟩

/-- An error stays until the end, and only a sample that fails a check sets one. -/
theorem consume_payloadError (counters : Counters) (item : Item) :
    (counters.consume benchmark item).payloadError = none ↔
      counters.payloadError = none ∧ Passes benchmark item := by
  unfold Counters.consume
  by_cases valid : item.valid = true
  · rw [if_pos valid, measure_payloadError, checkPayload_payloadError]
    constructor
    · rintro ⟨⟨clean, payload⟩, latency⟩
      exact ⟨clean, valid, payload, latency⟩
    · rintro ⟨clean, passes⟩
      exact ⟨⟨clean, passes.payload⟩, passes.latency⟩
  · rw [if_neg valid]
    exact iff_of_false (by simp) fun both => valid both.2.valid

/-- The counts that the verdict is made from. -/
structure SameCounts (first second : Counters) : Prop where
  seen : second.seen = first.seen
  messagesReceived : second.messagesReceived = first.messagesReceived
  duplicate : second.duplicate = first.duplicate
  lastSequence : second.lastSequence = first.lastSequence
  outOfOrder : second.outOfOrder = first.outOfOrder

theorem sameCounts_checkPayload (counters : Counters) (item : Item) :
    SameCounts counters (counters.checkPayload benchmark item) := by
  unfold Counters.checkPayload
  dsimp only
  split
  case isFalse => constructor <;> rfl
  case isTrue => split <;> constructor <;> rfl

theorem sameCounts_measure (counters : Counters) (item : Item) :
    SameCounts counters (counters.measure benchmark item) := by
  unfold Counters.measure
  dsimp only
  split
  case isFalse => constructor <;> rfl
  case isTrue => split <;> constructor <;> rfl

theorem tally_same (sequences : List Nat) (first second : Counters) (same : SameCounts first second)
    (clean : second.payloadError = none) (tally : Tally sequences first) :
    Tally sequences second where
  seen := same.seen.trans tally.seen
  messagesReceived := same.messagesReceived.trans tally.messagesReceived
  duplicate := by
    rw [same.seen, same.duplicate]
    exact tally.duplicate
  lastSequence := same.lastSequence.trans tally.lastSequence
  outOfOrder := by
    rw [same.outOfOrder]
    exact tally.outOfOrder
  payloadError := clean

theorem tally_passed (sequences : List Nat) (counters : Counters) (item : Item)
    (tally : Tally sequences counters) (passes : Passes benchmark item) :
    Tally (sequences ++ [item.sequence]) (counters.consume benchmark item) := by
  have counted := tally_count sequences counters item tally
  have checked := (checkPayload_payloadError benchmark (counters.count item) item).mpr
    ⟨counted.payloadError, passes.payload⟩
  have measured := (measure_payloadError benchmark _ item).mpr ⟨checked, passes.latency⟩
  rw [Counters.consume, if_pos passes.valid]
  refine tally_same _ _ _ (sameCounts_measure benchmark _ item) measured ?_
  exact tally_same _ _ _ (sameCounts_checkPayload benchmark _ item) checked counted

/-- The counters after the samples that the subscriber has looked at. -/
structure Observed (consumed : List Item) (counters : Counters) : Prop where
  clean : counters.payloadError = none ↔ ∀ item ∈ consumed, Passes benchmark item
  tally : counters.payloadError = none → Tally (consumed.map Item.sequence) counters

theorem observed_init : Observed benchmark [] .init where
  clean := by simp [Counters.init]
  tally := fun _ => tally_init

theorem observed_consume (consumed : List Item) (counters : Counters) (item : Item)
    (observed : Observed benchmark consumed counters) :
    Observed benchmark (consumed ++ [item]) (counters.consume benchmark item) where
  clean := by
    rw [consume_payloadError, observed.clean]
    simp [or_imp, forall_and]
  tally := by
    intro clean
    obtain ⟨before, passes⟩ := (consume_payloadError benchmark counters item).mp clean
    rw [List.map_append]
    exact tally_passed benchmark _ counters item (observed.tally before) passes

theorem observed_fold (consumed items : List Item) (counters : Counters)
    (observed : Observed benchmark consumed counters) :
    Observed benchmark (consumed ++ items) (items.foldl (Counters.consume benchmark) counters) := by
  induction items generalizing consumed counters with
  | nil => simpa using observed
  | cons item rest ih =>
      have next := ih (consumed ++ [item]) (counters.consume benchmark item)
        (observed_consume benchmark consumed counters item observed)
      simpa using next

/-- The verdict over samples that all bear a number of the run. -/
theorem resultRecord_ok_iff (consumed : List Item) (counters : Counters)
    (observed : Observed benchmark consumed counters)
    (numbered : ∀ item ∈ consumed, item.valid = true → item.sequence < benchmark.total) :
    (resultRecord benchmark counters).status = "ok" ↔
      (∀ item ∈ consumed, Passes benchmark item) ∧
        consumed.map Item.sequence = List.range benchmark.total := by
  rw [← observed.clean]
  by_cases clean : counters.payloadError = none
  · have tally := observed.tally clean
    have counted : counters.duplicate = 0 ↔ (consumed.map Item.sequence).Nodup := by
      rw [← Multiset.coe_nodup, ← Multiset.toFinset_card_eq_card_iff_nodup, List.toFinset_coe,
        Multiset.coe_card, ← tally.seen, ← tally.duplicate]
      omega
    have passes := observed.clean.mp clean
    have exact_range : (∃ stray, consumed.map Item.sequence = List.range benchmark.total ++ stray ∧
        (∀ number ∈ stray, benchmark.total ≤ number) ∧ stray.Pairwise (· < ·)) ↔
        consumed.map Item.sequence = List.range benchmark.total := by
      constructor
      · rintro ⟨stray, split, beyond, -⟩
        cases stray with
        | nil => simpa using split
        | cons number rest =>
            have member : number ∈ consumed.map Item.sequence := by simp [split]
            obtain ⟨item, inside, rfl⟩ := List.mem_map.mp member
            have low := numbered item inside (passes item inside).valid
            exact absurd (beyond item.sequence List.mem_cons_self) (by omega)
      · intro whole
        exact ⟨[], by simp [whole], by simp, .nil⟩
    rw [and_iff_right clean, ← exact_range, ← complete_iff, ← counted, ← tally.outOfOrder,
      ← tally.seen]
    simp only [resultRecord, clean, and_true]
    split
    case isTrue complete => exact iff_of_true rfl complete
    case isFalse incomplete => exact iff_of_false (by decide) incomplete
  · refine iff_of_false ?_ fun both => clean both.1
    simp [resultRecord, clean]

end Counters

/-! ## Invariants -/

section Invariants

variable (benchmark : BenchmarkCase) (runId : List Char)

/-- All that a publisher prints if nothing fails. -/
def publisherLines (elapsedNs : Nat) : List Line :=
  [.ready .publisher, .matched .publisher,
    .done (doneLine runId benchmark.total (benchmark.total * benchmark.payloadBytes) elapsedNs)]

def subscriberLines (counters : Counters) : List Line :=
  [.ready .subscriber, .matched .subscriber, .result (resultRecord benchmark counters)]

/-- How many lines it has printed and how many commands it has read, if no error has ended it. -/
def publisherProgress : Publisher → Option (Nat × Nat)
  | .unborn | .creating => some (0, 0)
  | .matching => some (1, 0)
  | .starting => some (2, 0)
  | .sending _ _ => some (2, 1)
  | .stopping => some (3, 1)
  | .returning | .exited true => some (3, 2)
  | .exited false => none

def subscriberProgress : Subscriber → Option (Nat × Nat)
  | .unborn | .creating => some (0, 0)
  | .matching => some (1, 0)
  | .starting => some (2, 0)
  | .receiving _ => some (2, 1)
  | .returning | .exited true => some (3, 1)
  | .exited false => none

/-- The publisher: it has written a first part of the messages in their order, nothing before
its first command, and all of them before its last line. -/
structure Publishing (world : World) : Prop where
  controls : world.publisherIn.sent <+: [.start, .stop]
  within : world.publisherIn.read ≤ world.publisherIn.sent.length
  told : ∃ elapsedNs, world.publisherOut.sent <+: publisherLines benchmark runId elapsedNs
  progress : ∀ printed taken, publisherProgress world.publisher = some (printed, taken) →
    world.publisherOut.sent.length = printed ∧ world.publisherIn.read = taken
  messages : ∀ index message, world.written[index]? = some message →
    ∃ clock, message = makeMessage (UInt64.ofNat index) benchmark.payloadBytes clock
  bounded : world.written.length ≤ benchmark.total
  fits : world.publisherOut.sent ≠ [] → benchmark.total < 2 ^ 31
  sending : ∀ sequence bytesSent, world.publisher = .sending sequence bytesSent →
    world.written.length = sequence ∧ bytesSent = sequence * benchmark.payloadBytes
  waiting : ∀ printed, publisherProgress world.publisher = some (printed, 0) → world.written = []
  begun : world.written ≠ [] → world.publisherIn.sent ≠ []
  doneStarted : 2 < world.publisherOut.sent.length → world.publisherIn.sent ≠ []
  doneWritten : 2 < world.publisherOut.sent.length → world.written.length = benchmark.total

/-- The subscriber: what it counts and reports are the samples it has looked at, all of them
written before. -/
structure Receiving (world : World) : Prop where
  controls : world.subscriberIn.sent <+: [.start]
  within : world.subscriberIn.read ≤ world.subscriberIn.sent.length
  told : ∃ counters, world.subscriberOut.sent <+: subscriberLines benchmark counters ∧
    (2 < world.subscriberOut.sent.length → Observed benchmark world.consumed counters)
  progress : ∀ printed taken, subscriberProgress world.subscriber = some (printed, taken) →
    world.subscriberOut.sent.length = printed ∧ world.subscriberIn.read = taken
  receiving : ∀ counters, world.subscriber = .receiving counters →
    Observed benchmark world.consumed counters
  waiting : ∀ printed, subscriberProgress world.subscriber = some (printed, 0) →
    world.consumed = []
  genuine : ∀ item ∈ world.consumed, item.valid = true → item.message ∈ world.written
  begun : world.consumed ≠ [] → world.subscriberIn.sent ≠ []
  resultStarted : 2 < world.subscriberOut.sent.length → world.subscriberIn.sent ≠ []

/-- The numbers that the runner reads in a `DONE` line. -/
def Reads (text : List Char) (messagesSent bytesSent : Nat) : Prop :=
  (parseValue text "messages_sent".toList).bind (parseUnsigned (2 ^ 64)) = some messagesSent ∧
    (parseValue text "bytes_sent".toList).bind (parseUnsigned (2 ^ 128)) = some bytesSent

/-- The third line of each child is its report; a printed line is read some time later. -/
def ResultRead (world : World) (record : ResultRecord) : Prop :=
  world.subscriberOut.sent[2]? = some (.result record) ∧ 2 < world.subscriberOut.read

def DoneRead (world : World) (messagesSent bytesSent : Nat) : Prop :=
  ∃ text, world.publisherOut.sent[2]? = some (.done text) ∧ Reads text messagesSent bytesSent ∧
    2 < world.publisherOut.read

def Collected (world : World) (record : ResultRecord) : Prop :=
  ∃ base messagesSent bytesSent, ResultRead world base ∧ DoneRead world messagesSent bytesSent ∧
    record = { base with messagesSent := messagesSent, bytesSent := bytesSent }

def Concluded (world : World) : Outcome → Prop
  | .failed _ => True
  | .record record childFailed => ∃ base subscriberStatus publisherStatus,
      Collected world base ∧ world.subscriber = .exited subscriberStatus ∧
        world.publisher = .exited publisherStatus ∧
        Outcome.record record childFailed = finish base subscriberStatus publisherStatus

/-- The handshake has a mark for each line that it has read. -/
def Marked (world : World) (marks : Finset Mark) : Prop :=
  ((false, .subscriber) ∈ marks ↔ 1 ≤ world.subscriberOut.read) ∧
    ((true, .subscriber) ∈ marks ↔ 2 ≤ world.subscriberOut.read) ∧
    ((false, .publisher) ∈ marks ↔ 1 ≤ world.publisherOut.read) ∧
    ((true, .publisher) ∈ marks ↔ 2 ≤ world.publisherOut.read)

def SubscriberGone (world : World) : Prop :=
  world.subscriber = .unborn ∨ ∃ status, world.subscriber = .exited status

def PublisherGone (world : World) : Prop :=
  world.publisher = .unborn ∨ ∃ status, world.publisher = .exited status

/-- How many commands the runner has given and how many lines it has read. -/
structure At (world : World) (started : List Control) (commands : List Control) (least : Nat) :
    Prop where
  subscriberIn : world.subscriberIn.sent = started
  publisherIn : world.publisherIn.sent = commands
  subscriberOut : least ≤ world.subscriberOut.read
  publisherOut : least ≤ world.publisherOut.read

/-- What the runner knows where it is. -/
def Steered (world : World) : Runner → Prop
  | .spawnSubscriber =>
      At world [] [] 0 ∧ Marked world ∅ ∧ world.subscriber = .unborn ∧ world.publisher = .unborn
  | .spawnPublisher => At world [] [] 0 ∧ Marked world ∅ ∧ world.publisher = .unborn
  | .handshake marks _ => At world [] [] 0 ∧ Marked world marks
  | .startSubscriber => At world [] [] 2
  | .startPublisher => At world [.start] [] 2
  | .collecting result messagesSent bytesSent _ =>
      At world [.start] [.start] 2 ∧
        (result = none ∨ ∃ record, result = some record ∧ ResultRead world record) ∧
        (messagesSent = none ∧ bytesSent = none ∨ ∃ messages bytes, messagesSent = some messages ∧
          bytesSent = some bytes ∧ DoneRead world messages bytes)
  | .stopPublisher record => At world [.start] [.start] 2 ∧ Collected world record
  | .waitSubscriber record => At world [.start] [.start, .stop] 2 ∧ Collected world record
  | .waitPublisher record subscriberStatus =>
      At world [.start] [.start, .stop] 2 ∧ Collected world record ∧
        world.subscriber = .exited subscriberStatus
  | .dropPublisher outcome => Concluded world outcome
  | .dropSubscriber outcome => Concluded world outcome ∧ PublisherGone world
  | .ended outcome => Concluded world outcome ∧ PublisherGone world ∧ SubscriberGone world

/-- A command is only given to a child whose line before it has been read. -/
structure Commanded (world : World) : Prop where
  started : world.subscriberIn.sent ≠ [] ∨ world.publisherIn.sent ≠ [] →
    2 ≤ world.subscriberOut.read ∧ 2 ≤ world.publisherOut.read
  stopped : .stop ∈ world.publisherIn.sent → ∃ record, Collected world record

structure Inv (world : World) : Prop where
  publishing : Publishing benchmark runId world
  receiving : Receiving benchmark world
  steered : Steered world world.runner
  commanded : Commanded world
  subscriberRead : world.subscriberOut.read ≤ world.subscriberOut.sent.length
  publisherRead : world.publisherOut.read ≤ world.publisherOut.sent.length

theorem init_inv : Inv benchmark runId World.initial where
  publishing := by
    constructor <;> simp [World.initial, Pipe.new, publisherProgress, publisherLines]
  receiving := by
    constructor
    case told => exact ⟨.init, by simp [World.initial, Pipe.new], by simp [World.initial, Pipe.new]⟩
    all_goals simp [World.initial, Pipe.new, subscriberProgress]
  steered := ⟨⟨rfl, rfl, Nat.zero_le _, Nat.zero_le _⟩, by simp [Marked, World.initial, Pipe.new],
    rfl, rfl⟩
  commanded := by constructor <;> simp [World.initial, Pipe.new]
  subscriberRead := Nat.le_refl _
  publisherRead := Nat.le_refl _

/-! ## Steps of the publisher -/

theorem prefix_snoc (sent script : List Line) (line : Line) (told : sent <+: script)
    (next : script[sent.length]? = some line) : sent ++ [line] <+: script := by
  obtain ⟨rest, rfl⟩ := told
  rw [List.getElem?_append_right (Nat.le_refl _), Nat.sub_self] at next
  cases rest with
  | nil => cases next
  | cons first rest =>
      simp only [List.getElem?_cons_zero, Option.some.injEq] at next
      subst next
      exact ⟨rest, by simp⟩

theorem first_control (sent : List Control) (read : Nat) (control : Control)
    (controls : sent <+: [.start, .stop]) (unread : sent[read]? = some control) :
    (read = 0 ∧ control = .start) ∨ (read = 1 ∧ control = .stop) := by
  obtain ⟨rest, whole⟩ := controls
  have inside : read < sent.length := (List.getElem?_eq_some_iff.mp unread).1
  have both : ([.start, .stop] : List Control)[read]? = some control := by
    rw [← whole, List.getElem?_append_left inside, unread]
  match read with
  | 0 => exact .inl ⟨rfl, by simpa using both.symm⟩
  | 1 => exact .inr ⟨rfl, by simpa using both.symm⟩
  | read + 2 => simp at both

theorem publisherLines_short (sent : List Line) (first second : Nat)
    (told : sent <+: publisherLines benchmark runId first) (short : sent.length ≤ 2) :
    sent <+: publisherLines benchmark runId second := by
  rw [List.prefix_iff_eq_take] at told ⊢
  rw [told]
  match length : sent.length with
  | 0 => simp
  | 1 => rfl
  | 2 => rfl
  | count + 3 => omega

theorem written_snoc (written : List BenchmarkMessage) (clock : UInt64)
    (messages : ∀ index message, written[index]? = some message →
      ∃ clock, message = makeMessage (UInt64.ofNat index) benchmark.payloadBytes clock) :
    ∀ index message, (written ++ [makeMessage (UInt64.ofNat written.length)
      benchmark.payloadBytes clock])[index]? = some message →
      ∃ clock, message = makeMessage (UInt64.ofNat index) benchmark.payloadBytes clock := by
  intro index message found
  rcases Nat.lt_trichotomy index written.length with early | rfl | late
  · rw [List.getElem?_append_left early] at found
    exact messages index message found
  · rw [List.getElem?_append_right (Nat.le_refl _), Nat.sub_self, List.getElem?_cons_zero,
      Option.some.injEq] at found
    exact ⟨clock, found.symm⟩
  · rw [List.getElem?_eq_none (by simp; omega)] at found
    cases found

/-- A publisher that has ended with an error keeps what it has printed and written. -/
theorem publishing_failed (world : World) (held : Publishing benchmark runId world) :
    Publishing benchmark runId { world with publisher := .exited false } :=
  { held with
    progress := by
      intro printed taken known
      cases known
    sending := by
      intro sequence bytesSent same
      cases same
    waiting := by
      intro printed known
      cases known }

/-- Its first two lines are printed before it has read a command. -/
theorem publishing_announced (world : World) (phase : Publisher) (line : Line) (count : Nat)
    (held : Publishing benchmark runId world)
    (now : publisherProgress world.publisher = some (count, 0))
    (later : publisherProgress phase = some (count + 1, 0)) (early : count < 2)
    (fits : benchmark.total < 2 ^ 31)
    (first : ∀ elapsedNs, (publisherLines benchmark runId elapsedNs)[count]? = some line) :
    Publishing benchmark runId { world with
      publisher := phase, publisherOut := world.publisherOut.send line } := by
  obtain ⟨elapsedNs, told⟩ := held.told
  obtain ⟨printed, read⟩ := held.progress count 0 now
  have nothing := held.waiting count now
  have sent : (world.publisherOut.send line).sent.length = count + 1 := by
    simp [Pipe.send, printed]
  refine { held with
    told := ⟨elapsedNs, prefix_snoc _ _ _ told (by rw [printed]; exact first elapsedNs)⟩
    progress := ?_, fits := fun _ => fits, sending := ?_, waiting := fun _ _ => nothing
    doneStarted := ?_, doneWritten := ?_ }
  · intro _ _ known
    obtain ⟨rfl, rfl⟩ := Prod.mk.inj (Option.some.inj (later.symm.trans known))
    exact ⟨sent, read⟩
  · intro sequence bytesSent same
    rw [show phase = .sending sequence bytesSent from same] at later
    cases later
  · intro many
    exact absurd (sent ▸ many) (by omega)
  · intro many
    exact absurd (sent ▸ many) (by omega)

/-- The first command finds nothing written yet. -/
theorem publishing_started (world : World) (held : Publishing benchmark runId world)
    (phase : world.publisher = .starting)
    (unread : world.publisherIn.read < world.publisherIn.sent.length) :
    Publishing benchmark runId { world with
      publisherIn := world.publisherIn.advance, publisher := .sending 0 0 } := by
  obtain ⟨printed, read⟩ := held.progress 2 0 (by rw [phase]; rfl)
  have nothing := held.waiting 2 (by rw [phase]; rfl)
  refine { held with
    within := unread, progress := ?_, sending := ?_, waiting := fun _ _ => nothing }
  · rintro _ _ ⟨⟩
    exact ⟨printed, congrArg (· + 1) read⟩
  · rintro _ _ ⟨⟩
    simp [nothing]

/-- A message that is written carries on the sequence of those before it. -/
theorem publishing_wrote (world : World) (sequence bytesSent : Nat) (clock : UInt64)
    (held : Publishing benchmark runId world)
    (phase : world.publisher = .sending sequence bytesSent) (more : sequence < benchmark.total) :
    Publishing benchmark runId { world with
      written := world.written ++
        [makeMessage (UInt64.ofNat sequence) benchmark.payloadBytes clock]
      publisher := .sending (sequence + 1) (bytesSent +
        (makeMessage (UInt64.ofNat sequence) benchmark.payloadBytes clock).payload.length) } := by
  obtain ⟨printed, read⟩ := held.progress 2 1 (by rw [phase]; rfl)
  obtain ⟨count, bytes⟩ := held.sending sequence bytesSent phase
  have within := held.within
  have given : world.publisherIn.sent ≠ [] := List.ne_nil_of_length_pos (by omega)
  have wrote := written_snoc benchmark world.written clock held.messages
  rw [count] at wrote
  refine { held with
    progress := ?_, messages := wrote, bounded := ?_, sending := ?_, waiting := ?_
    begun := fun _ => given, doneWritten := ?_ }
  · rintro _ _ ⟨⟩
    exact ⟨printed, read⟩
  · rw [List.length_append, List.length_singleton, count]
    exact more
  · rintro _ _ ⟨⟩
    refine ⟨by rw [List.length_append, List.length_singleton, count], ?_⟩
    rw [bytes, Nat.add_one_mul]
    simp [makeMessage]
  · rintro _ ⟨⟩
  · intro many
    exact absurd (show 2 < world.publisherOut.sent.length from many) (by omega)

/-- The line `DONE` goes out with the count and the bytes of the whole case. -/
theorem publishing_finished (world : World) (sequence bytesSent elapsedNs : Nat)
    (held : Publishing benchmark runId world)
    (phase : world.publisher = .sending sequence bytesSent)
    (all : ¬ sequence < benchmark.total) :
    Publishing benchmark runId { world with
      publisher := .stopping
      publisherOut := world.publisherOut.send
        (.done (doneLine runId benchmark.total bytesSent elapsedNs)) } := by
  obtain ⟨before, told⟩ := held.told
  obtain ⟨printed, read⟩ := held.progress 2 1 (by rw [phase]; rfl)
  obtain ⟨count, bytes⟩ := held.sending sequence bytesSent phase
  have within := held.within
  have bounded := held.bounded
  have given : world.publisherIn.sent ≠ [] := List.ne_nil_of_length_pos (by omega)
  -- The loop ends at the total and not beyond it, as no more than that is ever written.
  have whole : sequence = benchmark.total := by omega
  subst whole
  have fits := held.fits (List.ne_nil_of_length_pos (by omega))
  have short := publisherLines_short benchmark runId _ before elapsedNs told (by omega)
  refine { held with
    told := ⟨elapsedNs, prefix_snoc _ _ _ short (by rw [printed, bytes]; rfl)⟩
    progress := ?_, fits := fun _ => fits, sending := ?_, waiting := ?_
    doneStarted := fun _ => given, doneWritten := fun _ => count }
  · rintro _ _ ⟨⟩
    simp [Pipe.send, printed, read]
  · rintro _ _ ⟨⟩
  · rintro _ ⟨⟩

theorem publishing_stopped (world : World) (held : Publishing benchmark runId world)
    (phase : world.publisher = .stopping)
    (unread : world.publisherIn.read < world.publisherIn.sent.length) :
    Publishing benchmark runId { world with
      publisherIn := world.publisherIn.advance, publisher := .returning } := by
  obtain ⟨printed, read⟩ := held.progress 3 1 (by rw [phase]; rfl)
  refine { held with within := unread, progress := ?_, sending := ?_, waiting := ?_ }
  · rintro _ _ ⟨⟩
    exact ⟨printed, congrArg (· + 1) read⟩
  · rintro _ _ ⟨⟩
  · rintro _ ⟨⟩

theorem publishing_returned (world : World) (held : Publishing benchmark runId world)
    (phase : world.publisher = .returning) :
    Publishing benchmark runId { world with publisher := .exited true } := by
  obtain ⟨printed, read⟩ := held.progress 3 2 (by rw [phase]; rfl)
  refine { held with progress := ?_, sending := ?_, waiting := ?_ }
  · rintro _ _ ⟨⟩
    exact ⟨printed, read⟩
  · rintro _ _ ⟨⟩
  · rintro _ ⟨⟩

theorem publish_publishing (world next : World) (clock : UInt64)
    (held : Publishing benchmark runId world)
    (taken : publish benchmark runId world clock = some next) :
    Publishing benchmark runId next := by
  unfold publish at taken
  cases phase : world.publisher with
  | unborn => simp [phase] at taken
  | exited success => simp [phase] at taken
  | creating =>
      simp only [phase] at taken
      split at taken
      case isFalse =>
          cases taken
          exact publishing_failed benchmark runId world held
      case isTrue fits =>
          cases taken
          exact publishing_announced benchmark runId world .matching _ 0 held (by rw [phase]; rfl)
            rfl Nat.two_pos fits (fun _ => rfl)
  | matching =>
      have fits := held.fits (List.ne_nil_of_length_pos (by
        rw [(held.progress 1 0 (by rw [phase]; rfl)).1]
        exact Nat.one_pos))
      simp only [phase, Option.some.injEq] at taken
      subst taken
      exact publishing_announced benchmark runId world .starting _ 1 held (by rw [phase]; rfl)
        rfl Nat.one_lt_two fits (fun _ => rfl)
  | starting =>
      have read := (held.progress 2 0 (by rw [phase]; rfl)).2
      simp only [phase] at taken
      obtain ⟨control, unread, rfl⟩ := Option.map_eq_some_iff.mp taken
      have inside := (List.getElem?_eq_some_iff.mp unread).1
      rcases first_control _ _ control held.controls unread with ⟨-, rfl⟩ | ⟨second, -⟩
      · rw [if_pos rfl]
        exact publishing_started benchmark runId world held phase inside
      · omega
  | sending sequence bytesSent =>
      simp only [phase] at taken
      split at taken
      case isTrue more =>
          cases taken
          exact publishing_wrote benchmark runId world sequence bytesSent clock held phase more
      case isFalse all =>
          cases taken
          exact publishing_finished benchmark runId world sequence bytesSent clock.toNat held phase
            all
  | stopping =>
      have read := (held.progress 3 1 (by rw [phase]; rfl)).2
      simp only [phase] at taken
      obtain ⟨control, unread, rfl⟩ := Option.map_eq_some_iff.mp taken
      have inside := (List.getElem?_eq_some_iff.mp unread).1
      rcases first_control _ _ control held.controls unread with ⟨first, -⟩ | ⟨-, rfl⟩
      · omega
      · rw [if_pos rfl]
        exact publishing_stopped benchmark runId world held phase inside
  | returning =>
      simp only [phase, Option.some.injEq] at taken
      subst taken
      exact publishing_returned benchmark runId world held phase

/-! ## Steps of the subscriber -/

theorem receiving_failed (world : World) (held : Receiving benchmark world) :
    Receiving benchmark { world with subscriber := .exited false } :=
  { held with
    progress := by
      intro printed taken known
      cases known
    receiving := by
      intro counters same
      cases same
    waiting := by
      intro printed known
      cases known }

theorem subscriberLines_short (sent : List Line) (first second : Counters)
    (told : sent <+: subscriberLines benchmark first) (short : sent.length ≤ 2) :
    sent <+: subscriberLines benchmark second := by
  rw [List.prefix_iff_eq_take] at told ⊢
  rw [told]
  match length : sent.length with
  | 0 => simp
  | 1 => rfl
  | 2 => rfl
  | count + 3 => omega

theorem only_start (sent : List Control) (read : Nat) (control : Control)
    (controls : sent <+: [.start]) (unread : sent[read]? = some control) : control = .start := by
  have member := controls.subset (List.mem_of_getElem? unread)
  simpa using member

/-- The result goes out with the counters of all that was looked at. -/
theorem receiving_finished (world : World) (counters : Counters)
    (held : Receiving benchmark world) (phase : world.subscriber = .receiving counters) :
    Receiving benchmark { world with
      subscriber := .returning
      subscriberOut := world.subscriberOut.send (.result (resultRecord benchmark counters)) } := by
  obtain ⟨first, told, -⟩ := held.told
  obtain ⟨printed, read⟩ := held.progress 2 1 (by rw [phase]; rfl)
  have within := held.within
  have given : world.subscriberIn.sent ≠ [] := List.ne_nil_of_length_pos (by omega)
  have short := subscriberLines_short benchmark _ first counters told (by omega)
  refine { held with
    told := ⟨counters, prefix_snoc _ _ _ short (by rw [printed]; rfl),
      fun _ => held.receiving counters phase⟩
    progress := ?_, receiving := ?_, waiting := ?_, resultStarted := fun _ => given }
  · rintro _ _ ⟨⟩
    simp [Pipe.send, printed, read]
  · rintro _ ⟨⟩
  · rintro _ ⟨⟩

/-- Its first two lines are printed before it has read a command. -/
theorem receiving_announced (world : World) (phase : Subscriber) (line : Line) (count : Nat)
    (held : Receiving benchmark world)
    (now : subscriberProgress world.subscriber = some (count, 0))
    (later : subscriberProgress phase = some (count + 1, 0)) (early : count < 2)
    (first : ∀ counters, (subscriberLines benchmark counters)[count]? = some line) :
    Receiving benchmark { world with
      subscriber := phase, subscriberOut := world.subscriberOut.send line } := by
  obtain ⟨counters, told, -⟩ := held.told
  obtain ⟨printed, read⟩ := held.progress count 0 now
  have nothing := held.waiting count now
  have sent : (world.subscriberOut.send line).sent.length = count + 1 := by
    simp [Pipe.send, printed]
  refine { held with
    told := ⟨counters, prefix_snoc _ _ _ told (by rw [printed]; exact first counters), ?_⟩
    progress := ?_, receiving := ?_, waiting := fun _ _ => nothing, resultStarted := ?_ }
  · intro many
    exact absurd (sent ▸ many) (by omega)
  · intro _ _ known
    obtain ⟨rfl, rfl⟩ := Prod.mk.inj (Option.some.inj (later.symm.trans known))
    exact ⟨sent, read⟩
  · intro inLoop same
    rw [show phase = .receiving inLoop from same] at later
    cases later
  · intro many
    exact absurd (sent ▸ many) (by omega)

/-- The first command finds nothing looked at yet. -/
theorem receiving_started (world : World) (held : Receiving benchmark world)
    (phase : world.subscriber = .starting)
    (unread : world.subscriberIn.read < world.subscriberIn.sent.length) :
    Receiving benchmark { world with
      subscriberIn := world.subscriberIn.advance, subscriber := .receiving .init } := by
  obtain ⟨printed, read⟩ := held.progress 2 0 (by rw [phase]; rfl)
  have nothing := held.waiting 2 (by rw [phase]; rfl)
  refine { held with within := unread, progress := ?_, receiving := ?_, waiting := ?_ }
  · rintro _ _ ⟨⟩
    exact ⟨printed, congrArg (· + 1) read⟩
  · rintro _ ⟨⟩
    rw [nothing]
    exact observed_init benchmark
  · rintro _ ⟨⟩

/-- A batch is counted whole, and its valid samples are such that have been written. -/
theorem receiving_batch (world : World) (counters : Counters) (items : List Item)
    (held : Receiving benchmark world) (phase : world.subscriber = .receiving counters)
    (genuine : ∀ item ∈ items, item.valid = true → item.message ∈ world.written) :
    Receiving benchmark { world with
      subscriber := .receiving (items.foldl (Counters.consume benchmark) counters)
      consumed := world.consumed ++ items } := by
  obtain ⟨first, told, -⟩ := held.told
  obtain ⟨printed, read⟩ := held.progress 2 1 (by rw [phase]; rfl)
  have within := held.within
  have given : world.subscriberIn.sent ≠ [] := List.ne_nil_of_length_pos (by omega)
  refine { held with
    told := ⟨first, told, fun many => absurd many (by rw [printed]; decide)⟩
    progress := ?_, receiving := ?_, waiting := ?_, genuine := ?_
    begun := fun _ => given }
  · rintro _ _ ⟨⟩
    exact ⟨printed, read⟩
  · rintro _ ⟨⟩
    exact observed_fold benchmark _ items counters (held.receiving counters phase)
  · rintro _ ⟨⟩
  · intro item member
    rcases List.mem_append.mp member with before | new
    · exact held.genuine item before
    · exact genuine item new

theorem receiving_returned (world : World) (held : Receiving benchmark world)
    (phase : world.subscriber = .returning) :
    Receiving benchmark { world with subscriber := .exited true } := by
  obtain ⟨printed, read⟩ := held.progress 3 1 (by rw [phase]; rfl)
  refine { held with progress := ?_, receiving := ?_, waiting := ?_ }
  · rintro _ _ ⟨⟩
    exact ⟨printed, read⟩
  · rintro _ ⟨⟩
  · rintro _ ⟨⟩

theorem subscribe_receiving (world next : World) (poll : Option Poll)
    (held : Receiving benchmark world) (taken : subscribe benchmark world poll = some next) :
    Receiving benchmark next := by
  unfold subscribe at taken
  cases phase : world.subscriber with
  | unborn => simp [phase] at taken
  | exited success => simp [phase] at taken
  | creating =>
      simp only [phase] at taken
      split at taken <;> cases taken
      · exact receiving_announced benchmark world .matching _ 0 held (by rw [phase]; rfl) rfl
          Nat.two_pos (fun _ => rfl)
      · exact receiving_failed benchmark world held
  | matching =>
      simp only [phase, Option.some.injEq] at taken
      subst taken
      exact receiving_announced benchmark world .starting _ 1 held (by rw [phase]; rfl) rfl
        Nat.one_lt_two (fun _ => rfl)
  | starting =>
      simp only [phase] at taken
      obtain ⟨control, unread, rfl⟩ := Option.map_eq_some_iff.mp taken
      have inside := (List.getElem?_eq_some_iff.mp unread).1
      obtain rfl := only_start _ _ control held.controls unread
      rw [if_pos rfl]
      exact receiving_started benchmark world held phase inside
  | receiving counters =>
      have finished := receiving_finished benchmark world counters held phase
      simp only [phase] at taken
      split at taken
      case isFalse =>
          cases taken
          exact finished
      case isTrue more =>
          cases poll with
          | none =>
              cases taken
              exact finished
          | some poll =>
              cases poll with
              | noData =>
                  cases taken
                  exact held
              | error error =>
                  cases taken
                  exact receiving_failed benchmark world held
              | batch items =>
                  obtain ⟨genuine, made⟩ := Option.ite_none_right_eq_some.mp taken
                  cases made
                  exact receiving_batch benchmark world counters items held phase genuine
  | returning =>
      simp only [phase, Option.some.injEq] at taken
      subst taken
      exact receiving_returned benchmark world held phase

end Invariants

end CycloneddsRs.BenchSafety
