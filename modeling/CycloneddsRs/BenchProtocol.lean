import CycloneddsRs.ReceiveVerdict
import CycloneddsRs.StepRuns
import Mathlib.Data.Fintype.Card
import Mathlib.Data.Fintype.Prod

/-!
runner.rs, publisher.rs, subscriber.rs and the control lines of lib.rs: one benchmark case in
three processes. The runner talks to its two children over their standard input and output,
and the children over a topic that may lose, repeat and reorder what is written.
-/

namespace CycloneddsRs.BenchProtocol
open BoundaryPayload DdsError ReceiveVerdict StepRuns

/-! ## The `DONE` line -/

/-- The characters of `char::is_whitespace`. -/
def isWhitespace (character : Char) : Bool :=
  let code := character.toNat
  (9 ≤ code && code ≤ 13) || code == 32 || code == 0x85 || code == 0xA0 || code == 0x1680 ||
    (0x2000 ≤ code && code ≤ 0x200A) || code == 0x2028 || code == 0x2029 || code == 0x202F ||
    code == 0x205F || code == 0x3000

def splitWhitespace (line : List Char) : List (List Char) :=
  (line.splitOnP isWhitespace).filter fun field => !field.isEmpty

def stripPrefix (start field : List Char) : Option (List Char) :=
  if start.isPrefixOf field then some (field.drop start.length) else none

def parseValue (line key : List Char) : Option (List Char) :=
  (splitWhitespace line).findSome? (stripPrefix (key ++ ['=']))

/-- `parse` into an unsigned type with values below the bound. -/
def parseUnsigned (bound : Nat) (text : List Char) : Option Nat :=
  let digits := (stripPrefix ['+'] text).getD text
  if digits ≠ [] ∧ digits.all Char.isDigit ∧ Nat.ofDigitChars 10 digits 0 < bound then
    some (Nat.ofDigitChars 10 digits 0)
  else none

def doneLine (runId : List Char) (messagesSent bytesSent elapsedNs : Nat) : List Char :=
  "DONE".toList ++ ' ' :: ("role=publisher".toList ++ ' ' ::
    (("run_id=".toList ++ runId) ++ ' ' ::
      (("messages_sent=".toList ++ Nat.toDigits 10 messagesSent) ++ ' ' ::
        (("bytes_sent=".toList ++ Nat.toDigits 10 bytesSent) ++ ' ' ::
          ("elapsed_ns=".toList ++ Nat.toDigits 10 elapsedNs)))))

theorem word_of_all {word : List Char}
    (plain : word.all (fun character => !isWhitespace character) = true) :
    ∀ character ∈ word, isWhitespace character = false := by
  intro character member
  simpa using List.all_eq_true.mp plain character member

theorem digits_not_whitespace (number : Nat) :
    ∀ character ∈ Nat.toDigits 10 number, isWhitespace character = false := by
  intro character member
  have digit := Nat.isDigit_of_mem_toDigits (by decide) (by decide) member
  simp only [Char.isDigit, Bool.and_eq_true, decide_eq_true_eq] at digit
  have low : 48 ≤ character.toNat := digit.1
  have high : character.toNat ≤ 57 := digit.2
  simp only [isWhitespace, Bool.or_eq_false_iff, Bool.and_eq_false_iff, beq_eq_false_iff_ne,
    decide_eq_false_iff_not]
  omega

theorem splitWhitespace_word (word rest : List Char) (nonempty : word ≠ [])
    (plain : ∀ character ∈ word, isWhitespace character = false) :
    splitWhitespace (word ++ ' ' :: rest) = word :: splitWhitespace rest := by
  rw [splitWhitespace, List.splitOnP_append_cons_of_forall_mem plain ' ' (by decide) rest]
  exact List.filter_cons_of_pos (by simpa using nonempty)

theorem splitWhitespace_last (word : List Char) (nonempty : word ≠ [])
    (plain : ∀ character ∈ word, isWhitespace character = false) :
    splitWhitespace word = [word] := by
  rw [splitWhitespace, List.splitOnP_eq_singleton plain]
  simpa using nonempty

/-- What `parse` reads back from a printed number. -/
theorem parseUnsigned_digits (bound number : Nat) (fits : number < bound) :
    parseUnsigned bound (Nat.toDigits 10 number) = some number := by
  have nonempty : Nat.toDigits 10 number ≠ [] := Nat.toDigits_ne_nil
  have digits : ∀ character ∈ Nat.toDigits 10 number, character.isDigit = true :=
    fun character member => Nat.isDigit_of_mem_toDigits (by decide) (by decide) member
  have unsigned : stripPrefix ['+'] (Nat.toDigits 10 number) = none := by
    cases text : Nat.toDigits 10 number with
    | nil => exact absurd text nonempty
    | cons first rest =>
        have digit := digits first (by rw [text]; exact List.mem_cons_self)
        refine if_neg fun same => ?_
        simp only [List.isPrefixOf, Bool.and_true, beq_iff_eq] at same
        rw [← same] at digit
        cases digit
  simp only [parseUnsigned, unsigned, Option.getD_none, Nat.ofDigitChars_ten_toDigits]
  exact if_pos ⟨nonempty, List.all_eq_true.mpr digits, fits⟩

/-- With a run id of one word the fields of the line are read back. -/
theorem parseValue_doneLine (runId : List Char) (messagesSent bytesSent elapsedNs : Nat)
    (plain : ∀ character ∈ runId, isWhitespace character = false) :
    parseValue (doneLine runId messagesSent bytesSent elapsedNs) "messages_sent".toList =
        some (Nat.toDigits 10 messagesSent) ∧
      parseValue (doneLine runId messagesSent bytesSent elapsedNs) "bytes_sent".toList =
        some (Nat.toDigits 10 bytesSent) := by
  have word : ∀ (key : List Char) (number : Nat), key ≠ [] →
      (∀ character ∈ key, isWhitespace character = false) →
      key ++ Nat.toDigits 10 number ≠ [] ∧
        ∀ character ∈ key ++ Nat.toDigits 10 number, isWhitespace character = false := by
    intro key number some plainKey
    refine ⟨List.append_ne_nil_of_left_ne_nil some _, fun character member => ?_⟩
    rcases List.mem_append.mp member with inKey | inNumber
    · exact plainKey character inKey
    · exact digits_not_whitespace number character inNumber
  have sent := word "messages_sent=".toList messagesSent (by simp) (word_of_all (by decide))
  have bytes := word "bytes_sent=".toList bytesSent (by simp) (word_of_all (by decide))
  have elapsed := word "elapsed_ns=".toList elapsedNs (by simp) (word_of_all (by decide))
  have key : ∀ character ∈ "run_id=".toList, isWhitespace character = false :=
    word_of_all (by decide)
  have plainRun : ∀ character ∈ "run_id=".toList ++ runId, isWhitespace character = false := by
    intro character member
    rcases List.mem_append.mp member with inKey | inRun
    · exact key character inKey
    · exact plain character inRun
  have fields : splitWhitespace (doneLine runId messagesSent bytesSent elapsedNs) =
      ["DONE".toList, "role=publisher".toList, "run_id=".toList ++ runId,
        "messages_sent=".toList ++ Nat.toDigits 10 messagesSent,
        "bytes_sent=".toList ++ Nat.toDigits 10 bytesSent,
        "elapsed_ns=".toList ++ Nat.toDigits 10 elapsedNs] := by
    have first : ∀ character ∈ "DONE".toList, isWhitespace character = false :=
      word_of_all (by decide)
    have role : ∀ character ∈ "role=publisher".toList, isWhitespace character = false :=
      word_of_all (by decide)
    rw [doneLine, splitWhitespace_word "DONE".toList _ (by simp) first,
      splitWhitespace_word "role=publisher".toList _ (by simp) role,
      splitWhitespace_word ("run_id=".toList ++ runId) _ (by simp) plainRun,
      splitWhitespace_word _ _ sent.1 sent.2, splitWhitespace_word _ _ bytes.1 bytes.2,
      splitWhitespace_last _ elapsed.1 elapsed.2]
  constructor
  · rw [parseValue, fields]
    simp [List.findSome?, stripPrefix, List.isPrefixOf]
  · rw [parseValue, fields]
    simp [List.findSome?, stripPrefix, List.isPrefixOf]

/-! ## Processes -/

inductive Role where
  | subscriber | publisher
  deriving DecidableEq

instance : Fintype Role where
  elems := {.subscriber, .publisher}
  complete := by
    intro role
    cases role <;> simp

/-- A line that a child writes to its standard output. The record of `RESULT` is what
serde_json reads back. -/
inductive Line where
  | ready (role : Role)
  | matched (role : Role)
  | result (record : ResultRecord)
  | done (text : List Char)

inductive Control where
  | start | stop
  deriving DecidableEq

/-- All that was written into a pipe, and how much of it has been read. -/
structure Pipe (Item : Type) where
  sent : List Item
  read : Nat

def Pipe.new {Item : Type} : Pipe Item := { sent := [], read := 0 }

def Pipe.send {Item : Type} (pipe : Pipe Item) (item : Item) : Pipe Item :=
  { pipe with sent := pipe.sent ++ [item] }

def Pipe.next? {Item : Type} (pipe : Pipe Item) : Option Item := pipe.sent[pipe.read]?

def Pipe.advance {Item : Type} (pipe : Pipe Item) : Pipe Item := { pipe with read := pipe.read + 1 }

/-- Where `publish` is. An error makes the process exit without success. -/
inductive Publisher where
  | unborn | creating | matching | starting
  | sending (sequence bytesSent : Nat)
  | stopping | returning
  | exited (success : Bool)

/-- Where `receive` is. -/
inductive Subscriber where
  | unborn | creating | matching | starting
  | receiving (counters : Counters)
  | returning
  | exited (success : Bool)

inductive RunError where
  | spawn (role : Role)
  | exitedBeforeHandshake (role : Role)
  | readyMatchedTimeout
  | childTimeout
  | brokenPipe (role : Role)
  | doneUnreadable
  deriving DecidableEq

/-- What `run_children` returns. With `childFailed` the record has the error about the exits. -/
inductive Outcome where
  | record (record : ResultRecord) (childFailed : Bool)
  | failed (error : RunError)

/-- A mark of the handshake: whether it is `matched`, and of which child. -/
abbrev Mark := Bool × Role

inductive Runner where
  | spawnSubscriber | spawnPublisher
  | handshake (marks : Finset Mark) (turn : Role)
  | startSubscriber | startPublisher
  | collecting (result : Option ResultRecord) (messagesSent bytesSent : Option Nat) (turn : Role)
  | stopPublisher (record : ResultRecord)
  | waitSubscriber (record : ResultRecord)
  | waitPublisher (record : ResultRecord) (subscriberStatus : Bool)
  | dropPublisher (outcome : Outcome)
  | dropSubscriber (outcome : Outcome)
  | ended (outcome : Outcome)

/-- `written` is what the publisher has put on the topic, `consumed` the items that the
subscriber has looked at. -/
structure World where
  runner : Runner
  publisher : Publisher
  subscriber : Subscriber
  publisherIn : Pipe Control
  subscriberIn : Pipe Control
  publisherOut : Pipe Line
  subscriberOut : Pipe Line
  written : List BenchmarkMessage
  consumed : List Item

def World.initial : World :=
  { runner := .spawnSubscriber, publisher := .unborn, subscriber := .unborn
    publisherIn := .new, subscriberIn := .new, publisherOut := .new, subscriberOut := .new
    written := [], consumed := [] }

section Steps

variable (benchmark : BenchmarkCase) (runId : List Char)

/-! ### The publisher -/

/-- The next call of `publish` that succeeds. `clock` is what the next clock reading gives. -/
def publish (world : World) (clock : UInt64) : Option World :=
  match world.publisher with
  | .unborn | .exited _ => none
  | .creating =>
      if benchmark.total < 2 ^ 31 then
        some { world with
          publisher := .matching, publisherOut := world.publisherOut.send (.ready .publisher) }
      else some { world with publisher := .exited false }
  | .matching =>
      some { world with
        publisher := .starting, publisherOut := world.publisherOut.send (.matched .publisher) }
  | .starting =>
      world.publisherIn.next?.map fun control =>
        { world with
          publisherIn := world.publisherIn.advance
          publisher := if control = .start then .sending 0 0 else .exited false }
  | .sending sequence bytesSent =>
      if sequence < benchmark.total then
        let message := makeMessage (UInt64.ofNat sequence) benchmark.payloadBytes clock
        some { world with
          written := world.written ++ [message]
          publisher := .sending (sequence + 1) (bytesSent + message.payload.length) }
      else
        some { world with
          publisher := .stopping
          publisherOut := world.publisherOut.send
            (.done (doneLine runId benchmark.total bytesSent clock.toNat)) }
  | .stopping =>
      world.publisherIn.next?.map fun control =>
        { world with
          publisherIn := world.publisherIn.advance
          publisher := if control = .stop then .returning else .exited false }
  | .returning => some { world with publisher := .exited true }

/-! ### The subscriber -/

/-- The next call of `receive`. In its loop the deadline has passed if there is no poll; the
valid samples of a batch are such that the publisher has written. -/
def subscribe (world : World) (poll : Option Poll) : Option World :=
  match world.subscriber with
  | .unborn | .exited _ => none
  | .creating =>
      if benchmark.total < 2 ^ 31 then
        some { world with
          subscriber := .matching, subscriberOut := world.subscriberOut.send (.ready .subscriber) }
      else some { world with subscriber := .exited false }
  | .matching =>
      some { world with
        subscriber := .starting, subscriberOut := world.subscriberOut.send (.matched .subscriber) }
  | .starting =>
      world.subscriberIn.next?.map fun control =>
        { world with
          subscriberIn := world.subscriberIn.advance
          subscriber := if control = .start then .receiving .init else .exited false }
  | .receiving counters =>
      let finished := { world with
        subscriber := .returning
        subscriberOut := world.subscriberOut.send (.result (resultRecord benchmark counters)) }
      if counters.seen.card < benchmark.total then
        match poll with
        | none => some finished
        | some .noData => some world
        | some (.error _) => some { world with subscriber := .exited false }
        | some (.batch items) =>
            if ∀ item ∈ items, item.valid = true → item.message ∈ world.written then
              some { world with
                subscriber := .receiving (items.foldl (Counters.consume benchmark) counters)
                consumed := world.consumed ++ items }
            else none
      else some finished
  | .returning => some { world with subscriber := .exited true }

/-! ### The runner -/

/-- What `try_recv` gives. A line may still be on its way through the reading thread. -/
inductive Received where
  | line (line : Line)
  | empty
  | disconnected

def Publisher.HasExited : Publisher → Bool
  | .exited _ => true
  | _ => false

def Subscriber.HasExited : Subscriber → Bool
  | .exited _ => true
  | _ => false

def tryRecv (pipe : Pipe Line) (exited arrived : Bool) : Received × Pipe Line :=
  if arrived then
    match pipe.next? with
    | some line => (.line line, pipe.advance)
    | none => (if exited then .disconnected else .empty, pipe)
  else (.empty, pipe)

def receiveHandshakeLine (role : Role) (received : Received) (marks : Finset Mark) :
    Except RunError (Finset Mark) :=
  match received with
  | .line (.ready other) => .ok (if other = role then insert (false, role) marks else marks)
  | .line (.matched other) => .ok (if other = role then insert (true, role) marks else marks)
  | .line _ | .empty => .ok marks
  | .disconnected => .error (.exitedBeforeHandshake role)

def receiveResultLine (received : Received) (result : Option ResultRecord) :
    Option ResultRecord :=
  match received with
  | .line (.result record) => some record
  | _ => result

def receivePublisherLine (received : Received) (messagesSent bytesSent : Option Nat) :
    Except RunError (Option Nat × Option Nat) :=
  match received with
  | .line (.done text) =>
      match (parseValue text "messages_sent".toList).bind (parseUnsigned (2 ^ 64)),
        (parseValue text "bytes_sent".toList).bind (parseUnsigned (2 ^ 128)) with
      | some messagesSent, some bytesSent => .ok (some messagesSent, some bytesSent)
      | _, _ => .error .doneUnreadable
  | _ => .ok (messagesSent, bytesSent)

/-- `kill` and `wait`. -/
def World.killPublisher (world : World) : World :=
  match world.publisher with
  | .unborn | .exited _ => world
  | _ => { world with publisher := .exited false }

def World.killSubscriber (world : World) : World :=
  match world.subscriber with
  | .unborn | .exited _ => world
  | _ => { world with subscriber := .exited false }

/-- `?` in `run_children`: the children are dropped, the last one first. -/
def World.fail (world : World) (error : RunError) : World :=
  { world with runner := .dropPublisher (.failed error) }

/-- A record is final when both children have exited. -/
def finish (record : ResultRecord) (subscriberStatus publisherStatus : Bool) : Outcome :=
  if subscriberStatus && publisherStatus then .record record false
  else .record { record with status := "error" } true

/-- The next call of `run_children`. `arrived` says whether the reading thread has passed on
the next line, `late` whether the deadline of the loop has passed, `spawned` whether a spawn
succeeds. -/
def runChildren (world : World) (arrived late spawned : Bool) : Option World :=
  match world.runner with
  | .spawnSubscriber =>
      if spawned then some { world with runner := .spawnPublisher, subscriber := .creating }
      else some { world with runner := .ended (.failed (.spawn .subscriber)) }
  | .spawnPublisher =>
      if spawned then
        some { world with runner := .handshake ∅ .subscriber, publisher := .creating }
      else some { world with runner := .dropSubscriber (.failed (.spawn .publisher)) }
  | .handshake marks .subscriber =>
      if marks.card < 4 then
        let (received, pipe) := tryRecv world.subscriberOut world.subscriber.HasExited arrived
        match receiveHandshakeLine .subscriber received marks with
        | .ok marks =>
            some { world with runner := .handshake marks .publisher, subscriberOut := pipe }
        | .error error => some (world.fail error)
      else some { world with runner := .startSubscriber }
  | .handshake marks .publisher =>
      let (received, pipe) := tryRecv world.publisherOut world.publisher.HasExited arrived
      match receiveHandshakeLine .publisher received marks with
      | .ok marks =>
          if late then some (world.killSubscriber.killPublisher.fail .readyMatchedTimeout)
          else some { world with runner := .handshake marks .subscriber, publisherOut := pipe }
      | .error error => some (world.fail error)
  | .startSubscriber =>
      if world.subscriber.HasExited then some (world.fail (.brokenPipe .subscriber))
      else some { world with
        runner := .startPublisher, subscriberIn := world.subscriberIn.send .start }
  | .startPublisher =>
      if world.publisher.HasExited then some (world.fail (.brokenPipe .publisher))
      else some { world with
        runner := .collecting none none none .subscriber
        publisherIn := world.publisherIn.send .start }
  | .collecting (some result) (some messagesSent) (some bytesSent) .subscriber =>
      some { world with
        runner := .stopPublisher
          { result with messagesSent := messagesSent, bytesSent := bytesSent } }
  | .collecting result messagesSent bytesSent .subscriber =>
      let (received, pipe) := tryRecv world.subscriberOut world.subscriber.HasExited arrived
      some { world with
        runner := .collecting (receiveResultLine received result) messagesSent bytesSent .publisher
        subscriberOut := pipe }
  | .collecting result messagesSent bytesSent .publisher =>
      let (received, pipe) := tryRecv world.publisherOut world.publisher.HasExited arrived
      match receivePublisherLine received messagesSent bytesSent with
      | .ok (messagesSent, bytesSent) =>
          if late then some (world.killSubscriber.killPublisher.fail .childTimeout)
          else some { world with
            runner := .collecting result messagesSent bytesSent .subscriber
            publisherOut := pipe }
      | .error error => some (world.fail error)
  | .stopPublisher record =>
      if world.publisher.HasExited then some (world.fail (.brokenPipe .publisher))
      else some { world with
        runner := .waitSubscriber record, publisherIn := world.publisherIn.send .stop }
  | .waitSubscriber record =>
      match world.subscriber with
      | .exited status => some { world with runner := .waitPublisher record status }
      | _ => none
  | .waitPublisher record subscriberStatus =>
      match world.publisher with
      | .exited status =>
          some { world with runner := .dropPublisher (finish record subscriberStatus status) }
      | _ => none
  | .dropPublisher outcome =>
      some { world.killPublisher with runner := .dropSubscriber outcome }
  | .dropSubscriber outcome => some { world.killSubscriber with runner := .ended outcome }
  | .ended _ => none

/-! ### Runs -/

inductive Action where
  | runner (arrived late spawned : Bool)
  | publisher (clock : UInt64)
  | subscriber (poll : Option Poll)
  /-- Any error, a match that does not come, a panic or a signal. -/
  | fails (role : Role)

def step (world : World) : Action → Option World
  | .runner arrived late spawned => runChildren world arrived late spawned
  | .publisher clock => publish benchmark runId world clock
  | .subscriber poll => subscribe benchmark world poll
  | .fails .publisher => some world.killPublisher
  | .fails .subscriber => some world.killSubscriber

end Steps

end CycloneddsRs.BenchProtocol
