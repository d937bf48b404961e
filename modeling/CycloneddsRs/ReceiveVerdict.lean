import CycloneddsRs.BoundaryPayload
import CycloneddsRs.DdsError
import Mathlib.Data.Finset.Card
import Mathlib.Data.List.Chain

/-!
The receive loop of the benchmark subscriber and the verdict that it reports. The list of
polls ends with the deadline. Whether all is there is asked before each poll, so the rest
of a batch is always taken in.
-/

namespace CycloneddsRs.ReceiveVerdict
open BoundaryPayload DdsError

structure BenchmarkCase where
  warmupMessages : UInt64
  measuredMessages : UInt64
  payloadBytes : Nat

/-- A message of a batch, and the clock when it is looked at. -/
structure Item where
  message : BenchmarkMessage
  valid : Bool
  receivedAt : UInt64
  deriving DecidableEq

def Item.sequence (item : Item) : Nat := item.message.sequence.toNat

/-- What `take_now` comes to. -/
inductive Poll where
  | batch (items : List Item)
  | noData
  | error (error : DDSError)

inductive PayloadError where
  | invalidSample
  | payloadMismatch (sequence : Nat)
  | negativeLatency (sequence : Nat)
  deriving DecidableEq

structure Counters where
  seen : Finset Nat
  messagesReceived : Nat
  bytesReceived : Nat
  duplicate : Nat
  outOfOrder : Nat
  lastSequence : Option Nat
  latencies : List UInt64
  measurementStarted : Option UInt64
  measurementEnded : Option UInt64
  payloadError : Option PayloadError

def Counters.init : Counters :=
  { seen := ∅
    messagesReceived := 0
    bytesReceived := 0
    duplicate := 0
    outOfOrder := 0
    lastSequence := none
    latencies := []
    measurementStarted := none
    measurementEnded := none
    payloadError := none }

section Receive

variable (benchmark : BenchmarkCase)

def BenchmarkCase.total (benchmark : BenchmarkCase) : Nat :=
  benchmark.warmupMessages.toNat + benchmark.measuredMessages.toNat

/-- The counts of a valid message. -/
def Counters.count (counters : Counters) (item : Item) : Counters :=
  let sequence := item.sequence
  { counters with
    messagesReceived := counters.messagesReceived + 1
    bytesReceived := counters.bytesReceived + item.message.payload.length
    seen := insert sequence counters.seen
    duplicate := if sequence ∈ counters.seen then counters.duplicate + 1 else counters.duplicate
    outOfOrder :=
      match counters.lastSequence with
      | some previous =>
          if sequence < previous then counters.outOfOrder + 1 else counters.outOfOrder
      | none => counters.outOfOrder
    lastSequence := some sequence }

def Counters.checkPayload (counters : Counters) (item : Item) : Counters :=
  let message := item.message
  if item.sequence < benchmark.total then
    let expected := makeMessage message.sequence benchmark.payloadBytes message.sentMonotonicNs
    if message.payload ≠ expected.payload then
      { counters with payloadError := some (.payloadMismatch item.sequence) }
    else counters
  else counters

def Counters.measure (counters : Counters) (item : Item) : Counters :=
  if benchmark.warmupMessages.toNat ≤ item.sequence ∧ item.sequence < benchmark.total then
    let counters := { counters with
      measurementStarted := counters.measurementStarted.or (some item.receivedAt)
      measurementEnded := some item.receivedAt }
    if item.receivedAt < item.message.sentMonotonicNs then
      { counters with payloadError := some (.negativeLatency item.sequence) }
    else
      { counters with
        latencies := counters.latencies ++ [item.receivedAt - item.message.sentMonotonicNs] }
  else counters

def Counters.consume (counters : Counters) (item : Item) : Counters :=
  if item.valid then
    ((counters.count item).checkPayload benchmark item).measure benchmark item
  else { counters with payloadError := some .invalidSample }

def receiveLoop (counters : Counters) : List Poll → Except DDSError Counters
  | [] => .ok counters
  | poll :: rest =>
      if counters.seen.card < benchmark.total then
        match poll with
        | .batch items => receiveLoop (items.foldl (Counters.consume benchmark) counters) rest
        | .noData => receiveLoop counters rest
        | .error error => .error error
      else .ok counters

/-- The fields of the result that the counters decide. -/
structure ResultRecord where
  status : String
  elapsedNs : Nat
  messagesSent : Nat
  messagesReceived : Nat
  bytesSent : Nat
  bytesReceived : Nat
  missing : Nat
  duplicate : Nat
  outOfOrder : Nat
  /-- The values that go into the latency statistics. -/
  latencies : List UInt64
  error : Option (PayloadError ⊕ Nat)

def resultRecord (counters : Counters) : ResultRecord :=
  let missing :=
    ((List.range benchmark.total).filter fun sequence => sequence ∉ counters.seen).length
  let complete := missing = 0 ∧ counters.duplicate = 0 ∧ counters.outOfOrder = 0 ∧
    counters.payloadError = none
  { status := if complete then "ok" else "error"
    elapsedNs :=
      match counters.measurementStarted, counters.measurementEnded with
      | some started, some ended => ended.toNat - started.toNat
      | _, _ => 0
    messagesSent := benchmark.total
    messagesReceived := counters.messagesReceived
    bytesSent := benchmark.total * benchmark.payloadBytes
    bytesReceived := counters.bytesReceived
    missing := missing
    duplicate := counters.duplicate
    outOfOrder := counters.outOfOrder
    latencies := counters.latencies
    error :=
      match counters.payloadError with
      | some error => some (.inl error)
      | none => if missing > 0 then some (.inr missing) else none }

inductive ReceiveError where
  /-- `i32::try_from` on the number of messages, or their sum itself. -/
  | historyDepth
  | dds (error : DDSError)

def receive (polls : List Poll) : Except ReceiveError ResultRecord :=
  if benchmark.total < 2 ^ 31 then
    match receiveLoop benchmark .init polls with
    | .ok counters => .ok (resultRecord benchmark counters)
    | .error error => .error (.dds error)
  else .error .historyDepth

/-- The items of the batches that the loop takes before it ends. -/
def consumed (counters : Counters) : List Poll → List Item
  | [] => []
  | poll :: rest =>
      if counters.seen.card < benchmark.total then
        match poll with
        | .batch items => items ++ consumed (items.foldl (Counters.consume benchmark) counters) rest
        | .noData => consumed counters rest
        | .error _ => []
      else []

def numbers (polls : List Poll) : List Nat :=
  (consumed benchmark .init polls).map Item.sequence

/-- A valid message with the payload of its number that has not arrived before it was sent. -/
structure Item.Good (item : Item) : Prop where
  valid : item.valid = true
  payload : item.sequence < benchmark.total →
    item.message.payload = (makeMessage item.message.sequence benchmark.payloadBytes
      item.message.sentMonotonicNs).payload
  latency : item.message.sentMonotonicNs ≤ item.receivedAt

/-! Counters -/

/-- What the counters are after messages with these numbers. -/
structure Tally (sequences : List Nat) (counters : Counters) : Prop where
  seen : counters.seen = sequences.toFinset
  messagesReceived : counters.messagesReceived = sequences.length
  duplicate : counters.seen.card + counters.duplicate = sequences.length
  lastSequence : counters.lastSequence = sequences.getLast?
  outOfOrder : counters.outOfOrder = 0 ↔ sequences.IsChain (· ≤ ·)
  payloadError : counters.payloadError = none

theorem tally_init : Tally [] .init := by
  constructor
  case outOfOrder => exact iff_of_true rfl .nil
  all_goals rfl

theorem tally_count (sequences : List Nat) (counters : Counters) (item : Item)
    (tally : Tally sequences counters) :
    Tally (sequences ++ [item.sequence]) (counters.count item) := by
  have seen : insert item.sequence counters.seen = (sequences ++ [item.sequence]).toFinset := by
    rw [tally.seen, List.toFinset_append, Finset.union_comm]
    rfl
  constructor
  case seen => exact seen
  case messagesReceived =>
    rw [List.length_append]
    exact congrArg (· + 1) tally.messagesReceived
  case duplicate =>
    have before := tally.duplicate
    rw [List.length_append, ← before]
    by_cases again : item.sequence ∈ counters.seen
    · simp [Counters.count, again, Nat.add_assoc]
    · simp only [Counters.count, again, if_false, Finset.card_insert_of_notMem again,
        List.length_singleton]
      omega
  case lastSequence => exact List.getLast?_concat.symm
  case outOfOrder =>
    rw [List.isChain_append, ← tally.outOfOrder, ← tally.lastSequence]
    simp only [Counters.count]
    cases counters.lastSequence with
    | none => simp
    | some previous =>
        by_cases back : item.sequence < previous
        · simp [back]
        · simp [back, Nat.not_lt.mp back]
  case payloadError => exact tally.payloadError

/-- The checks of a good message pass. -/
theorem tally_consume (sequences : List Nat) (counters : Counters) (item : Item)
    (tally : Tally sequences counters) (good : item.Good benchmark) :
    Tally (sequences ++ [item.sequence]) (counters.consume benchmark item) := by
  have counted := tally_count sequences counters item tally
  have payload : (counters.count item).checkPayload benchmark item = counters.count item := by
    rw [Counters.checkPayload]
    split
    case isTrue inside =>
      exact if_neg (not_not.mpr (good.payload inside))
    case isFalse => rfl
  rw [Counters.consume, if_pos good.valid, payload, Counters.measure]
  split
  · have late : ¬ item.receivedAt < item.message.sentMonotonicNs :=
      UInt64.not_lt.mpr good.latency
    simp only [late, if_false]
    exact ⟨counted.seen, counted.messagesReceived, counted.duplicate, counted.lastSequence,
      counted.outOfOrder, counted.payloadError⟩
  · exact counted

theorem tally_fold (items : List Item) (sequences : List Nat) (counters : Counters)
    (tally : Tally sequences counters) (good : ∀ item ∈ items, item.Good benchmark) :
    Tally (sequences ++ items.map Item.sequence)
      (items.foldl (Counters.consume benchmark) counters) := by
  induction items generalizing sequences counters with
  | nil => simpa using tally
  | cons item rest ih =>
      have next := tally_consume benchmark sequences counters item tally
        (good item List.mem_cons_self)
      have later := ih _ _ next fun other inside => good other (List.mem_cons_of_mem item inside)
      simpa using later

/-- The loop ends with the counters of what it has consumed. -/
theorem receiveLoop_tally (polls : List Poll) (sequences : List Nat) (counters : Counters)
    (tally : Tally sequences counters) (noError : ∀ error, .error error ∉ polls)
    (good : ∀ items, .batch items ∈ polls → ∀ item ∈ items, item.Good benchmark) :
    ∃ final, receiveLoop benchmark counters polls = .ok final ∧
      Tally (sequences ++ (consumed benchmark counters polls).map Item.sequence) final := by
  induction polls generalizing sequences counters with
  | nil => exact ⟨counters, rfl, by simpa [consumed] using tally⟩
  | cons poll rest ih =>
      have later : ∀ error, .error error ∉ rest := fun error inside =>
        noError error (List.mem_cons_of_mem poll inside)
      have goodRest : ∀ items, .batch items ∈ rest → ∀ item ∈ items, item.Good benchmark :=
        fun items inside => good items (List.mem_cons_of_mem poll inside)
      by_cases waiting : counters.seen.card < benchmark.total
      · cases poll with
        | error error => exact absurd List.mem_cons_self (noError error)
        | noData =>
            simp only [receiveLoop, consumed, waiting, if_true]
            exact ih sequences counters tally later goodRest
        | batch items =>
            have taken := tally_fold benchmark items sequences counters tally
              (good items List.mem_cons_self)
            obtain ⟨final, ends, tallied⟩ := ih _ _ taken later goodRest
            simp only [receiveLoop, consumed, waiting, if_true, List.map_append]
            rw [← List.append_assoc]
            exact ⟨final, ends, tallied⟩
      · refine ⟨counters, ?_, ?_⟩
        · cases poll <;> exact if_neg waiting
        · have nothing : consumed benchmark counters (poll :: rest) = [] := by
            cases poll <;> exact if_neg waiting
          rw [nothing]
          simpa using tally

/-! Verdicts -/

/-- An increasing list with all numbers from a start on begins with them. -/
theorem starts_with_range (sequences : List Nat) (start count : Nat)
    (increasing : sequences.Pairwise (· < ·)) (above : ∀ number ∈ sequences, start ≤ number)
    (present : ∀ number, start ≤ number → number < start + count → number ∈ sequences) :
    ∃ stray, sequences = List.range' start count ++ stray ∧
      ∀ number ∈ stray, start + count ≤ number := by
  induction count generalizing sequences start with
  | zero => exact ⟨sequences, rfl, above⟩
  | succ count ih =>
      have first := present start (Nat.le_refl start) (by omega)
      cases sequences with
      | nil => cases first
      | cons head rest =>
          obtain ⟨smaller, restIncreasing⟩ := List.pairwise_cons.mp increasing
          have same : head = start := by
            have low := above head List.mem_cons_self
            rcases List.mem_cons.mp first with equal | inside
            · exact equal.symm
            · have less := smaller start inside
              omega
          subst same
          have within : ∀ number, head + 1 ≤ number → number < head + 1 + count →
              number ∈ rest := by
            intro number low high
            have member := present number (by omega) (by omega)
            rcases List.mem_cons.mp member with equal | inside
            · omega
            · exact inside
          obtain ⟨stray, split, beyond⟩ := ih rest (head + 1) restIncreasing smaller within
          refine ⟨stray, ?_, ?_⟩
          · rw [split]
            rfl
          · intro number inside
            have high := beyond number inside
            omega

/-- Without a gap, a repeat or a step back there are all the numbers in order, and after them
only such that no one has asked for. -/
theorem complete_iff (sequences : List Nat) (total : Nat) :
    ((List.range total).filter fun sequence => sequence ∉ sequences.toFinset).length = 0 ∧
      sequences.Nodup ∧ sequences.IsChain (· ≤ ·) ↔
    ∃ stray, sequences = List.range total ++ stray ∧ (∀ number ∈ stray, total ≤ number) ∧
      stray.Pairwise (· < ·) := by
  have missing : ((List.range total).filter fun sequence =>
      sequence ∉ sequences.toFinset).length = 0 ↔ ∀ number < total, number ∈ sequences := by
    simp [List.filter_eq_nil_iff]
  rw [missing]
  constructor
  · rintro ⟨all, nodup, chain⟩
    have ordered : sequences.Pairwise (· ≤ ·) := List.isChain_iff_pairwise.mp chain
    have increasing : sequences.Pairwise (· < ·) :=
      (ordered.and nodup).imp fun both => Nat.lt_of_le_of_ne both.1 both.2
    obtain ⟨stray, split, beyond⟩ := starts_with_range sequences 0 total increasing
      (fun number _ => Nat.zero_le number) fun number _ high => all number (by omega)
    rw [Nat.zero_add] at beyond
    rw [← List.range_eq_range'] at split
    refine ⟨stray, split, beyond, ?_⟩
    rw [split] at increasing
    exact (List.pairwise_append.mp increasing).2.1
  · rintro ⟨stray, split, beyond, increasing⟩
    have whole : sequences.Pairwise (· < ·) := by
      rw [split]
      refine List.pairwise_append.mpr ⟨List.pairwise_lt_range, increasing, ?_⟩
      intro number inside other later
      exact Nat.lt_of_lt_of_le (List.mem_range.mp inside) (beyond other later)
    refine ⟨?_, whole.imp Nat.ne_of_lt, List.isChain_iff_pairwise.mpr (whole.imp Nat.le_of_lt)⟩
    intro number inside
    rw [split]
    exact List.mem_append_left stray (List.mem_range.mpr inside)

theorem verdict_exact (polls : List Poll) (fits : benchmark.total < 2 ^ 31)
    (noError : ∀ error, .error error ∉ polls)
    (good : ∀ items, .batch items ∈ polls → ∀ item ∈ items, item.Good benchmark) :
    ∃ record, receive benchmark polls = .ok record ∧
      (record.status = "ok" ↔
        ∃ stray, numbers benchmark polls = List.range benchmark.total ++ stray ∧
          (∀ number ∈ stray, benchmark.total ≤ number) ∧ stray.Pairwise (· < ·)) ∧
      record.missing = ((List.range benchmark.total).filter fun sequence =>
        sequence ∉ (numbers benchmark polls).toFinset).length ∧
      record.messagesReceived = (numbers benchmark polls).toFinset.card + record.duplicate := by
  obtain ⟨final, ends, tally⟩ :=
    receiveLoop_tally benchmark polls [] .init tally_init noError good
  rw [List.nil_append] at tally
  have seen : final.seen = (numbers benchmark polls).toFinset := tally.seen
  have counted : (numbers benchmark polls).toFinset.card + final.duplicate =
      (numbers benchmark polls).length := seen ▸ tally.duplicate
  have nodup : final.duplicate = 0 ↔ (numbers benchmark polls).Nodup := by
    have distinct := Multiset.toFinset_card_eq_card_iff_nodup
      (m := (numbers benchmark polls : Multiset Nat))
    rw [Multiset.coe_nodup, Multiset.coe_card, List.toFinset_coe] at distinct
    rw [← distinct]
    omega
  have record : receive benchmark polls = .ok (resultRecord benchmark final) := by
    rw [receive, if_pos fits, ends]
  refine ⟨resultRecord benchmark final, record, ?_, ?_, ?_⟩
  · rw [← complete_iff, ← nodup, ← seen]
    have order : final.outOfOrder = 0 ↔ (numbers benchmark polls).IsChain (· ≤ ·) :=
      tally.outOfOrder
    simp only [resultRecord, tally.payloadError, and_true, order]
    split
    case isTrue complete => exact iff_of_true rfl complete
    case isFalse incomplete => exact iff_of_false (by decide) incomplete
  · rw [← seen]
    rfl
  · exact tally.messagesReceived.trans counted.symm

end Receive

/-- Two messages of four bytes. -/
def smallCase : BenchmarkCase :=
  { warmupMessages := 0, measuredMessages := 2, payloadBytes := 4 }

def smallItem (sequence : UInt64) : Item :=
  { message := makeMessage sequence 4 10, valid := true, receivedAt := 25 }

theorem smallItem_good (sequence : UInt64) : (smallItem sequence).Good smallCase := by
  constructor
  · rfl
  · intro _
    rfl
  · show (10 : UInt64) ≤ 25
    decide

def smallPolls (batches : List (List UInt64)) : List Poll :=
  batches.map fun batch => .batch (batch.map smallItem)

theorem smallPolls_good (batches : List (List UInt64)) (items : List Item)
    (polled : .batch items ∈ smallPolls batches) (item : Item) (inside : item ∈ items) :
    item.Good smallCase := by
  obtain ⟨batch, -, same⟩ := List.mem_map.mp polled
  cases same
  obtain ⟨sequence, -, made⟩ := List.mem_map.mp inside
  subst made
  exact smallItem_good sequence

theorem smallPolls_noError (batches : List (List UInt64)) (error : DDSError) :
    .error error ∉ smallPolls batches := by
  intro polled
  obtain ⟨batch, -, same⟩ := List.mem_map.mp polled
  cases same

theorem verdict_exact_reordered :
    ∃ record, receive smallCase (smallPolls [[1], [], [0]]) = .ok record ∧
      record.status ≠ "ok" ∧ record.missing = 0 := by
  obtain ⟨record, received, status, missing, -⟩ := verdict_exact smallCase
    (smallPolls [[1], [], [0]]) (by decide) (smallPolls_noError _) (smallPolls_good _)
  have order : numbers smallCase (smallPolls [[1], [], [0]]) = [1, 0] := rfl
  refine ⟨record, received, ?_, ?_⟩
  · rw [Ne, status, order]
    rintro ⟨stray, split, -⟩
    cases split
  · rw [missing, order]
    rfl

/-- The second batch brings the last message and one that is not of this run. -/
theorem stray_message_ok :
    (∀ items, .batch items ∈ smallPolls [[0], [1, 7]] → ∀ item ∈ items, item.Good smallCase) ∧
      (∃ record, receive smallCase (smallPolls [[0], [1, 7]]) = .ok record ∧
        record.status = "ok") ∧
      numbers smallCase (smallPolls [[0], [1, 7]]) ≠ List.range smallCase.total := by
  refine ⟨smallPolls_good _, ⟨_, rfl, rfl⟩, ?_⟩
  decide

end CycloneddsRs.ReceiveVerdict
