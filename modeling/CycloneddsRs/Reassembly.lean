import CycloneddsRs.Serdata

/-!
Reassembly of a received sample from its fragments. `Gathered` says what the loop
of `serdata_from_fragchain` has collected so far: everything below its offset, and
each byte from the first fragment that covers it.
-/

namespace CycloneddsRs.Reassembly

open ScatterGather Serdes Serdata

/-! What the loop collects -/

def Rdata.covers (frag : Rdata) (index : Nat) : Bool :=
  frag.min.toNat ≤ index && index < frag.maxp1.toNat

/-- The highest end of some fragments, 0 for none. -/
def highest : List Rdata → Nat
  | [] => 0
  | frag :: rest => max frag.maxp1.toNat (highest rest)

/-- No fragment starts behind the highest end of those before it. -/
def Ordered (past frags : List Rdata) : Prop :=
  ∀ before frag after, frags = before ++ frag :: after →
    frag.min.toNat ≤ highest (past ++ before)

/-- Each byte comes from the first fragment that covers its index. -/
def Copies (frags : List Rdata) (bytes : Bytes) : Prop :=
  ∀ index, index < bytes.length →
    ∃ frag, frags.find? (Rdata.covers · index) = some frag ∧
      bytes[index]? = frag.payload[index - frag.min.toNat]?

structure Gathered (past : List Rdata) (off : UInt32) (sgList : List Bytes) : Prop where
  ends : off.toNat = highest past
  filled : ∀ slice ∈ sgList, slice ≠ []
  length : sgList.flatten.length = off.toNat
  bytes : Copies past sgList.flatten

theorem highest_append (left right : List Rdata) :
    highest (left ++ right) = max (highest left) (highest right) := by
  induction left with
  | nil => simp [highest]
  | cons frag rest ih => simp [highest, ih, Nat.max_assoc]

theorem maxp1_le_highest (frags : List Rdata) (frag : Rdata) (member : frag ∈ frags) :
    frag.maxp1.toNat ≤ highest frags := by
  induction frags with
  | nil => cases member
  | cons first rest ih =>
      rw [highest]
      rcases List.mem_cons.mp member with rfl | later
      · exact Nat.le_max_left _ _
      · exact (ih later).trans (Nat.le_max_right _ _)

theorem ordered_nil (past : List Rdata) : Ordered past [] := by
  intro before frag after split
  simp at split

theorem ordered_cons (past rest : List Rdata) (frag : Rdata) :
    Ordered past (frag :: rest) ↔
      frag.min.toNat ≤ highest past ∧ Ordered (past ++ [frag]) rest := by
  constructor
  · intro ordered
    refine ⟨by simpa using ordered [] frag rest rfl, ?_⟩
    intro before other after split
    simpa using ordered (frag :: before) other after (by rw [split]; rfl)
  · rintro ⟨first, later⟩ before other after split
    cases before with
    | nil =>
        cases split
        simpa using first
    | cons head before =>
        obtain ⟨same, tail⟩ := List.cons.inj split
        subst same
        simpa using later before other after tail

theorem gathered_nil : Gathered [] 0 [] := by
  constructor
  · rfl
  · nofun
  · rfl
  · intro index bounded
    simp at bounded

theorem source_length (frag : Rdata) (off : Nat) (ordered : frag.min.toNat ≤ off)
    (longer : off < frag.maxp1.toNat) :
    ((frag.payload.drop (off - frag.min.toNat)).take (frag.maxp1.toNat - off)).length =
      frag.maxp1.toNat - off := by
  have covers := frag.covers
  rw [List.length_take, List.length_drop]
  omega

/-- A fragment that goes on where the earlier ones end adds what they do not cover. -/
theorem copies_snoc (past : List Rdata) (frag : Rdata) (bytes : Bytes)
    (copied : Copies past bytes) (whole : bytes.length = highest past)
    (ordered : frag.min.toNat ≤ bytes.length) (longer : bytes.length < frag.maxp1.toNat) :
    Copies (past ++ [frag]) (bytes ++
      (frag.payload.drop (bytes.length - frag.min.toNat)).take
        (frag.maxp1.toNat - bytes.length)) := by
  intro index bounded
  rw [List.length_append, source_length frag _ ordered longer] at bounded
  rw [List.find?_append]
  by_cases old : index < bytes.length
  · obtain ⟨source, found, same⟩ := copied index old
    refine ⟨source, by rw [found]; rfl, ?_⟩
    rw [List.getElem?_append_left old, same]
  · have uncovered : past.find? (Rdata.covers · index) = none := by
      rw [List.find?_eq_none]
      intro other member
      have ends := maxp1_le_highest past other member
      simp only [Rdata.covers, Bool.and_eq_true, decide_eq_true_eq]
      omega
    have covered : Rdata.covers frag index = true := by
      simp only [Rdata.covers, Bool.and_eq_true, decide_eq_true_eq]
      omega
    refine ⟨frag, by simp [uncovered, covered], ?_⟩
    rw [List.getElem?_append_right (by omega), List.getElem?_take_of_lt (by omega),
      List.getElem?_drop]
    congr 1
    omega

theorem copies_covered (past : List Rdata) (frag : Rdata) (bytes : Bytes)
    (copied : Copies past bytes) : Copies (past ++ [frag]) bytes := by
  intro index bounded
  obtain ⟨source, found, same⟩ := copied index bounded
  exact ⟨source, by rw [List.find?_append, found]; rfl, same⟩

theorem gathered_longer (past : List Rdata) (frag : Rdata) (off : UInt32) (sgList : List Bytes)
    (gathered : Gathered past off sgList) (ordered : ¬ off < frag.min)
    (longer : off < frag.maxp1) :
    Gathered (past ++ [frag]) frag.maxp1 (sgList ++
      [(frag.payload.drop (off - frag.min).toNat).take (frag.maxp1 - off).toNat]) := by
  have start : frag.min ≤ off := UInt32.not_lt.mp ordered
  have above : off ≤ frag.maxp1 := UInt32.le_of_lt longer
  have startNat : frag.min.toNat ≤ off.toNat := UInt32.le_iff_toNat_le.mp start
  have longerNat : off.toNat < frag.maxp1.toNat := UInt32.lt_iff_toNat_lt.mp longer
  have ends := gathered.ends
  have length := source_length frag off.toNat startNat longerNat
  rw [UInt32.toNat_sub_of_le _ _ start, UInt32.toNat_sub_of_le _ _ above]
  constructor
  · simp only [highest_append, highest]
    omega
  · intro slice member
    rcases List.mem_append.mp member with old | new
    · exact gathered.filled slice old
    · rw [List.mem_singleton] at new
      rw [new]
      apply List.ne_nil_of_length_pos
      omega
  · rw [List.flatten_append, List.length_append, gathered.length, List.flatten_singleton, length]
    omega
  · have snoc := copies_snoc past frag sgList.flatten gathered.bytes
      (gathered.length.trans ends) (by rw [gathered.length]; exact startNat)
      (by rw [gathered.length]; exact longerNat)
    rw [List.flatten_append, List.flatten_singleton]
    simpa only [gathered.length] using snoc

theorem gathered_covered (past : List Rdata) (frag : Rdata) (off : UInt32) (sgList : List Bytes)
    (gathered : Gathered past off sgList) (covered : ¬ off < frag.maxp1) :
    Gathered (past ++ [frag]) off sgList := by
  have below : frag.maxp1.toNat ≤ off.toNat :=
    UInt32.le_iff_toNat_le.mp (UInt32.not_lt.mp covered)
  have ends := gathered.ends
  refine ⟨?_, gathered.filled, gathered.length, copies_covered past frag _ gathered.bytes⟩
  simp only [highest_append, highest]
  omega

/-! The whole loop -/

theorem gatherFragments_total (size : Nat) (off : UInt32) (sgList : List Bytes)
    (frags : List Rdata) : ∃ outcome, gatherFragments size off sgList frags = .ok outcome := by
  induction frags generalizing off sgList with
  | nil => exact ⟨_, rfl⟩
  | cons frag rest ih =>
      rw [gatherFragments_cons]
      split
      · exact ⟨_, rfl⟩
      · split
        · split
          · exact ⟨_, rfl⟩
          · exact ih _ _
        · exact ih _ _

theorem gather_collects (size : Nat) (past frags : List Rdata) (off : UInt32)
    (sgList collected : List Bytes) (gathered : Gathered past off sgList)
    (done : gatherFragments size off sgList frags = .ok (.ok collected)) :
    ∃ last, Gathered (past ++ frags) last collected := by
  induction frags generalizing past off sgList with
  | nil =>
      cases done
      exact ⟨off, by simpa using gathered⟩
  | cons frag rest ih =>
      rw [List.append_cons]
      rw [gatherFragments_cons] at done
      split at done
      · cases done
      · rename_i ordered
        split at done
        · rename_i longer
          split at done
          · cases done
          · exact ih _ _ _ (gathered_longer past frag off sgList gathered ordered longer) done
        · rename_i covered
          exact ih _ _ _ (gathered_covered past frag off sgList gathered covered) done

theorem gather_accepts (size : Nat) (past frags : List Rdata) (off : UInt32)
    (sgList : List Bytes) (gathered : Gathered past off sgList) (bounded : off.toNat ≤ size) :
    (∃ collected, gatherFragments size off sgList frags = .ok (.ok collected)) ↔
      Ordered past frags ∧ highest frags ≤ size := by
  induction frags generalizing past off sgList with
  | nil => exact iff_of_true ⟨sgList, rfl⟩ ⟨ordered_nil past, Nat.zero_le size⟩
  | cons frag rest ih =>
      have ends := gathered.ends
      rw [ordered_cons, highest, Nat.max_le, gatherFragments_cons]
      by_cases behind : off < frag.min
      · have late : ¬ frag.min.toNat ≤ highest past := by
          have := UInt32.lt_iff_toNat_lt.mp behind
          omega
        simp [behind, late]
      · have start : frag.min.toNat ≤ highest past := by
          have := UInt32.le_iff_toNat_le.mp (UInt32.not_lt.mp behind)
          omega
        by_cases longer : off < frag.maxp1
        · by_cases exceeds : size < frag.maxp1.toNat
          · have tooLong : ¬ frag.maxp1.toNat ≤ size := Nat.not_le.mpr exceeds
            simp [behind, longer, exceeds, tooLong]
          · have fits : frag.maxp1.toNat ≤ size := Nat.not_lt.mp exceeds
            have later := ih _ _ _ (gathered_longer past frag off sgList gathered behind longer) fits
            simpa [behind, longer, exceeds, start, fits] using later
        · have fits : frag.maxp1.toNat ≤ size := by
            have := UInt32.le_iff_toNat_le.mp (UInt32.not_lt.mp longer)
            omega
          have later := ih _ _ _ (gathered_covered past frag off sgList gathered longer) bounded
          simpa [behind, longer, start, fits] using later

/-- The chains that cover a sample of the given size without a gap. -/
structure Coverable (chain : Fragchain) (size : Nat) : Prop where
  starts : chain.first.min = 0
  ordered : Ordered [] chain.toList
  ends : highest chain.toList = size

/-- What is assembled from a chain that the loop accepts. -/
theorem assemble_gathered (chain : Fragchain) (size : Nat) (collected : List Bytes)
    (fits : size ≤ isizeMax) (starts : chain.first.min = 0)
    (gathered : gatherFragments size 0 [] chain.toList = .ok (.ok collected)) :
    assembleFragchain chain size =
      .ok (match delivered collected.flatten size with
        | .ok cdr => .ok cdr
        | .error _ => .error .cdrAssemblyFailed) := by
  obtain ⟨last, all⟩ := gather_collects size [] chain.toList 0 [] collected gathered_nil gathered
  have unsigned : ¬ (chain.first.min ≠ 0 ∨ chain.first.maxp1 < 0) := by
    rintro (moved | negative)
    · exact moved starts
    · exact UInt32.not_lt.mpr UInt32.zero_le negative
  have read : (SGReader.new collected).intoVec size = .ok (delivered collected.flatten size) := by
    rw [intoVec_delivered, if_neg (Nat.not_lt.mpr fits), available_nonempty collected all.filled]
  rw [assembleFragchain, if_neg unsigned, gathered]
  simp only [bind, Except.bind, read]
  cases delivered collected.flatten size <;> rfl

theorem assemble_total (chain : Fragchain) (size : Nat) (fits : size ≤ isizeMax) :
    ∃ outcome, assembleFragchain chain size = .ok outcome := by
  obtain ⟨answer, gathered⟩ := gatherFragments_total size 0 [] chain.toList
  by_cases starts : chain.first.min = 0
  · cases answer with
    | error reason =>
        rw [assembleFragchain, gathered]
        split <;> exact ⟨_, rfl⟩
    | ok collected => exact ⟨_, assemble_gathered chain size collected fits starts gathered⟩
  · rw [assembleFragchain, if_pos (.inl starts)]
    exact ⟨_, rfl⟩

theorem assemble_coverable (chain : Fragchain) (size : Nat) (fits : size ≤ isizeMax) :
    (∃ cdr, assembleFragchain chain size = .ok (.ok cdr)) ↔ Coverable chain size := by
  have accepts := gather_accepts size [] chain.toList 0 [] gathered_nil (Nat.zero_le size)
  by_cases starts : chain.first.min = 0
  · obtain ⟨answer, gathered⟩ := gatherFragments_total size 0 [] chain.toList
    cases answer with
    | error reason =>
        apply iff_of_false
        · rw [assembleFragchain, gathered]
          split <;> rintro ⟨cdr, ⟨⟩⟩
        · intro coverable
          have both := accepts.mpr ⟨coverable.ordered, coverable.ends.le⟩
          simp [gathered] at both
    | ok collected =>
        obtain ⟨ordered, below⟩ := accepts.mp ⟨collected, gathered⟩
        obtain ⟨last, all⟩ := gather_collects size [] chain.toList 0 [] collected gathered_nil
          gathered
        have length : collected.flatten.length = highest chain.toList := by
          rw [all.length, all.ends]
          rfl
        rw [assemble_gathered chain size collected fits starts gathered]
        by_cases complete : size ≤ highest chain.toList
        · have ends : highest chain.toList = size := Nat.le_antisymm below complete
          exact iff_of_true (by simp [delivered, length, complete]) ⟨starts, ordered, ends⟩
        · apply iff_of_false
          · simp [delivered, length, complete]
          · intro coverable
            exact complete coverable.ends.ge
  · apply iff_of_false
    · simp [assembleFragchain, starts]
    · intro coverable
      exact starts coverable.starts

theorem assemble_copies (chain : Fragchain) (size : Nat) (cdr : Bytes) (fits : size ≤ isizeMax)
    (assembled : assembleFragchain chain size = .ok (.ok cdr)) :
    cdr.length = size ∧ Copies chain.toList cdr := by
  have coverable := (assemble_coverable chain size fits).mp ⟨cdr, assembled⟩
  obtain ⟨collected, gathered⟩ := (gather_accepts size [] chain.toList 0 [] gathered_nil
    (Nat.zero_le size)).mpr ⟨coverable.ordered, coverable.ends.le⟩
  obtain ⟨last, all⟩ := gather_collects size [] chain.toList 0 [] collected gathered_nil gathered
  have length : collected.flatten.length = size := by
    rw [all.length, all.ends]
    exact coverable.ends
  rw [assemble_gathered chain size collected fits coverable.starts gathered, delivered,
    if_pos length.ge, List.take_of_length_le length.le] at assembled
  cases assembled
  exact ⟨length, all.bytes⟩

variable {T : Type}

/-- A discarded sample is counted once, under one reason. -/
def CountedOnce (stats after : DiscardedSamples) : Prop :=
  after = { stats with invalidFragchain := stats.invalidFragchain + 1 } ∨
    after = { stats with cdrAssemblyFailed := stats.cdrAssemblyFailed + 1 }

structure ExactReassembly (chain : Fragchain) (size : Nat) (stats : DiscardedSamples)
    (result : Option (SerData T) × DiscardedSamples) : Prop where
  succeeds : result.1.isSome ↔ Coverable chain size
  stored : ∀ serdata, result.1 = some serdata → result.2 = stats ∧
    ∃ cdr, serdata.cdr = some cdr ∧ cdr.length = size ∧ Copies chain.toList cdr
  discarded : result.1 = none → CountedOnce stats result.2

theorem counted_once (stats : DiscardedSamples) (reason : DiscardReason) :
    CountedOnce stats (countDiscardedSample stats reason) := by
  cases reason with
  | invalidFragchain => exact .inl rfl
  | cdrAssemblyFailed => exact .inr rfl

/-- Up to the longest vector the call answers: no subtraction underflows, and the answer is
the exact one. -/
theorem fragchain_reassembly (ddsi : DdsiInit) (sertype : DdsiSertype) (kind : SerdataKind)
    (chain : Fragchain) (size : Nat) (stats : DiscardedSamples) (fits : size ≤ isizeMax) :
    ∃ result, serdataFromFragchain ddsi sertype kind chain size stats = .ok result ∧
      ExactReassembly chain size stats (result : Option (SerData T) × DiscardedSamples) := by
  have accepts := assemble_coverable chain size fits
  obtain ⟨outcome, assembled⟩ := assemble_total chain size fits
  rw [serdataFromFragchain, assembled]
  cases outcome with
  | ok cdr =>
      obtain ⟨length, copies⟩ := assemble_copies chain size cdr fits assembled
      refine ⟨_, rfl, ?_, ?_, ?_⟩
      · simpa [assembled] using accepts
      · rintro serdata ⟨⟩
        exact ⟨rfl, cdr, rfl, length, copies⟩
      · rintro ⟨⟩
  | error reason =>
      refine ⟨_, rfl, ?_, ?_, ?_⟩
      · simpa [assembled] using accepts
      · rintro serdata ⟨⟩
      · intro _
        exact counted_once stats reason

/-- The second fragment repeats a byte of the first. -/
def overlapping : Fragchain :=
  { first := { min := 0, maxp1 := 2, payload := [10, 11], covers := by decide }
    nextfrag := [{ min := 1, maxp1 := 3, payload := [99, 12], covers := by decide }] }

theorem overlapping_reassembled : ∃ result,
    serdataFromFragchain plainInit lampSertype .sdkData overlapping 3 ⟨0, 0⟩ = .ok result ∧
      ExactReassembly overlapping 3 ⟨0, 0⟩
        (result : Option (SerData Lamp) × DiscardedSamples) :=
  fragchain_reassembly plainInit lampSertype .sdkData overlapping 3 ⟨0, 0⟩ (by decide)

/-- No vector has the size asked for. The panic ends the process: the chain, which does not
cover that size, is not discarded and not counted. -/
theorem oversized_not_counted :
    ¬ ∃ result, serdataFromFragchain plainInit lampSertype .sdkData overlapping (2 ^ 63) ⟨0, 0⟩ =
        .ok result ∧
      ExactReassembly overlapping (2 ^ 63) ⟨0, 0⟩
        (result : Option (SerData Lamp) × DiscardedSamples) := by
  have panics : (serdataFromFragchain plainInit lampSertype .sdkData overlapping (2 ^ 63) ⟨0, 0⟩ :
      Panics (Option (SerData Lamp) × DiscardedSamples)) = .error "capacity overflow" := rfl
  rintro ⟨result, answered, -⟩
  rw [panics] at answered
  cases answered

/-! The scatter-gather reader against concatenation. `read` answers `Ok(0)` on an
empty slice, which `read_exact` takes for the end. -/

theorem available_prefix (slices : List Bytes) : available slices <+: slices.flatten := by
  induction slices with
  | nil => exact List.prefix_rfl
  | cons slice rest ih =>
      cases slice with
      | nil => exact List.nil_prefix
      | cons byte tail =>
          rw [available_cons, List.flatten_cons]
          exact (List.prefix_append_right_inj _).mpr ih

theorem intoVec_concatenation_iff (slices : List Bytes) (size : Nat) :
    (SGReader.new slices).intoVec size = .ok (delivered slices.flatten size) ↔
      size ≤ isizeMax ∧
        (size ≤ (available slices).length ∨ slices.flatten.length < size) := by
  obtain ⟨hidden, whole⟩ := available_prefix slices
  rw [intoVec_delivered, ← whole, List.length_append]
  by_cases overflows : isizeMax < size
  · rw [if_pos overflows]
    apply iff_of_false
    · intro same
      cases same
    · intro fits
      omega
  rw [if_neg overflows, Except.ok.injEq, and_iff_right (Nat.not_lt.mp overflows)]
  by_cases early : size ≤ (available slices).length
  · have covered : size ≤ (available slices ++ hidden).length := by
      rw [List.length_append]
      omega
    apply iff_of_true
    · rw [delivered, delivered, if_pos early, if_pos covered, List.take_append_of_le_length early]
    · exact .inl early
  · by_cases beyond : (available slices).length + hidden.length < size
    · have missing : ¬ size ≤ (available slices ++ hidden).length := by
        rw [List.length_append]
        omega
      apply iff_of_true
      · rw [delivered, delivered, if_neg early, if_neg missing]
      · exact .inr beyond
    · have covered : size ≤ (available slices ++ hidden).length := by
        rw [List.length_append]
        omega
      apply iff_of_false
      · rw [delivered, delivered, if_neg early, if_pos covered]
        intro same
        cases same
      · simp [early, beyond]

theorem empty_slice_hides :
    (SGReader.new [[1], [], [2]]).intoVec 2 = .ok (.error .unexpectedEof) ∧
      delivered [[1], [], [2]].flatten 2 = .ok [1, 2] := by decide

/-- The bytes that `serdata_from_ser_iov` stores. -/
theorem serIov_cdr (ddsi : DdsiInit) (sertype : DdsiSertype) (kind : SerdataKind)
    (iovs : List Iovec) (size : Nat) (stats : DiscardedSamples) (fits : size ≤ isizeMax) :
    ∃ result after, (serdataFromSerIov ddsi sertype kind iovs size stats :
        Panics (Option (SerData T) × DiscardedSamples)) = .ok (result, after) ∧
      result.bind SerData.cdr =
        (delivered (available (iovs.map Iovec.bytes)) size).toOption := by
  have read := intoVec_delivered (iovs.map Iovec.bytes) size
  rw [if_neg (Nat.not_lt.mpr fits)] at read
  rw [serdataFromSerIov, read]
  cases delivered (available (iovs.map Iovec.bytes)) size <;> exact ⟨_, _, rfl, rfl⟩

end CycloneddsRs.Reassembly
