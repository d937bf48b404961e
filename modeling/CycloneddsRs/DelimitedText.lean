import Mathlib.Data.List.Basic

/-!
Texts as lists of symbols that can be read back: words that end at the first symbol
outside their alphabet, lines that end at a terminator, and blocks of lines that end
at a separator line. No text format is named here.
-/

namespace CycloneddsRs.DelimitedText

universe u
variable {Symbol : Type u}

/-! Words -/

/-- A word ends where its alphabet ends, so what follows it is determined too. -/
theorem word_unique (alphabet : Symbol → Bool) (left right : List Symbol) (first second : Symbol)
    (leftRest rightRest : List Symbol) (leftWord : ∀ symbol ∈ left, alphabet symbol = true)
    (rightWord : ∀ symbol ∈ right, alphabet symbol = true)
    (firstStops : alphabet first = false) (secondStops : alphabet second = false)
    (same : left ++ first :: leftRest = right ++ second :: rightRest) :
    left = right ∧ first = second ∧ leftRest = rightRest := by
  induction left generalizing right with
  | nil =>
      cases right with
      | nil =>
          obtain ⟨head, tail⟩ := List.cons.inj same
          exact ⟨rfl, head, tail⟩
      | cons symbol right =>
          obtain ⟨head, -⟩ := List.cons.inj same
          have inside := rightWord symbol List.mem_cons_self
          rw [← head, firstStops] at inside
          cases inside
  | cons symbol left ih =>
      cases right with
      | nil =>
          obtain ⟨head, -⟩ := List.cons.inj same
          have inside := leftWord symbol List.mem_cons_self
          rw [head, secondStops] at inside
          cases inside
      | cons other right =>
          obtain ⟨head, tail⟩ := List.cons.inj same
          obtain ⟨words, stops, rests⟩ := ih right
            (fun x member => leftWord x (List.mem_cons_of_mem _ member))
            (fun x member => rightWord x (List.mem_cons_of_mem _ member)) tail
          exact ⟨by rw [head, words], stops, rests⟩

/-- A word cannot be pushed in front of a suffix that ends outside the alphabet:
the suffix would repeat the word for ever. -/
theorem shifted_suffix (alphabet : Symbol → Bool) (word suffix : List Symbol) (stop : Symbol)
    (leftRest rightRest : List Symbol) (inside : ∀ symbol ∈ word, alphabet symbol = true)
    (stops : alphabet stop = false) (nonempty : word ≠ []) :
    suffix ++ stop :: leftRest ≠ word ++ (suffix ++ stop :: rightRest) := by
  -- The word is a front part of the suffix, and behind it the situation repeats itself
  -- with a shorter suffix.
  induction length : suffix.length using Nat.strongRecOn generalizing suffix leftRest with
  | ind count ih =>
      intro same
      rcases List.append_eq_append_iff.mp same with
        ⟨rest, wordEq, restEq⟩ | ⟨rest, suffixEq, restEq⟩
      · cases rest with
        | nil =>
            rw [List.append_nil] at wordEq
            rw [List.nil_append, ← wordEq] at restEq
            cases word with
            | nil => exact nonempty rfl
            | cons symbol tail =>
                obtain ⟨head, -⟩ := List.cons.inj restEq
                have member := inside symbol List.mem_cons_self
                rw [← head, stops] at member
                cases member
        | cons symbol tail =>
            obtain ⟨head, -⟩ := List.cons.inj restEq
            have last : symbol ∈ word := by
              rw [wordEq]
              exact List.mem_append_right _ List.mem_cons_self
            have member := inside symbol last
            rw [← head, stops] at member
            cases member
      · have shorter : rest.length < count := by
          rw [← length, suffixEq, List.length_append]
          have := List.length_pos_iff.mpr nonempty
          omega
        apply ih rest.length shorter rest leftRest rfl
        rw [← restEq, suffixEq, List.append_assoc]

/-- Words followed by one suffix, whatever it is, as long as a stop comes after it. -/
theorem suffixed_unique (alphabet : Symbol → Bool) (left right suffix : List Symbol)
    (stop : Symbol) (leftRest rightRest : List Symbol)
    (leftWord : ∀ symbol ∈ left, alphabet symbol = true)
    (rightWord : ∀ symbol ∈ right, alphabet symbol = true) (stops : alphabet stop = false)
    (same : left ++ (suffix ++ stop :: leftRest) = right ++ (suffix ++ stop :: rightRest)) :
    left = right ∧ leftRest = rightRest := by
  induction left generalizing right with
  | nil =>
      cases right with
      | nil => exact ⟨rfl, (List.cons.inj (List.append_cancel_left same)).2⟩
      | cons symbol right =>
          exact absurd same (shifted_suffix alphabet (symbol :: right) suffix stop leftRest
            rightRest rightWord stops (List.cons_ne_nil _ _))
  | cons symbol left ih =>
      cases right with
      | nil =>
          exact absurd same.symm (shifted_suffix alphabet (symbol :: left) suffix stop rightRest
            leftRest leftWord stops (List.cons_ne_nil _ _))
      | cons other right =>
          obtain ⟨head, tail⟩ := List.cons.inj same
          obtain ⟨words, rests⟩ := ih right
            (fun x member => leftWord x (List.mem_cons_of_mem _ member))
            (fun x member => rightWord x (List.mem_cons_of_mem _ member)) tail
          exact ⟨by rw [head, words], rests⟩

/-! Lines and blocks -/

section Lines

variable [DecidableEq Symbol] (terminator : Symbol)

theorem line_unique (left right leftRest rightRest : List Symbol) (leftLine : terminator ∉ left)
    (rightLine : terminator ∉ right)
    (same : left ++ terminator :: leftRest = right ++ terminator :: rightRest) :
    left = right ∧ leftRest = rightRest := by
  have inside : ∀ line : List Symbol, terminator ∉ line →
      ∀ symbol ∈ line, (symbol != terminator) = true := by
    intro line absent symbol member
    exact bne_iff_ne.mpr fun ends => absent (ends ▸ member)
  obtain ⟨lines, -, rests⟩ := word_unique (· != terminator) left right terminator terminator
    leftRest rightRest (inside left leftLine) (inside right rightLine) (bne_self_eq_false _)
    (bne_self_eq_false _) same
  exact ⟨lines, rests⟩

/-- Lines with their terminators; the last one may lack it. -/
def lines : List Symbol → List (List Symbol)
  | [] => []
  | symbol :: rest =>
      if symbol = terminator then [symbol] :: lines rest
      else
        match lines rest with
        | [] => [[symbol]]
        | line :: more => (symbol :: line) :: more

theorem lines_cons (line rest : List Symbol) (inside : terminator ∉ line) :
    lines terminator (line ++ terminator :: rest) =
      (line ++ [terminator]) :: lines terminator rest := by
  induction line with
  | nil => simp [lines]
  | cons symbol line ih =>
      obtain ⟨other, inside⟩ := List.ne_and_not_mem_of_not_mem_cons inside
      rw [List.cons_append, lines, if_neg (Ne.symm other), ih inside]
      rfl

/-- A text of whole lines splits into them. -/
theorem lines_flatten (texts : List (List Symbol))
    (whole : ∀ text ∈ texts, ∃ line, text = line ++ [terminator] ∧ terminator ∉ line) :
    lines terminator texts.flatten = texts := by
  induction texts with
  | nil => rfl
  | cons text texts ih =>
      obtain ⟨line, rfl, inside⟩ := whole text List.mem_cons_self
      rw [List.flatten_cons, List.append_assoc, List.singleton_append,
        lines_cons terminator line _ inside,
        ih fun other member => whole other (List.mem_cons_of_mem _ member)]

/-- The texts between the lines that are exactly the separator line. -/
def blocks (separator : List Symbol) (text : List Symbol) : List (List Symbol) :=
  ((lines terminator text).splitOn separator).map List.flatten

theorem splitOn_parts (separator : List Symbol) (first : List (List Symbol))
    (rest : List (List (List Symbol))) (apart : ∀ part ∈ first :: rest, separator ∉ part) :
    (first ++ rest.flatMap (separator :: ·)).splitOn separator = first :: rest := by
  have alone := List.splitOn_eq_singleton (apart first List.mem_cons_self)
  induction rest generalizing first with
  | nil => rw [List.flatMap_nil, List.append_nil, alone]
  | cons part rest ih =>
      have later : ∀ other ∈ part :: rest, separator ∉ other :=
        fun other member => apart other (List.mem_cons_of_mem _ member)
      rw [List.flatMap_cons, List.cons_append, List.splitOn_append_cons_self, alone,
        ih part later (List.splitOn_eq_singleton (later part List.mem_cons_self)),
        List.singleton_append]

/-- A first block and further ones, each below a separator line, are found again when
no line of theirs is the separator. -/
theorem blocks_parts (separator : List Symbol) (first : List (List Symbol))
    (rest : List (List (List Symbol)))
    (bar : ∃ line, separator = line ++ [terminator] ∧ terminator ∉ line)
    (whole : ∀ part ∈ first :: rest, ∀ text ∈ part,
      text ≠ separator ∧ ∃ line, text = line ++ [terminator] ∧ terminator ∉ line) :
    blocks terminator separator (first ++ rest.flatMap (separator :: ·)).flatten =
      (first :: rest).map List.flatten := by
  have lineWise : lines terminator (first ++ rest.flatMap (separator :: ·)).flatten =
      first ++ rest.flatMap (separator :: ·) := by
    apply lines_flatten
    intro text member
    rcases List.mem_append.mp member with inFirst | later
    · exact (whole first List.mem_cons_self text inFirst).2
    · obtain ⟨part, partIn, inPart⟩ := List.mem_flatMap.mp later
      rcases List.mem_cons.mp inPart with rfl | inside
      · exact bar
      · exact (whole part (List.mem_cons_of_mem _ partIn) text inside).2
  have apart : ∀ part ∈ first :: rest, separator ∉ part :=
    fun part member among => (whole part member separator among).1 rfl
  rw [blocks, lineWise, splitOn_parts separator first rest apart]

end Lines

end CycloneddsRs.DelimitedText
