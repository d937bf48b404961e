import CycloneddsRs.Naming
import Mathlib.Data.List.Infix

/-!
The grammar of the names: words of lower-case letters and digits joined by single
underscores, and the upper camel case of type names.
-/

namespace CycloneddsRs.NameGrammar
open Naming

def snakeChar (c : Char) : Bool := c.isLower || c.isDigit

def SnakeWord (word : List Char) : Prop := word ≠ [] ∧ ∀ c ∈ word, snakeChar c = true

/-- `w1_w2_..._wn` with a letter in front. -/
def SnakeName (text : List Char) : Prop :=
  ∃ words : List (List Char), words ≠ [] ∧ (∀ word ∈ words, SnakeWord word) ∧
    text = ['_'].intercalate words ∧ text.head?.any Char.isLower = true

/-- `[a-z][a-z0-9_]*` without `__` and without a final `_`. -/
def SnakePattern (text : List Char) : Prop :=
  text.head?.any Char.isLower = true ∧ (∀ c ∈ text, snakeChar c = true ∨ c = '_') ∧
    ¬ ['_', '_'] <:+: text ∧ text.getLast? ≠ some '_'

/-- `[A-Z][A-Za-z0-9]*` -/
def TypePattern (text : List Char) : Prop :=
  text.head?.any Char.isUpper = true ∧ ∀ c ∈ text, c.isAlphanum = true

/-! The loop over the characters -/

theorem underscore_not_snakeChar : snakeChar '_' = false := rfl

theorem snakeChar_ne_underscore (c : Char) (snake : snakeChar c = true) : c ≠ '_' := by
  rintro rfl
  cases snake

theorem getLast_cons_ne (c : Char) (chars : List Char) (plain : c ≠ '_') :
    (c :: chars).getLast? ≠ some '_' ↔ chars.getLast? ≠ some '_' := by
  cases chars with
  | nil => simpa using plain
  | cons next chars => simp

theorem intercalate_cons (word : List Char) (words : List (List Char)) :
    ['_'].intercalate (word :: words) = word ++ words.flatMap fun next => '_' :: next := by
  induction words generalizing word with
  | nil => simp [List.intercalate]
  | cons next words ih =>
      have step : ['_'].intercalate (word :: next :: words) =
          word ++ ['_'] ++ ['_'].intercalate (next :: words) := by
        simp [List.intercalate, List.intersperse]
      rw [step, ih]
      simp

/-- A word under way, then further words. Behind an underscore it must not stay empty. -/
def SnakeTail (prevUnderscore : Bool) (chars : List Char) : Prop :=
  ∃ (word : List Char) (words : List (List Char)), (prevUnderscore = true → word ≠ []) ∧
    (∀ c ∈ word, snakeChar c = true) ∧ (∀ next ∈ words, SnakeWord next) ∧
    chars = word ++ words.flatMap fun next => '_' :: next

theorem snakeTail_nil (prevUnderscore : Bool) :
    SnakeTail prevUnderscore [] ↔ prevUnderscore = false := by
  constructor
  · rintro ⟨word, words, started, -, -, empty⟩
    obtain ⟨noWord, -⟩ := List.append_eq_nil_iff.mp empty.symm
    cases prevUnderscore with
    | false => rfl
    | true => exact absurd noWord (started rfl)
  · rintro rfl
    exact ⟨[], [], by simp, by simp, by simp, rfl⟩

theorem snakeTail_underscore (prevUnderscore : Bool) (chars : List Char) :
    SnakeTail prevUnderscore ('_' :: chars) ↔ prevUnderscore = false ∧ SnakeTail true chars := by
  constructor
  · rintro ⟨word, words, started, snake, others, split⟩
    cases word with
    | cons c word =>
        obtain ⟨rfl, -⟩ := List.cons.inj split
        exact absurd (snake '_' List.mem_cons_self) (by simp [underscore_not_snakeChar])
    | nil =>
        cases words with
        | nil => cases split
        | cons next words =>
            obtain ⟨nextWord, others⟩ := List.forall_mem_cons.mp others
            have rest : chars = next ++ words.flatMap fun next => '_' :: next := by
              simpa using split
            refine ⟨?_, next, words, fun _ => nextWord.1, nextWord.2, others, rest⟩
            cases prevUnderscore with
            | false => rfl
            | true => exact absurd rfl (started rfl)
  · rintro ⟨rfl, next, words, started, snake, others, rfl⟩
    refine ⟨[], next :: words, by simp, by simp, ?_, by simp⟩
    exact List.forall_mem_cons.mpr ⟨⟨started rfl, snake⟩, others⟩

theorem snakeTail_snakeChar (prevUnderscore : Bool) (c : Char) (chars : List Char)
    (letter : snakeChar c = true) :
    SnakeTail prevUnderscore (c :: chars) ↔ SnakeTail false chars := by
  constructor
  · rintro ⟨word, words, -, snake, others, split⟩
    cases word with
    | cons first word =>
        obtain ⟨-, rest⟩ := List.cons.inj split
        exact ⟨word, words, by simp, (List.forall_mem_cons.mp snake).2, others, rest⟩
    | nil =>
        cases words with
        | nil => cases split
        | cons next words =>
            obtain ⟨rfl, -⟩ := List.cons.inj split
            cases letter
  · rintro ⟨word, words, -, snake, others, rfl⟩
    exact ⟨c :: word, words, by simp, List.forall_mem_cons.mpr ⟨letter, snake⟩, others, rfl⟩

theorem snakeTail_head (prevUnderscore : Bool) (c : Char) (chars : List Char)
    (tail : SnakeTail prevUnderscore (c :: chars)) : snakeChar c = true ∨ c = '_' := by
  obtain ⟨word, words, -, snake, -, split⟩ := tail
  cases word with
  | cons first word =>
      obtain ⟨rfl, -⟩ := List.cons.inj split
      exact .inl (snake c List.mem_cons_self)
  | nil =>
      cases words with
      | nil => cases split
      | cons next words => exact .inr (List.cons.inj split).1

/-- The loop and the check of the end accept just the tails of names. -/
theorem checkSnakeChars_tail (prevUnderscore : Bool) (chars : List Char) :
    (checkSnakeChars prevUnderscore chars = .ok () ∧ chars.getLast? ≠ some '_' ∧
        (prevUnderscore = true → chars ≠ [])) ↔
      SnakeTail prevUnderscore chars := by
  induction chars generalizing prevUnderscore with
  | nil =>
      rw [snakeTail_nil]
      cases prevUnderscore <;> simp [checkSnakeChars]
  | cons c chars ih =>
      rw [checkSnakeChars]
      by_cases underscore : c = '_'
      · subst underscore
        rw [snakeTail_underscore, ← ih true]
        cases prevUnderscore with
        | true => simp
        | false => cases chars <;> simp [checkSnakeChars]
      · cases letter : snakeChar c with
        | true =>
            have taken : (c.isLower || c.isDigit) = true := letter
            rw [if_neg underscore, if_pos taken, snakeTail_snakeChar prevUnderscore c chars letter,
              ← ih false, getLast_cons_ne c chars underscore]
            simp
        | false =>
            have refused : ¬ (c.isLower || c.isDigit) = true := by
              rw [show (c.isLower || c.isDigit) = snakeChar c from rfl, letter]
              simp
            rw [if_neg underscore, if_neg refused]
            constructor
            · rintro ⟨impossible, -⟩
              cases impossible
            · intro tail
              rcases snakeTail_head prevUnderscore c chars tail with snake | equal
              · rw [letter] at snake
                cases snake
              · exact absurd equal underscore

/-- The loop's one bit of memory stands for an underscore in front of the text. -/
theorem checkSnakeChars_pattern (prevUnderscore : Bool) (chars : List Char) :
    checkSnakeChars prevUnderscore chars = .ok () ↔
      (∀ c ∈ chars, snakeChar c = true ∨ c = '_') ∧
        ¬ ['_', '_'] <:+: (if prevUnderscore then '_' :: chars else chars) := by
  induction chars generalizing prevUnderscore with
  | nil => cases prevUnderscore <;> simp [checkSnakeChars, List.infix_cons_iff]
  | cons c chars ih =>
      rw [checkSnakeChars, List.forall_mem_cons]
      by_cases underscore : c = '_'
      · subst underscore
        cases prevUnderscore with
        | true => simp [List.infix_cons_iff]
        | false => simp [ih true]
      · have apart : ¬ ['_', '_'] <+: '_' :: c :: chars := by
          simp [List.cons_prefix_cons, Ne.symm underscore]
        have inside : ¬ ['_', '_'] <+: c :: chars := by
          simp [List.cons_prefix_cons, Ne.symm underscore]
        have skipped : (['_', '_'] <:+: if prevUnderscore then '_' :: c :: chars else c :: chars) ↔
            ['_', '_'] <:+: chars := by
          cases prevUnderscore <;> simp [List.infix_cons_iff, apart, inside]
        rw [if_neg underscore, skipped]
        by_cases letter : (c.isLower || c.isDigit) = true
        · have snake : snakeChar c = true := letter
          rw [if_pos letter, ih false]
          simp [snake]
        · have notSnake : ¬ (snakeChar c = true ∨ c = '_') := not_or.mpr ⟨letter, underscore⟩
          rw [if_neg letter]
          simp [notSnake]

theorem checkTypeChars_iff (chars : List Char) :
    checkTypeChars chars = .ok () ↔ ∀ c ∈ chars, c.isAlphanum = true := by
  induction chars with
  | nil => simp [checkTypeChars]
  | cons c chars ih =>
      rw [checkTypeChars, List.forall_mem_cons]
      by_cases letter : c.isAlphanum = true
      · rw [if_pos letter, ih]
        simp [letter]
      · rw [if_neg letter]
        simp [letter]

/-! The validators -/

theorem validateLowerSnakeCase_iff (s : String) :
    validateLowerSnakeCase s = .ok () ↔ ∃ first chars, s.toList = first :: chars ∧
      first.isLower = true ∧ checkSnakeChars false chars = .ok () ∧ chars.getLast? ≠ some '_' := by
  unfold validateLowerSnakeCase
  cases text : s.toList with
  | nil => simp
  | cons first chars =>
      cases lower : first.isLower with
      | false => simp [lower]
      | true =>
          have plain : first ≠ '_' := snakeChar_ne_underscore first (by simp [snakeChar, lower])
          have ending := getLast_cons_ne first chars plain
          cases checked : checkSnakeChars false chars with
          | error reason => simp [lower, checked]
          | ok _ => simpa [lower, checked] using ending

theorem snakeName_cons (first : Char) (chars : List Char) (lower : first.isLower = true) :
    SnakeName (first :: chars) ↔ SnakeTail false chars := by
  have letter : snakeChar first = true := by simp [snakeChar, lower]
  rw [← snakeTail_snakeChar true first chars letter]
  constructor
  · rintro ⟨words, some, all, joined, -⟩
    cases words with
    | nil => exact absurd rfl some
    | cons word words =>
        obtain ⟨here, others⟩ := List.forall_mem_cons.mp all
        rw [intercalate_cons] at joined
        exact ⟨word, words, fun _ => here.1, here.2, others, joined⟩
  · rintro ⟨word, words, started, snake, others, joined⟩
    refine ⟨word :: words, List.cons_ne_nil _ _, ?_, ?_, by simpa using lower⟩
    · exact List.forall_mem_cons.mpr ⟨⟨started rfl, snake⟩, others⟩
    · rw [intercalate_cons, joined]

theorem validate_snakeName (s : String) :
    validateLowerSnakeCase s = .ok () ↔ SnakeName s.toList := by
  rw [validateLowerSnakeCase_iff]
  constructor
  · rintro ⟨first, chars, text, lower, checked, ending⟩
    rw [text, snakeName_cons first chars lower, ← checkSnakeChars_tail]
    exact ⟨checked, ending, by simp⟩
  · intro name
    have lower : s.toList.head?.any Char.isLower = true := by
      obtain ⟨words, -, -, -, lower⟩ := name
      exact lower
    cases text : s.toList with
    | nil => simp [text] at lower
    | cons first chars =>
        have firstLower : first.isLower = true := by simpa [text] using lower
        rw [text, snakeName_cons first chars firstLower, ← checkSnakeChars_tail] at name
        exact ⟨first, chars, rfl, firstLower, name.1, name.2.1⟩

theorem validate_snakePattern (s : String) :
    validateLowerSnakeCase s = .ok () ↔ SnakePattern s.toList := by
  rw [validateLowerSnakeCase_iff]
  cases text : s.toList with
  | nil => simp [SnakePattern]
  | cons first chars =>
      cases lower : first.isLower with
      | false => simp [SnakePattern, lower]
      | true =>
          have letter : snakeChar first = true := by simp [snakeChar, lower]
          have plain := snakeChar_ne_underscore first letter
          have apart : ¬ ['_', '_'] <+: first :: chars := by
            simp [List.cons_prefix_cons, Ne.symm plain]
          have loop := checkSnakeChars_pattern false chars
          simp only [Bool.false_eq_true, if_false] at loop
          simp only [SnakePattern, getLast_cons_ne first chars plain, List.infix_cons_iff, apart,
            false_or, List.forall_mem_cons, letter, true_or, true_and, ← and_assoc, ← loop]
          simp [lower]

theorem validateRosTypeName_iff (name : String) :
    validateRosTypeName name = .ok () ↔ TypePattern name.toList := by
  rw [validateRosTypeName]
  cases text : name.toList with
  | nil => simp [TypePattern]
  | cons first chars =>
      cases upper : first.isUpper with
      | false => simp [TypePattern, upper]
      | true =>
          have letter : first.isAlphanum = true := by
            change ((first.isUpper || first.isLower) || first.isDigit) = true
            simp [upper]
          simpa [TypePattern, upper, letter] using checkTypeChars_iff chars

/-- The validators accept exactly their grammars. -/
theorem names_exact (s : String) :
    (validateLowerSnakeCase s = .ok () ↔ SnakeName s.toList) ∧
      (SnakeName s.toList ↔ SnakePattern s.toList) ∧
      (validateRosTypeName s = .ok () ↔ TypePattern s.toList) :=
  ⟨validate_snakeName s, (validate_snakeName s).symm.trans (validate_snakePattern s),
    validateRosTypeName_iff s⟩

end CycloneddsRs.NameGrammar
