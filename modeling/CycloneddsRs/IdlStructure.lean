import CycloneddsRs.MessageStructure

/-!
What an IDL text says, in one namespace mode. Two types have one text exactly when they have
one package and name and their members agree in key mark, name, container and primitive or
struct, as do the members of these structs to every depth.
-/

namespace CycloneddsRs.IdlStructure

open Naming InterfaceGen DefinitionText DelimitedText KeyedGraph KeyedTraversal
open SchemaTraversal GraphUnfoldings MessageStructure

universe u v
variable {Node : Type u}

structure MemberShape extends FieldShape where
  isKey : Bool
  deriving DecidableEq

def memberShape (schema : Schema Node) (field : FieldItem Node) : MemberShape :=
  { fieldShape schema field with isKey := field.isKey }

def structShape (schema : Schema Node) (node : Node) : List MemberShape :=
  (schema node).fields.map (memberShape schema)

def memberGraph (schema : Schema Node) : Graph Node TypeKey (List MemberShape) :=
  { succ := references schema, key := typeKey schema, label := structShape schema }

/-! The text of a member by its shape -/

variable (mode : NsMode)

def keyIdl (key : TypeKey) : List Char :=
  (mode.idlTypeRef (escapeIdlIdentifier key.1) key.2).toList

def elemIdl : ElemShape → List Char
  | .inl kind => kind.idlRef.toList
  | .inr key => keyIdl mode key

def afterName : Container → List Char
  | .array n => '[' :: (Nat.toDigits 10 n ++ [']', ';'])
  | _ => [';']

def fieldText (shape : FieldShape) : List Char :=
  match shape.container with
  | .sequence => "sequence<".toList ++
      (elemIdl mode shape.element ++ '>' :: ' ' :: (shape.name.toList ++ [';']))
  | kind => elemIdl mode shape.element ++ ' ' :: (shape.name.toList ++ afterName kind)

def memberText (shape : MemberShape) : List Char :=
  ' ' :: ' ' :: ((if shape.isKey then "@key ".toList else []) ++
    (fieldText mode shape.toFieldShape ++ ['\n']))

def Named (key : TypeKey) : Prop :=
  validateRosPackageName key.1 = .ok () ∧ validateRosTypeName key.2 = .ok ()

structure Sound (shape : FieldShape) : Prop where
  word : ∀ c ∈ shape.name.toList, wordChar c = true
  named : ∀ key, shape.element = .inr key → Named key

theorem fieldShape_sound (schema : Schema Node) (field : FieldItem Node) :
    Sound (fieldShape schema field) := by
  refine ⟨field_word field, ?_⟩
  intro key named
  unfold fieldShape at named
  cases elem : element field.ty with
  | primitive kind =>
      rw [elem] at named
      cases named
  | struct node =>
      rw [elem] at named
      cases named
      exact ⟨(schema node).packageAccepted, (schema node).nameAccepted⟩

theorem idlLine_shape (schema : Schema Node) (field : FieldItem Node) :
    (idlLine schema mode field).toList = memberText mode (memberShape schema field) := by
  have elems : ∀ elem : InterfaceElem Node,
      (elem.idlRef schema mode).toList = elemIdl mode (elemShape schema elem) := by
    intro elem
    cases elem <;> rfl
  have body : (field.ty.idlField schema field.name mode).toList =
      fieldText mode (fieldShape schema field) := by
    unfold fieldText fieldShape
    cases field.ty with
    | elem elem =>
        simp [InterfaceRef.idlField, InterfaceRef.idlRef, elems, container, element, afterName]
    | vec elem =>
        simp [InterfaceRef.idlField, InterfaceRef.idlRef, elems, container, element]
    | array elem n positive =>
        simp [InterfaceRef.idlField, elems, container, element, afterName]
  cases marked : field.isKey <;>
    simp [idlLine, memberText, memberShape, fieldShape, body, marked]

/-! Read back -/

theorem keyIdl_text (key : TypeKey) : keyIdl mode key =
    (escapeIdlIdentifier key.1).toList ++
      ':' :: (pathText mode ++ (key.2.toList ++ mode.typeSuffix.toList)) :=
  idlTypeRef_text mode (escapeIdlIdentifier key.1) key.2

theorem package_escaped (key : TypeKey) (named : Named key) :
    ∀ c ∈ (escapeIdlIdentifier key.1).toList, wordChar c = true :=
  (escapeIdlIdentifier_word key.1 named.1).2

theorem name_letters (key : TypeKey) (named : Named key) :
    ∀ c ∈ key.2.toList, wordChar c = true := by
  obtain ⟨_, _, _, _, word⟩ := validateRosTypeName_word key.2 named.2
  exact word

theorem keyIdl_unique (left right : TypeKey) (stop : Char) (leftRest rightRest : List Char)
    (leftNamed : Named left) (rightNamed : Named right) (stops : wordChar stop = false)
    (same : keyIdl mode left ++ stop :: leftRest = keyIdl mode right ++ stop :: rightRest) :
    left = right ∧ leftRest = rightRest := by
  simp only [keyIdl_text, List.append_assoc, List.cons_append] at same
  obtain ⟨packages, -, rests⟩ := word_unique wordChar _ _ ':' ':' _ _
    (package_escaped left leftNamed) (package_escaped right rightNamed) (by decide) (by decide) same
  obtain ⟨names, tails⟩ := suffixed_unique wordChar _ _ mode.typeSuffix.toList stop _ _
    (name_letters left leftNamed) (name_letters right rightNamed) stops
    (List.append_cancel_left rests)
  have escaped := escapeIdlIdentifier_injective left.1 right.1 leftNamed.1 rightNamed.1
    (String.toList_inj.mp packages)
  exact ⟨Prod.ext escaped (String.toList_inj.mp names), tails⟩

theorem elemIdl_first (elem : ElemShape) (stop : Char) (tail : List Char)
    (named : ∀ key, elem = .inr key → Named key) :
    ∃ word first rest, elemIdl mode elem ++ stop :: tail = word ++ first :: rest ∧
      (∀ c ∈ word, wordChar c = true) ∧ (first = ' ' ∨ first = stop ∨ first = ':') := by
  cases elem with
  | inl kind =>
      obtain ⟨word, first, rest, split, inside, ends⟩ := primitive_first kind stop tail
      exact ⟨word, first, rest, split, inside, ends.imp_right .inl⟩
  | inr key =>
      rw [elemIdl, keyIdl_text, List.append_assoc, List.cons_append]
      exact ⟨_, ':', _, rfl, package_escaped key (named key rfl), .inr (.inr rfl)⟩

/-- A primitive's first word is not followed by a colon. -/
theorem elem_mixed (kind : Primitive) (key : TypeKey) (stop : Char) (leftRest rightRest : List Char)
    (named : Named key) (stops : stop = ' ' ∨ stop = '>') :
    kind.idlRef.toList ++ stop :: leftRest ≠ keyIdl mode key ++ rightRest := by
  intro same
  obtain ⟨word, first, rest, split, inside, ends⟩ := primitive_first kind stop leftRest
  have outside : wordChar first = false ∧ first ≠ ':' := by
    rcases ends with rfl | rfl
    · decide
    · rcases stops with rfl | rfl <;> decide
  rw [split, keyIdl_text, List.append_assoc, List.cons_append] at same
  obtain ⟨-, colon, -⟩ := word_unique wordChar _ _ first ':' _ _ inside (package_escaped key named)
    outside.1 (by decide) same
  exact outside.2 colon

/-- A primitive's words and the blanks between them. -/
def phraseChar (c : Char) : Bool := wordChar c || c == ' '

theorem primitive_phrase (kind : Primitive) :
    ∀ c ∈ kind.idlRef.toList, phraseChar c = true := by
  cases kind <;> exact List.all_eq_true.mp rfl

theorem idlRef_unique (left right : Primitive) (same : left.idlRef = right.idlRef) :
    left = right := by
  cases left <;> cases right <;> first | rfl | exact absurd same (by decide)

theorem elem_sequence_unique (left right : ElemShape) (leftRest rightRest : List Char)
    (leftNamed : ∀ key, left = .inr key → Named key)
    (rightNamed : ∀ key, right = .inr key → Named key)
    (same : elemIdl mode left ++ '>' :: leftRest = elemIdl mode right ++ '>' :: rightRest) :
    left = right ∧ leftRest = rightRest := by
  cases left with
  | inl leftKind =>
      cases right with
      | inl rightKind =>
          obtain ⟨kinds, -, rests⟩ := word_unique phraseChar _ _ '>' '>' _ _
            (primitive_phrase leftKind) (primitive_phrase rightKind) (by decide) (by decide) same
          rw [idlRef_unique leftKind rightKind (String.toList_inj.mp kinds)]
          exact ⟨rfl, rests⟩
      | inr key =>
          exact absurd same (elem_mixed mode leftKind key _ _ _ (rightNamed key rfl) (.inr rfl))
  | inr key =>
      cases right with
      | inl kind =>
          exact absurd same.symm (elem_mixed mode kind key _ _ _ (leftNamed key rfl) (.inr rfl))
      | inr other =>
          obtain ⟨keys, rests⟩ := keyIdl_unique mode key other '>' _ _ (leftNamed key rfl)
            (rightNamed other rfl) (by decide) same
          rw [keys]
          exact ⟨rfl, rests⟩

/-- The last blank of a phrase parts its last word from the others. -/
theorem last_word_unique (left right leftWord rightWord : List Char)
    (leftInside : ∀ c ∈ leftWord, wordChar c = true)
    (rightInside : ∀ c ∈ rightWord, wordChar c = true)
    (same : left ++ ' ' :: leftWord = right ++ ' ' :: rightWord) :
    left = right ∧ leftWord = rightWord := by
  have reversed := congrArg List.reverse same
  simp only [List.reverse_append, List.reverse_cons, List.append_assoc, List.singleton_append]
    at reversed
  obtain ⟨words, -, phrases⟩ := word_unique wordChar leftWord.reverse rightWord.reverse ' ' ' ' _ _
    (fun c member => leftInside c (List.mem_reverse.mp member))
    (fun c member => rightInside c (List.mem_reverse.mp member)) (by decide) (by decide) reversed
  exact ⟨List.reverse_injective phrases, List.reverse_injective words⟩

theorem elem_plain_unique (left right : ElemShape) (leftName rightName : List Char)
    (first second : Char) (leftRest rightRest : List Char)
    (leftNamed : ∀ key, left = .inr key → Named key)
    (rightNamed : ∀ key, right = .inr key → Named key)
    (leftWord : ∀ c ∈ leftName, wordChar c = true) (rightWord : ∀ c ∈ rightName, wordChar c = true)
    (firstStops : first = ';' ∨ first = '[') (secondStops : second = ';' ∨ second = '[')
    (same : elemIdl mode left ++ ' ' :: (leftName ++ first :: leftRest) =
      elemIdl mode right ++ ' ' :: (rightName ++ second :: rightRest)) :
    left = right ∧ leftName = rightName ∧ first :: leftRest = second :: rightRest := by
  have outside : ∀ c, c = ';' ∨ c = '[' → wordChar c = false ∧ phraseChar c = false := by
    rintro c (rfl | rfl) <;> decide
  cases left with
  | inl leftKind =>
      cases right with
      | inl rightKind =>
          -- Kinds of several words end in front of the name, which has no blank in it.
          have phrase : ∀ (kind : Primitive) (name : List Char),
              (∀ c ∈ name, wordChar c = true) →
                ∀ c ∈ kind.idlRef.toList ++ ' ' :: name, phraseChar c = true := by
            intro kind name word c member
            rcases List.mem_append.mp member with inKind | later
            · exact primitive_phrase kind c inKind
            · rcases List.mem_cons.mp later with rfl | inName
              · decide
              · simp [phraseChar, word c inName]
          simp only [elemIdl] at same
          rw [← List.cons_append, ← List.append_assoc, ← List.cons_append, ← List.append_assoc]
            at same
          obtain ⟨phrases, stops, rests⟩ := word_unique phraseChar _ _ first second _ _
            (phrase leftKind leftName leftWord) (phrase rightKind rightName rightWord)
            (outside first firstStops).2 (outside second secondStops).2 same
          obtain ⟨kinds, names⟩ := last_word_unique _ _ _ _ leftWord rightWord phrases
          rw [idlRef_unique leftKind rightKind (String.toList_inj.mp kinds), names, stops, rests]
          exact ⟨rfl, rfl, rfl⟩
      | inr key =>
          exact absurd same (elem_mixed mode leftKind key _ _ _ (rightNamed key rfl) (.inl rfl))
  | inr key =>
      cases right with
      | inl kind =>
          exact absurd same.symm (elem_mixed mode kind key _ _ _ (leftNamed key rfl) (.inl rfl))
      | inr other =>
          obtain ⟨keys, tails⟩ := keyIdl_unique mode key other ' ' _ _ (leftNamed key rfl)
            (rightNamed other rfl) (by decide) same
          obtain ⟨names, stops, rests⟩ := word_unique wordChar _ _ first second _ _ leftWord
            rightWord (outside first firstStops).1 (outside second secondStops).1 tails
          rw [keys, names, stops, rests]
          exact ⟨rfl, rfl, rfl⟩

theorem afterName_first (kind : Container) (rest : List Char) :
    ∃ first tail, afterName kind ++ '\n' :: rest = first :: tail ∧ (first = ';' ∨ first = '[') := by
  cases kind with
  | plain | sequence => exact ⟨';', _, rfl, .inl rfl⟩
  | array => exact ⟨'[', _, rfl, .inr rfl⟩

theorem afterName_unique (left right : Container) (leftRest rightRest : List Char)
    (leftKind : left ≠ .sequence) (rightKind : right ≠ .sequence)
    (same : afterName left ++ '\n' :: leftRest = afterName right ++ '\n' :: rightRest) :
    left = right ∧ leftRest = rightRest := by
  cases left with
  | sequence => exact absurd rfl leftKind
  | plain =>
      cases right with
      | sequence => exact absurd rfl rightKind
      | plain => exact ⟨rfl, (List.cons.inj (List.append_cancel_left same)).2⟩
      | array => exact absurd (List.cons.inj same).1 (by decide)
  | array n =>
      cases right with
      | sequence => exact absurd rfl rightKind
      | plain => exact absurd (List.cons.inj same).1 (by decide)
      | array other =>
          simp only [afterName, List.cons_append, List.append_assoc] at same
          obtain ⟨digits, rests⟩ := digits_unique _ _ _ _ (length_digits n) (length_digits other)
            (List.cons.inj same).2
          rw [toDigits_unique n other digits]
          exact ⟨rfl, (List.cons.inj (List.cons.inj rests).2).2⟩

/-- What follows an opening word tells it from the first word of an element. -/
theorem opening_apart (word : List Char) (stop : Char) (elem : ElemShape) (rest tail : List Char)
    (named : ∀ key, elem = .inr key → Named key) (inside : ∀ c ∈ word, wordChar c = true)
    (stops : wordChar stop = false) (other : stop ≠ ' ' ∧ stop ≠ ':') :
    word ++ stop :: rest ≠ elemIdl mode elem ++ ' ' :: tail := by
  intro same
  obtain ⟨head, first, more, split, letters, ends⟩ := elemIdl_first mode elem ' ' tail named
  have outside : wordChar first = false ∧ stop ≠ first := by
    rcases ends with rfl | rfl | rfl
    · exact ⟨by decide, other.1⟩
    · exact ⟨by decide, other.1⟩
    · exact ⟨by decide, other.2⟩
  rw [split] at same
  obtain ⟨-, firsts, -⟩ := word_unique wordChar word head stop first rest more inside letters stops
    outside.1 same
  exact outside.2 firsts

theorem plain_text (shape : FieldShape) (plain : shape.container ≠ .sequence) :
    fieldText mode shape =
      elemIdl mode shape.element ++ ' ' :: (shape.name.toList ++ afterName shape.container) := by
  obtain ⟨name, kind, elem⟩ := shape
  cases kind with
  | plain | array => rfl
  | sequence => exact absurd rfl plain

theorem sequence_text (shape : FieldShape) (sequence : shape.container = .sequence) :
    fieldText mode shape = "sequence".toList ++
      '<' :: (elemIdl mode shape.element ++ '>' :: ' ' :: (shape.name.toList ++ [';'])) := by
  rw [fieldText, sequence]
  rfl

theorem fieldText_mixed (left right : FieldShape) (leftRest rightRest : List Char)
    (rightSound : Sound right) (sequence : left.container = .sequence)
    (plain : right.container ≠ .sequence) :
    fieldText mode left ++ leftRest ≠ fieldText mode right ++ rightRest := by
  rw [sequence_text mode left sequence, plain_text mode right plain, List.append_assoc,
    List.append_assoc, List.cons_append, List.cons_append]
  exact opening_apart mode "sequence".toList '<' right.element _ _ rightSound.named
    (List.all_eq_true.mp rfl) (by decide) (by decide)

theorem fieldText_unique (left right : FieldShape) (leftRest rightRest : List Char)
    (leftSound : Sound left) (rightSound : Sound right)
    (same : fieldText mode left ++ '\n' :: leftRest = fieldText mode right ++ '\n' :: rightRest) :
    left = right ∧ leftRest = rightRest := by
  by_cases leftSequence : left.container = .sequence
  · by_cases rightSequence : right.container = .sequence
    · rw [sequence_text mode left leftSequence, sequence_text mode right rightSequence] at same
      simp only [List.append_assoc, List.cons_append, List.nil_append] at same
      have opened := (List.cons.inj (List.append_cancel_left same)).2
      obtain ⟨elems, tails⟩ := elem_sequence_unique mode left.element right.element _ _
        leftSound.named rightSound.named opened
      obtain ⟨names, -, rests⟩ := word_unique wordChar _ _ ';' ';' _ _ leftSound.word
        rightSound.word (by decide) (by decide) (List.cons.inj tails).2
      refine ⟨?_, (List.cons.inj rests).2⟩
      obtain ⟨leftName, leftKind, leftElem⟩ := left
      obtain ⟨rightName, rightKind, rightElem⟩ := right
      simp only at leftSequence rightSequence elems names
      rw [leftSequence, rightSequence, elems, String.toList_inj.mp names]
    · exact absurd same (fieldText_mixed mode left right _ _ rightSound leftSequence rightSequence)
  · by_cases rightSequence : right.container = .sequence
    · exact absurd same.symm
        (fieldText_mixed mode right left _ _ leftSound rightSequence leftSequence)
    · rw [plain_text mode left leftSequence, plain_text mode right rightSequence] at same
      simp only [List.append_assoc, List.cons_append] at same
      obtain ⟨first, leftTail, leftText, firstStops⟩ := afterName_first left.container leftRest
      obtain ⟨second, rightTail, rightText, secondStops⟩ :=
        afterName_first right.container rightRest
      rw [leftText, rightText] at same
      obtain ⟨elems, names, tails⟩ := elem_plain_unique mode left.element right.element _ _ first
        second _ _ leftSound.named rightSound.named leftSound.word rightSound.word firstStops
        secondStops same
      rw [← leftText, ← rightText] at tails
      obtain ⟨kinds, rests⟩ := afterName_unique left.container right.container leftRest rightRest
        leftSequence rightSequence tails
      refine ⟨?_, rests⟩
      obtain ⟨leftName, leftKind, leftElem⟩ := left
      obtain ⟨rightName, rightKind, rightElem⟩ := right
      simp only at kinds elems names
      rw [kinds, elems, String.toList_inj.mp names]

theorem annotation_opens (shape : FieldShape) (rest more : List Char) (sound : Sound shape) :
    '@' :: rest ≠ fieldText mode shape ++ more := by
  by_cases sequence : shape.container = .sequence
  · rw [sequence_text mode shape sequence]
    exact fun same => absurd (List.cons.inj same).1 (by decide)
  · rw [plain_text mode shape sequence, List.append_assoc, List.cons_append]
    exact opening_apart mode [] '@' shape.element rest _ sound.named
      (fun _ member => absurd member List.not_mem_nil) (by decide) (by decide)

theorem memberText_unique (left right : MemberShape) (leftRest rightRest : List Char)
    (leftSound : Sound left.toFieldShape) (rightSound : Sound right.toFieldShape)
    (same : memberText mode left ++ leftRest = memberText mode right ++ rightRest) :
    left = right ∧ leftRest = rightRest := by
  obtain ⟨leftField, leftKey⟩ := left
  obtain ⟨rightField, rightKey⟩ := right
  simp only [memberText, List.cons_append, List.append_assoc, List.nil_append] at same
  have opened := (List.cons.inj (List.cons.inj same).2).2
  cases leftKey with
  | true =>
      cases rightKey with
      | true =>
          obtain ⟨fields, rests⟩ := fieldText_unique mode leftField rightField leftRest rightRest
            leftSound rightSound (List.append_cancel_left opened)
          rw [fields]
          exact ⟨rfl, rests⟩
      | false => exact absurd opened (annotation_opens mode rightField _ _ rightSound)
  | false =>
      cases rightKey with
      | true => exact absurd opened.symm (annotation_opens mode leftField _ _ leftSound)
      | false =>
          obtain ⟨fields, rests⟩ := fieldText_unique mode leftField rightField leftRest rightRest
            leftSound rightSound opened
          rw [fields]
          exact ⟨rfl, rests⟩

/-! Definitions -/

def membersText (shapes : List MemberShape) : List Char := (shapes.map (memberText mode)).flatten

theorem membersText_unique (left right : List MemberShape) (leftRest rightRest : List Char)
    (leftSound : ∀ shape ∈ left, Sound shape.toFieldShape)
    (rightSound : ∀ shape ∈ right, Sound shape.toFieldShape)
    (same : membersText mode left ++ '\x7d' :: leftRest =
      membersText mode right ++ '\x7d' :: rightRest) :
    left = right ∧ leftRest = rightRest := by
  induction left generalizing right with
  | nil =>
      cases right with
      | nil => exact ⟨rfl, (List.cons.inj same).2⟩
      -- A member starts with a blank, not with the closing brace.
      | cons other right => exact absurd (List.cons.inj same).1 (by decide)
  | cons shape left ih =>
      cases right with
      | nil => exact absurd (List.cons.inj same).1 (by decide)
      | cons other right =>
          simp only [membersText, List.map_cons, List.flatten_cons, List.append_assoc] at same
          obtain ⟨members, tails⟩ := memberText_unique mode shape other _ _
            (leftSound shape List.mem_cons_self) (rightSound other List.mem_cons_self) same
          obtain ⟨rest, ends⟩ := ih right
            (fun item among => leftSound item (List.mem_cons_of_mem _ among))
            (fun item among => rightSound item (List.mem_cons_of_mem _ among)) tails
          rw [members, rest]
          exact ⟨rfl, ends⟩

/-- The modules below the package's, which a mode has for every type. -/
def modulesText : List Char :=
  (String.join (mode.middleSegments.map fun segment => " module " ++ segment ++ " \x7b")).toList

def moduleWord : List Char := ['m', 'o', 'd', 'u', 'l', 'e', ' ']

def structWord : List Char := ['s', 't', 'r', 'u', 'c', 't', ' ']

def defText (entry : TypeKey × List MemberShape) : List Char :=
  moduleWord ++ ((escapeIdlIdentifier entry.1.1).toList ++
    ' ' :: '\x7b' :: (modulesText mode ++ '\n' :: (structWord ++ (entry.1.2.toList ++
      (mode.typeSuffix.toList ++ ' ' :: '\x7b' :: '\n' :: (membersText mode entry.2 ++
        '\x7d' :: ';' :: '\n' :: mode.idlModuleClose.toList))))))

theorem members_text (schema : Schema Node) (node : Node) :
    (String.join ((schema node).fields.map (idlLine schema mode))).toList =
      membersText mode (structShape schema node) := by
  rw [String.toList_join, List.flatMap_def, List.map_map, membersText, structShape, List.map_map]
  congr 1
  apply List.map_congr_left
  intro field _
  exact idlLine_shape mode schema field

theorem moduleOpen_text (package : String) :
    (mode.idlModuleOpen package).toList =
      moduleWord ++ (package.toList ++ ' ' :: '\x7b' :: (modulesText mode ++ ['\n'])) := by
  simp only [NsMode.idlModuleOpen, modulesText, String.toList_append, List.append_assoc]
  rfl

theorem idlDef_text (schema : Schema Node) (node : Node) :
    (idlDef schema mode node).toList = defText mode (entryOf (memberGraph schema) node) := by
  simp only [idlDef, NsMode.idlTypeName, String.toList_append, moduleOpen_text, members_text,
    List.append_assoc, List.cons_append, List.nil_append]
  rfl

/-- An entry as a registry of accepted types has it. -/
def Sane (entry : TypeKey × List MemberShape) : Prop :=
  Named entry.1 ∧ ∀ shape ∈ entry.2, Sound shape.toFieldShape

theorem entryOf_sane (schema : Schema Node) (node : Node) :
    Sane (entryOf (memberGraph schema) node) := by
  refine ⟨⟨(schema node).packageAccepted, (schema node).nameAccepted⟩, ?_⟩
  intro shape member
  obtain ⟨field, -, rfl⟩ := List.mem_map.mp member
  exact fieldShape_sound schema field

theorem defText_unique (left right : TypeKey × List MemberShape) (leftRest rightRest : List Char)
    (leftSane : Sane left) (rightSane : Sane right)
    (same : defText mode left ++ leftRest = defText mode right ++ rightRest) :
    left = right ∧ leftRest = rightRest := by
  obtain ⟨leftKey, leftShapes⟩ := left
  obtain ⟨rightKey, rightShapes⟩ := right
  simp only [defText, List.append_assoc, List.cons_append] at same
  obtain ⟨packages, -, opened⟩ := word_unique wordChar _ _ ' ' ' ' _ _
    (package_escaped leftKey leftSane.1) (package_escaped rightKey rightSane.1) (by decide)
    (by decide) (List.append_cancel_left same)
  have escaped := escapeIdlIdentifier_injective leftKey.1 rightKey.1 leftSane.1.1 rightSane.1.1
    (String.toList_inj.mp packages)
  -- The modules are the mode's, so the name of the struct stands at one place in both texts.
  have structs := List.append_cancel_left (List.cons.inj (List.append_cancel_left
    (List.cons.inj opened).2)).2
  obtain ⟨names, bodies⟩ := suffixed_unique wordChar _ _ mode.typeSuffix.toList ' ' _ _
    (name_letters leftKey leftSane.1) (name_letters rightKey rightSane.1) (by decide) structs
  obtain ⟨shapes, closings⟩ := membersText_unique mode leftShapes rightShapes _ _ leftSane.2
    rightSane.2 (List.cons.inj (List.cons.inj bodies).2).2
  refine ⟨Prod.ext (Prod.ext escaped (String.toList_inj.mp names)) shapes, ?_⟩
  exact List.append_cancel_left (List.cons.inj (List.cons.inj closings).2).2

theorem defTexts_unique (left right : List (TypeKey × List MemberShape))
    (leftSane : ∀ entry ∈ left, Sane entry) (rightSane : ∀ entry ∈ right, Sane entry)
    (same : (left.map (defText mode)).flatten = (right.map (defText mode)).flatten) :
    left = right := by
  induction left generalizing right with
  | nil =>
      cases right with
      | nil => rfl
      | cons other right => simp [defText] at same
  | cons entry left ih =>
      cases right with
      | nil => simp [defText] at same
      | cons other right =>
          rw [List.map_cons, List.map_cons, List.flatten_cons, List.flatten_cons] at same
          obtain ⟨entries, rests⟩ := defText_unique mode entry other _ _
            (leftSane entry List.mem_cons_self) (rightSane other List.mem_cons_self) same
          rw [entries, ih right (fun item among => leftSane item (List.mem_cons_of_mem _ among))
            (fun item among => rightSane item (List.mem_cons_of_mem _ among)) rests]

theorem listing_text (schema : Schema Node) (nodes : List Node) :
    (String.join (nodes.map (idlDef schema mode))).toList =
      ((nodes.map (entryOf (memberGraph schema))).map (defText mode)).flatten := by
  rw [String.toList_join, List.flatMap_def, List.map_map, List.map_map]
  congr 1
  apply List.map_congr_left
  intro node _
  exact idlDef_text mode schema node

theorem references_members (schema : Schema Node) (node : Node) :
    ((memberGraph schema).succ node).map (memberGraph schema).key =
      (structShape schema node).filterMap fun shape => shape.element.getRight? := by
  have fields := references_shape schema node
  rw [messageShape, List.filterMap_map] at fields
  rw [structShape, List.filterMap_map]
  exact fields

theorem entries_sane (schema : Schema Node) (nodes : List Node) :
    ∀ entry ∈ nodes.map (entryOf (memberGraph schema)), Sane entry := by
  intro entry member
  obtain ⟨node, -, rfl⟩ := List.mem_map.mp member
  exact entryOf_sane schema node

section Programs

variable {Left : Type u} {Right : Type v} (left : Schema Left) (right : Schema Right)

theorem listings_text_iff (leftNodes : List Left) (rightNodes : List Right) :
    String.join (leftNodes.map (idlDef left mode)) =
        String.join (rightNodes.map (idlDef right mode)) ↔
      leftNodes.map (entryOf (memberGraph left)) =
        rightNodes.map (entryOf (memberGraph right)) := by
  rw [← String.toList_inj, listing_text, listing_text]
  constructor
  · exact defTexts_unique mode _ _ (entries_sane left leftNodes) (entries_sane right rightNodes)
  · exact congrArg fun entries : List (TypeKey × List MemberShape) =>
      (entries.map (defText mode)).flatten

theorem members_name : LabelsName (memberGraph left) (memberGraph right) := by
  intro first second same
  have shapes : structShape left first = structShape right second := same
  rw [references_members, references_members, shapes]

/-- The definitions in a returned text stand in the order in which the fields are finished. -/
theorem idl_finished {Node : Type u} [Fintype Node] [DecidableEq Node] (schema : Schema Node)
    (root : Node) (fuel : Nat) (enough : Fintype.card Node < fuel)
    (distinct : DistinctKeys (idlGraph schema mode) root) (text : String)
    (returned : idl schema fuel mode root = .ok text) :
    ∃ front, text = String.join ((front ++ [root]).map (idlDef schema mode)) ∧
      FinishingListing (memberGraph schema) root fuel (front ++ [root]) := by
  have ran := collectDefs_visit schema fuel root mode
  rcases run_distinct (idlGraph schema mode) root fuel enough distinct with
    ⟨-, path, again, done, -⟩ | ⟨-, after, done, visited, -⟩
  · rw [idl, ran, done] at returned
    cases returned
  · obtain ⟨front, last⟩ := root_last (idlGraph schema mode) root fuel after done
    have listing := run_finished (idlGraph schema mode) root fuel distinct after visited done
    rw [last] at listing
    refine ⟨front, ?_, finishing_relabel (idlGraph schema mode) (memberGraph schema) rfl root fuel
      _ listing⟩
    rw [idl, ran, done] at returned
    cases returned
    rw [← last]
    rfl

/-- In each mode, the text that a type returns is the text of another type, of this program or
another one, exactly when both have one package and name and look alike to every depth. -/
theorem idl_agree_iff [Fintype Left] [DecidableEq Left] [Fintype Right] [DecidableEq Right]
    (leftRoot : Left) (rightRoot : Right) (leftFuel rightFuel : Nat)
    (leftEnough : Fintype.card Left < leftFuel) (rightEnough : Fintype.card Right < rightFuel)
    (leftDistinct : DistinctKeys (idlGraph left mode) leftRoot)
    (rightDistinct : DistinctKeys (idlGraph right mode) rightRoot) (leftText rightText : String)
    (leftReturned : idl left leftFuel mode leftRoot = .ok leftText)
    (rightReturned : idl right rightFuel mode rightRoot = .ok rightText) :
    leftText = rightText ↔
      typeKey left leftRoot = typeKey right rightRoot ∧
        ∀ depth, unfolding (memberGraph left) depth leftRoot =
          unfolding (memberGraph right) depth rightRoot := by
  obtain ⟨leftFront, rfl, leftListing⟩ := idl_finished mode left leftRoot leftFuel leftEnough
    leftDistinct leftText leftReturned
  obtain ⟨rightFront, rfl, rightListing⟩ := idl_finished mode right rightRoot rightFuel rightEnough
    rightDistinct rightText rightReturned
  rw [listings_text_iff]
  exact finished_agree_iff (memberGraph left) (memberGraph right) leftRoot rightRoot leftFuel
    rightFuel leftFront rightFront (members_name left right) leftDistinct leftListing rightDistinct
    rightListing

end Programs

/-- The types that share a message text have IDL texts of their own. -/
theorem twins_two_texts :
    ∃ pointText vectorText, idl twinSchema 3 .ros2idl .point = .ok pointText ∧
      idl twinSchema 3 .ros2idl .vector = .ok vectorText ∧ pointText ≠ vectorText := by
  refine ⟨_, _, rfl, rfl, ?_⟩
  intro same
  have named := ((idl_agree_iff .ros2idl twinSchema twinSchema .point .vector 3 3 (by decide)
    (by decide) (twinSchema_distinct .point) (twinSchema_distinct .vector) _ _ rfl rfl).mp same).1
  exact absurd named (by decide)

end CycloneddsRs.IdlStructure
