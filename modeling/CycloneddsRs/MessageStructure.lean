import CycloneddsRs.GraphUnfoldings
import CycloneddsRs.RosMessage

/-!
What the concatenated message definition says. Two types, of one program or of two, have one
text exactly when their fields agree in name, container and primitive or struct, and so do
the fields of these structs to every depth. Only the name of the type itself is not in it.
-/

namespace CycloneddsRs.MessageStructure

open Naming InterfaceGen DefinitionText DelimitedText KeyedGraph KeyedTraversal
open SchemaTraversal GraphUnfoldings RosMessage

universe u v
variable {Node : Type u}

inductive Container where
  | plain
  | sequence
  | array (length : Nat)
  deriving DecidableEq

def container : InterfaceRef Node → Container
  | .elem _ => .plain
  | .vec _ => .sequence
  | .array _ n _ => .array n

/-- A primitive, or the package and name of a struct. -/
abbrev ElemShape := Primitive ⊕ TypeKey

def elemShape (schema : Schema Node) : InterfaceElem Node → ElemShape
  | .primitive kind => .inl kind
  | .struct node => .inr (typeKey schema node)

structure FieldShape where
  name : String
  container : Container
  element : ElemShape
  deriving DecidableEq

def fieldShape (schema : Schema Node) (field : FieldItem Node) : FieldShape :=
  { name := field.name
    container := container field.ty
    element := elemShape schema (element field.ty) }

def messageShape (schema : Schema Node) (node : Node) : List FieldShape :=
  (schema node).fields.map (fieldShape schema)

def shapeGraph (schema : Schema Node) : Graph Node TypeKey (List FieldShape) :=
  { succ := references schema, key := typeKey schema, label := messageShape schema }

/-! The text of a field by its shape -/

def containerText : Container → List Char
  | .plain => []
  | .sequence => ['[', ']']
  | .array n => '[' :: (Nat.toDigits 10 n ++ [']'])

def keyText (key : TypeKey) : List Char := key.1.toList ++ '/' :: key.2.toList

def elemText : ElemShape → List Char
  | .inl kind => kind.msgRef.toList
  | .inr key => keyText key

def shapeText (shape : FieldShape) : List Char :=
  elemText shape.element ++ (containerText shape.container ++ ' ' :: shape.name.toList)

/-- A key whose package and name are words. -/
def KeyWords (key : TypeKey) : Prop :=
  (∀ c ∈ key.1.toList, wordChar c = true) ∧ ∀ c ∈ key.2.toList, wordChar c = true

def Worded (shape : FieldShape) : Prop := ∀ key, shape.element = .inr key → KeyWords key

theorem typeKey_words (schema : Schema Node) (node : Node) : KeyWords (typeKey schema node) :=
  ⟨package_word schema node, name_word schema node⟩

theorem fieldShape_worded (schema : Schema Node) (field : FieldItem Node) :
    Worded (fieldShape schema field) := by
  intro key named
  unfold fieldShape at named
  cases elem : element field.ty with
  | primitive kind =>
      rw [elem] at named
      cases named
  | struct node =>
      rw [elem] at named
      cases named
      exact typeKey_words schema node

theorem msgText_shape (schema : Schema Node) (field : FieldItem Node) :
    msgText schema field = shapeText (fieldShape schema field) := by
  have elems : ∀ elem : InterfaceElem Node,
      (elem.msgRef schema).toList = elemText (elemShape schema elem) := by
    intro elem
    cases elem with
    | primitive kind => rfl
    | struct node => simp [InterfaceElem.msgRef, elemShape, elemText, keyText, typeKey]
  have suffixes : msgSuffix field.ty = containerText (container field.ty) := by
    cases field.ty <;> rfl
  rw [msgText, msgRef_text, elems, suffixes, List.append_assoc]
  rfl

theorem container_first (kind : Container) (name : List Char) :
    ∃ first rest, containerText kind ++ ' ' :: name = first :: rest ∧
      (first = ' ' ∨ first = '[') := by
  cases kind with
  | plain => exact ⟨' ', name, rfl, .inl rfl⟩
  | sequence => exact ⟨'[', _, rfl, .inr rfl⟩
  | array => exact ⟨'[', _, rfl, .inr rfl⟩

/-- A length and what closes its bracket, where an empty bracket is read as no digits. -/
theorem digits_unique (left right : List Char) (leftRest rightRest : List Char)
    (leftDigits : ∀ c ∈ left, c.isDigit = true) (rightDigits : ∀ c ∈ right, c.isDigit = true)
    (same : left ++ ']' :: leftRest = right ++ ']' :: rightRest) :
    left = right ∧ leftRest = rightRest := by
  obtain ⟨digits, -, rests⟩ := word_unique Char.isDigit left right ']' ']' leftRest rightRest
    leftDigits rightDigits (by decide) (by decide) same
  exact ⟨digits, rests⟩

theorem length_digits (n : Nat) : ∀ c ∈ Nat.toDigits 10 n, c.isDigit = true :=
  fun _ member => Nat.isDigit_of_mem_toDigits (by decide) (by decide) member

theorem toDigits_unique (left right : Nat) (same : Nat.toDigits 10 left = Nat.toDigits 10 right) :
    left = right := by
  rw [← Nat.ofDigitChars_ten_toDigits (n := left), same, Nat.ofDigitChars_ten_toDigits]

theorem container_unique (left right : Container) (leftName rightName : List Char)
    (same : containerText left ++ ' ' :: leftName = containerText right ++ ' ' :: rightName) :
    left = right ∧ leftName = rightName := by
  have empty : ∀ c ∈ ([] : List Char), c.isDigit = true :=
    fun _ member => absurd member List.not_mem_nil
  cases left with
  | plain =>
      cases right with
      | plain => exact ⟨rfl, (List.cons.inj same).2⟩
      | sequence => exact absurd (List.cons.inj same).1 (by decide)
      | array => exact absurd (List.cons.inj same).1 (by decide)
  | sequence =>
      cases right with
      | plain => exact absurd (List.cons.inj same).1 (by decide)
      | sequence => exact ⟨rfl, (List.cons.inj (List.append_cancel_left same)).2⟩
      | array n =>
          simp only [containerText, List.cons_append, List.append_assoc] at same
          obtain ⟨digits, -⟩ := digits_unique [] (Nat.toDigits 10 n) _ _ empty (length_digits n)
            (List.cons.inj same).2
          exact absurd digits.symm Nat.toDigits_ne_nil
  | array n =>
      cases right with
      | plain => exact absurd (List.cons.inj same).1 (by decide)
      | sequence =>
          simp only [containerText, List.cons_append, List.append_assoc] at same
          obtain ⟨digits, -⟩ := digits_unique (Nat.toDigits 10 n) [] _ _ (length_digits n) empty
            (List.cons.inj same).2
          exact absurd digits Nat.toDigits_ne_nil
      | array other =>
          simp only [containerText, List.cons_append, List.append_assoc] at same
          obtain ⟨digits, rests⟩ := digits_unique _ _ _ _ (length_digits n) (length_digits other)
            (List.cons.inj same).2
          rw [toDigits_unique n other digits]
          exact ⟨rfl, (List.cons.inj rests).2⟩

theorem primitive_unique (left right : Primitive) (same : left.msgRef = right.msgRef) :
    left = right := by
  cases left <;> cases right <;> first | rfl | exact absurd same (by decide)

theorem keyText_unique (left right : TypeKey) (first second : Char) (leftRest rightRest : List Char)
    (leftWords : KeyWords left) (rightWords : KeyWords right) (firstStops : wordChar first = false)
    (secondStops : wordChar second = false)
    (same : keyText left ++ first :: leftRest = keyText right ++ second :: rightRest) :
    left = right ∧ first :: leftRest = second :: rightRest := by
  unfold keyText at same
  rw [List.append_assoc, List.append_assoc] at same
  obtain ⟨packages, -, rests⟩ := word_unique wordChar _ _ '/' '/' _ _ leftWords.1 rightWords.1
    (by decide) (by decide) same
  obtain ⟨names, stops, mores⟩ := word_unique wordChar _ _ first second _ _ leftWords.2
    rightWords.2 firstStops secondStops rests
  rw [stops, mores]
  exact ⟨Prod.ext (String.toList_inj.mp packages) (String.toList_inj.mp names), rfl⟩

/-- The element of a field ends in front of a blank or a bracket. -/
theorem elem_text_unique (left right : ElemShape) (first second : Char)
    (leftRest rightRest : List Char) (leftWords : ∀ key, left = .inr key → KeyWords key)
    (rightWords : ∀ key, right = .inr key → KeyWords key)
    (firstStops : first = ' ' ∨ first = '[') (secondStops : second = ' ' ∨ second = '[')
    (same : elemText left ++ first :: leftRest = elemText right ++ second :: rightRest) :
    left = right ∧ first :: leftRest = second :: rightRest := by
  have outside : ∀ c, c = ' ' ∨ c = '[' → wordChar c = false ∧ c ≠ '/' := by
    rintro c (rfl | rfl) <;> decide
  -- A slash follows the first word of a struct and of no primitive.
  have mixed : ∀ (kind : Primitive) (key : TypeKey) (stop other : Char) (rest more : List Char),
      KeyWords key → (stop = ' ' ∨ stop = '[') →
        kind.msgRef.toList ++ stop :: rest ≠ keyText key ++ other :: more := by
    intro kind key stop other rest more words stops equal
    rw [keyText, List.append_assoc] at equal
    obtain ⟨-, slash, -⟩ := word_unique wordChar _ _ stop '/' _ _ (primitive_msg kind).2 words.1
      (outside stop stops).1 (by decide) equal
    exact (outside stop stops).2 slash
  cases left with
  | inl leftKind =>
      cases right with
      | inl rightKind =>
          obtain ⟨kinds, stops, rests⟩ := word_unique wordChar _ _ first second _ _
            (primitive_msg leftKind).2 (primitive_msg rightKind).2 (outside first firstStops).1
            (outside second secondStops).1 same
          rw [primitive_unique leftKind rightKind (String.toList_inj.mp kinds), stops, rests]
          exact ⟨rfl, rfl⟩
      | inr key => exact absurd same (mixed leftKind key _ _ _ _ (rightWords key rfl) firstStops)
  | inr key =>
      cases right with
      | inl kind => exact absurd same.symm (mixed kind key _ _ _ _ (leftWords key rfl) secondStops)
      | inr other =>
          obtain ⟨keys, rests⟩ := keyText_unique key other first second _ _ (leftWords key rfl)
            (rightWords other rfl) (outside first firstStops).1 (outside second secondStops).1 same
          rw [keys]
          exact ⟨rfl, rests⟩

theorem shapeText_unique (left right : FieldShape) (leftWorded : Worded left)
    (rightWorded : Worded right) (same : shapeText left = shapeText right) : left = right := by
  obtain ⟨leftName, leftContainer, leftElem⟩ := left
  obtain ⟨rightName, rightContainer, rightElem⟩ := right
  obtain ⟨first, leftRest, leftText, firstStops⟩ :=
    container_first leftContainer leftName.toList
  obtain ⟨second, rightRest, rightText, secondStops⟩ :=
    container_first rightContainer rightName.toList
  simp only [shapeText, leftText, rightText] at same
  obtain ⟨elems, rests⟩ := elem_text_unique leftElem rightElem first second leftRest rightRest
    leftWorded rightWorded firstStops secondStops same
  rw [← leftText, ← rightText] at rests
  obtain ⟨containers, names⟩ := container_unique leftContainer rightContainer _ _ rests
  rw [elems, containers, String.toList_inj.mp names]

/-! Definitions and blocks -/

def bodyText (shapes : List FieldShape) : List Char :=
  (shapes.map fun shape => shapeText shape ++ ['\n']).flatten

theorem msgDef_shape (schema : Schema Node) (node : Node) :
    (msgDef schema node).toList = bodyText (messageShape schema node) := by
  simp only [msgDef_lines, msgLines, bodyText, messageShape, List.map_map, Function.comp_def,
    msgText_shape]

def Readable (shape : FieldShape) : Prop := Worded shape ∧ '\n' ∉ shapeText shape

theorem messageShape_readable (schema : Schema Node) (node : Node) :
    ∀ shape ∈ messageShape schema node, Readable shape := by
  intro shape member
  obtain ⟨field, -, rfl⟩ := List.mem_map.mp member
  have line := msgText_line schema field
  rw [msgText_shape] at line
  exact ⟨fieldShape_worded schema field, line⟩

theorem bodyText_unique (left right : List FieldShape)
    (leftReadable : ∀ shape ∈ left, Readable shape)
    (rightReadable : ∀ shape ∈ right, Readable shape) (same : bodyText left = bodyText right) :
    left = right := by
  induction left generalizing right with
  | nil =>
      cases right with
      | nil => rfl
      | cons other right => simp [bodyText] at same
  | cons shape left ih =>
      cases right with
      | nil => simp [bodyText] at same
      | cons other right =>
          simp only [bodyText, List.map_cons, List.flatten_cons, List.append_assoc,
            List.singleton_append] at same
          have here := leftReadable shape List.mem_cons_self
          have there := rightReadable other List.mem_cons_self
          obtain ⟨lines, rests⟩ := line_unique '\n' _ _ _ _ here.2 there.2 same
          have later := ih right
            (fun item among => leftReadable item (List.mem_cons_of_mem _ among))
            (fun item among => rightReadable item (List.mem_cons_of_mem _ among)) rests
          rw [shapeText_unique shape other here.1 there.1 lines, later]

section Programs

variable {Left : Type u} {Right : Type v} (left : Schema Left) (right : Schema Right)

theorem msgDef_agree_iff (first : Left) (second : Right) :
    msgDef left first = msgDef right second ↔
      messageShape left first = messageShape right second := by
  rw [← String.toList_inj, msgDef_shape, msgDef_shape]
  constructor
  · exact bodyText_unique _ _ (messageShape_readable left first)
      (messageShape_readable right second)
  · exact congrArg bodyText

theorem msgRef_key (schema : Schema Node) (node : Node) :
    (InterfaceElem.msgRef schema (.struct node)).toList = keyText (typeKey schema node) := by
  simp [InterfaceElem.msgRef, keyText, typeKey]

theorem blockText_agree_iff (first : Left) (second : Right) :
    blockText left first = blockText right second ↔
      entryOf (shapeGraph left) first = entryOf (shapeGraph right) second := by
  constructor
  · intro same
    have texts := congrArg String.toList same
    simp only [blockText, String.toList_append, header_text, msgRef_key, List.append_assoc] at texts
    have keyed := List.append_cancel_left texts
    obtain ⟨keys, bodies⟩ := keyText_unique _ _ '\n' '\n' _ _ (typeKey_words left first)
      (typeKey_words right second) (by decide) (by decide) keyed
    have defs : msgDef left first = msgDef right second :=
      String.toList_inj.mp (List.cons.inj bodies).2
    exact Prod.ext keys ((msgDef_agree_iff left right first second).mp defs)
  · intro same
    obtain ⟨keys, shapes⟩ := Prod.mk.inj same
    have refs : InterfaceElem.msgRef left (.struct first) =
        InterfaceElem.msgRef right (.struct second) := by
      apply String.toList_inj.mp
      rw [msgRef_key, msgRef_key]
      exact congrArg keyText keys
    rw [blockText, blockText, header, header, refs,
      (msgDef_agree_iff left right first second).mpr shapes]

theorem blocks_agree_iff (leftRest : List Left) (rightRest : List Right) :
    (leftRest.map fun node => (blockText left node).toList) =
        (rightRest.map fun node => (blockText right node).toList) ↔
      leftRest.map (entryOf (shapeGraph left)) = rightRest.map (entryOf (shapeGraph right)) := by
  induction leftRest generalizing rightRest with
  | nil => cases rightRest <;> simp
  | cons first leftRest ih =>
      cases rightRest with
      | nil => simp
      | cons second rightRest =>
          rw [List.map_cons, List.map_cons, List.map_cons, List.map_cons, List.cons.injEq,
            List.cons.injEq, ih rightRest, String.toList_inj, blockText_agree_iff]

theorem references_shape {Node : Type u} (schema : Schema Node) (node : Node) :
    ((shapeGraph schema).succ node).map (shapeGraph schema).key =
      (messageShape schema node).filterMap fun shape => shape.element.getRight? := by
  rw [messageShape, List.filterMap_map]
  change (references schema node).map (typeKey schema) = _
  rw [references, List.map_filterMap]
  congr 1
  funext field
  simp only [refTarget, Function.comp_apply, fieldShape]
  cases element field.ty <;> rfl

theorem labels_name : LabelsName (shapeGraph left) (shapeGraph right) := by
  intro first second same
  have shapes : messageShape left first = messageShape right second := same
  rw [references_shape, references_shape, shapes]

theorem render_text {Node : Type u} (schema : Schema Node) (root : Node) (rest : List Node)
    (reg : MsgDefRegistry)
    (entries : reg.entries = (root :: rest).map (RosMessage.entryOf schema)) :
    reg.render = msgDef schema root ++ String.join
      ((rest.map fun node => (blockText schema node).toList).map fun text =>
        separator ++ "\n" ++ String.ofList text) := by
  have blocksText : (rest.map (RosMessage.entryOf schema)).map renderBlock =
      (rest.map fun node => (blockText schema node).toList).map fun text =>
        separator ++ "\n" ++ String.ofList text := by
    rw [List.map_map, List.map_map]
    apply List.map_congr_left
    intro node _
    simp only [Function.comp_apply, String.ofList_toList, renderBlock, RosMessage.entryOf,
      blockText, header, String.append_assoc]
  rw [MsgDefRegistry.render, entries, List.map_cons, ← blocksText]
  rfl

theorem render_agree_iff (leftRoot : Left) (rightRoot : Right) (leftRest : List Left)
    (rightRest : List Right) (leftReg rightReg : MsgDefRegistry)
    (leftEntries : leftReg.entries = (leftRoot :: leftRest).map (RosMessage.entryOf left))
    (rightEntries : rightReg.entries = (rightRoot :: rightRest).map (RosMessage.entryOf right)) :
    leftReg.render = rightReg.render ↔
      messageShape left leftRoot = messageShape right rightRoot ∧
        leftRest.map (entryOf (shapeGraph left)) = rightRest.map (entryOf (shapeGraph right)) := by
  rw [← blocks_agree_iff, ← msgDef_agree_iff]
  have leftBlocks := render_blocks left leftRoot leftRest leftReg leftEntries
  have rightBlocks := render_blocks right rightRoot rightRest rightReg rightEntries
  constructor
  · intro same
    rw [same, rightBlocks] at leftBlocks
    obtain ⟨roots, rests⟩ := List.cons.inj leftBlocks
    exact ⟨(String.toList_inj.mp roots).symm, rests.symm⟩
  · rintro ⟨roots, rests⟩
    rw [render_text left leftRoot leftRest leftReg leftEntries,
      render_text right rightRoot rightRest rightReg rightEntries, roots, rests]

/-- The text that a type returns is the text of another type, of this program or another one,
exactly when the two look alike to every depth. -/
theorem fullRos2Msg_agree_iff [Fintype Left] [DecidableEq Left] [Fintype Right] [DecidableEq Right]
    (leftRoot : Left) (rightRoot : Right) (leftFuel rightFuel : Nat)
    (leftEnough : Fintype.card Left < leftFuel) (rightEnough : Fintype.card Right < rightFuel)
    (leftDistinct : DistinctKeys (msgGraph left) leftRoot)
    (rightDistinct : DistinctKeys (msgGraph right) rightRoot) (leftText rightText : String)
    (leftReturned : fullRos2Msg left leftFuel leftRoot = .ok leftText)
    (rightReturned : fullRos2Msg right rightFuel rightRoot = .ok rightText) :
    leftText = rightText ↔
      ∀ depth, unfolding (shapeGraph left) depth leftRoot =
        unfolding (shapeGraph right) depth rightRoot := by
  rcases fullRos2Msg_cases left leftRoot leftFuel leftEnough leftDistinct with
    ⟨-, message, halted⟩ | ⟨leftAcyclic, leftReg, leftRest, leftRan, leftEntries, leftListing⟩
  · rw [leftReturned] at halted
    cases halted
  rcases fullRos2Msg_cases right rightRoot rightFuel rightEnough rightDistinct with
    ⟨-, message, halted⟩ | ⟨rightAcyclic, rightReg, rightRest, rightRan, rightEntries,
      rightListing⟩
  · rw [rightReturned] at halted
    cases halted
  rw [leftReturned] at leftRan
  rw [rightReturned] at rightRan
  cases leftRan
  cases rightRan
  rw [render_agree_iff left right leftRoot rightRoot leftRest rightRest leftReg rightReg
    leftEntries rightEntries]
  have leftShapes := listing_relabel (msgGraph left) (shapeGraph left) rfl leftRoot leftFuel _
    leftListing
  have rightShapes := listing_relabel (msgGraph right) (shapeGraph right) rfl rightRoot rightFuel _
    rightListing
  exact listings_agree_iff (shapeGraph left) (shapeGraph right) leftRoot rightRoot leftFuel
    rightFuel leftRest rightRest (labels_name left right) leftAcyclic leftDistinct leftShapes
    rightAcyclic rightDistinct rightShapes

end Programs

/-! Two types of one text -/

inductive TwinType where
  | point | vector
  deriving DecidableEq

instance : Fintype TwinType :=
  ⟨{.point, .vector}, fun type => by cases type <;> decide⟩

def TwinType.name : TwinType → String
  | .point => "Point"
  | .vector => "Vector3"

def twinSchema (type : TwinType) : StructItem TwinType :=
  { package := "survey_msgs"
    name := type.name
    fields := [.unkeyed "heading" (.elem (.primitive .f64)) rfl,
      .unkeyed "offsets" (.array (.primitive .f32) 2 (Nat.zero_lt_succ 1)) rfl]
    packageAccepted := rfl
    nameAccepted := by cases type <;> rfl
    nonempty := List.cons_ne_nil _ _ }

theorem twinSchema_distinct (root : TwinType) : DistinctKeys (msgGraph twinSchema) root := by
  have keys : ∀ first second, typeKey twinSchema first = typeKey twinSchema second →
      first = second := by decide
  exact fun first second _ _ same => keys first second same

theorem twins_one_text :
    ∃ pointText vectorText, fullRos2Msg twinSchema 3 .point = .ok pointText ∧
      fullRos2Msg twinSchema 3 .vector = .ok vectorText ∧ pointText = vectorText := by
  refine ⟨_, _, rfl, rfl, ?_⟩
  apply (fullRos2Msg_agree_iff twinSchema twinSchema .point .vector 3 3 (by decide) (by decide)
    (twinSchema_distinct .point) (twinSchema_distinct .vector) _ _ rfl rfl).mpr
  intro depth
  cases depth <;> rfl

end CycloneddsRs.MessageStructure
