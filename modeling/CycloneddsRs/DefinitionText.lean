import CycloneddsRs.InterfaceGen
import CycloneddsRs.DelimitedText

/-!
What can be read back from a definition text: field by field, the package and name of
every struct that it refers to, in every namespace mode. The lines of a `.msg` text are
whole and never look like a separator.
-/

namespace CycloneddsRs.DefinitionText

open Naming InterfaceGen DelimitedText

universe u
variable {Node : Type u}

def elemTarget : InterfaceElem Node → Option Node
  | .primitive _ => none
  | .struct node => some node

def element : InterfaceRef Node → InterfaceElem Node
  | .elem element => element
  | .vec element => element
  | .array element _ _ => element

/-- The struct that a field refers to, directly or inside a container. -/
def refTarget (ty : InterfaceRef Node) : Option Node := elemTarget (element ty)

def references (schema : Schema Node) (node : Node) : List Node :=
  (schema node).fields.filterMap fun field => refTarget field.ty

theorem word_stops (word : List Char) (stop : Char) (inside : ∀ c ∈ word, wordChar c = true)
    (stops : wordChar stop = false) : stop ∉ word := by
  intro member
  have both := inside stop member
  rw [stops] at both
  cases both

section Names

variable (schema : Schema Node) (node : Node)

theorem package_word : ∀ c ∈ (schema node).package.toList, wordChar c = true := by
  obtain ⟨_, _, _, _, word⟩ :=
    validateLowerSnakeCase_word (schema node).package (schema node).packageAccepted
  exact word

theorem name_word : ∀ c ∈ (schema node).name.toList, wordChar c = true := by
  obtain ⟨_, _, _, _, word⟩ :=
    validateRosTypeName_word (schema node).name (schema node).nameAccepted
  exact word

theorem field_word (field : FieldItem Node) : ∀ c ∈ field.name.toList, wordChar c = true := by
  obtain ⟨_, _, _, _, word⟩ := validateMsgFieldName_word field.name field.nameAccepted
  exact word

theorem escaped_word :
    ∀ c ∈ (escapeIdlIdentifier (schema node).package).toList, wordChar c = true :=
  (escapeIdlIdentifier_word (schema node).package (schema node).packageAccepted).2

end Names

theorem digits_line (n : Nat) : '\n' ∉ Nat.toDigits 10 n := by
  intro member
  have digit := Nat.isDigit_of_mem_toDigits (by decide) (by decide) member
  revert digit
  decide

/-! IDL -/

section Idl

variable (schema : Schema Node) (mode : NsMode)

theorem primitive_first (kind : Primitive) (stop : Char) (tail : List Char) :
    ∃ word first rest, kind.idlRef.toList ++ stop :: tail = word ++ first :: rest ∧
      (∀ c ∈ word, wordChar c = true) ∧ (first = ' ' ∨ first = stop) := by
  cases kind with
  | u16 =>
      exact ⟨"unsigned".toList, ' ', "short".toList ++ stop :: tail, rfl,
        List.all_eq_true.mp rfl, .inl rfl⟩
  | u32 =>
      exact ⟨"unsigned".toList, ' ', "long".toList ++ stop :: tail, rfl,
        List.all_eq_true.mp rfl, .inl rfl⟩
  | i64 =>
      exact ⟨"long".toList, ' ', "long".toList ++ stop :: tail, rfl,
        List.all_eq_true.mp rfl, .inl rfl⟩
  | u64 =>
      exact ⟨"unsigned".toList, ' ', "long long".toList ++ stop :: tail, rfl,
        List.all_eq_true.mp rfl, .inl rfl⟩
  | _ => exact ⟨_, stop, tail, rfl, List.all_eq_true.mp rfl, .inr rfl⟩

theorem primitive_line (kind : Primitive) : '\n' ∉ kind.idlRef.toList := by
  cases kind <;> decide

/-- What stands between the package and the type name. -/
def pathText : List Char :=
  match mode.middle with
  | none => [':']
  | some mid => ':' :: (mid.toList ++ [':', ':'])

theorem idlTypeRef_text (package name : String) :
    (mode.idlTypeRef package name).toList =
      package.toList ++ ':' :: (pathText mode ++ (name.toList ++ mode.typeSuffix.toList)) := by
  unfold NsMode.idlTypeRef NsMode.idlTypeName pathText
  cases mode.middle <;> simp

theorem elem_first (elem : InterfaceElem Node) (stop : Char) (tail : List Char)
    (stops : stop = ' ' ∨ stop = '>') :
    ∃ word first rest, (elem.idlRef schema mode).toList ++ stop :: tail = word ++ first :: rest ∧
      (∀ c ∈ word, wordChar c = true) ∧ (first = ' ' ∨ first = stop ∨ first = ':') ∧
      (first = ':' ↔ (elemTarget elem).isSome) := by
  cases elem with
  | primitive kind =>
      obtain ⟨word, first, rest, split, inside, ends⟩ := primitive_first kind stop tail
      refine ⟨word, first, rest, split, inside, ?_, ?_⟩
      · rcases ends with space | ended
        · exact .inl space
        · exact .inr (.inl ended)
      · rcases ends with rfl | rfl <;> rcases stops with rfl | rfl <;> simp [elemTarget]
  | struct node =>
      rw [InterfaceElem.idlRef, idlTypeRef_text, List.append_assoc, List.cons_append]
      exact ⟨_, ':', _, rfl, escaped_word schema node, .inr (.inr rfl), by simp [elemTarget]⟩

theorem elem_unique (left right : InterfaceElem Node) (stop : Char)
    (leftTail rightTail leftMore rightMore : List Char) (stops : stop = ' ' ∨ stop = '>')
    (leftLine : '\n' ∉ leftTail) (rightLine : '\n' ∉ rightTail)
    (same : (left.idlRef schema mode).toList ++ stop :: (leftTail ++ '\n' :: leftMore) =
      (right.idlRef schema mode).toList ++ stop :: (rightTail ++ '\n' :: rightMore)) :
    (elemTarget left).map (typeKey schema) = (elemTarget right).map (typeKey schema) ∧
      leftMore = rightMore := by
  have apart : wordChar stop = false ∧ stop ≠ '\n' := by
    rcases stops with rfl | rfl <;> decide
  -- The symbol behind the first word is a colon for a struct and for no primitive.
  have kinds : (elemTarget left).isSome ↔ (elemTarget right).isSome := by
    obtain ⟨leftWord, leftFirst, leftRest, leftSplit, leftInside, leftEnds, leftKind⟩ :=
      elem_first schema mode left stop (leftTail ++ '\n' :: leftMore) stops
    obtain ⟨rightWord, rightFirst, rightRest, rightSplit, rightInside, rightEnds, rightKind⟩ :=
      elem_first schema mode right stop (rightTail ++ '\n' :: rightMore) stops
    have outside : ∀ first, first = ' ' ∨ first = stop ∨ first = ':' → wordChar first = false := by
      rintro first (rfl | rfl | rfl)
      · decide
      · exact apart.1
      · decide
    rw [leftSplit, rightSplit] at same
    obtain ⟨-, firsts, -⟩ := word_unique wordChar leftWord rightWord leftFirst rightFirst leftRest
      rightRest leftInside rightInside (outside _ leftEnds) (outside _ rightEnds) same
    rw [← leftKind, ← rightKind, firsts]
  cases left with
  | primitive leftKind =>
      cases right with
      | struct node => simp [elemTarget] at kinds
      | primitive rightKind =>
          have line : ∀ (kind : Primitive) (tail : List Char), '\n' ∉ tail →
              '\n' ∉ kind.idlRef.toList ++ stop :: tail := by
            intro kind tail inside member
            rcases List.mem_append.mp member with inKind | later
            · exact primitive_line kind inKind
            · rcases List.mem_cons.mp later with atStop | inTail
              · exact apart.2 atStop.symm
              · exact inside inTail
          refine ⟨rfl, ?_⟩
          simp only [InterfaceElem.idlRef] at same
          rw [← List.cons_append, ← List.append_assoc, ← List.cons_append, ← List.append_assoc]
            at same
          exact (line_unique '\n' _ _ _ _ (line leftKind leftTail leftLine)
            (line rightKind rightTail rightLine) same).2
  | struct leftNode =>
      cases right with
      | primitive kind => simp [elemTarget] at kinds
      | struct rightNode =>
          simp only [InterfaceElem.idlRef, idlTypeRef_text, List.append_assoc, List.cons_append]
            at same
          obtain ⟨packages, -, rests⟩ := word_unique wordChar _ _ ':' ':' _ _
            (escaped_word schema leftNode) (escaped_word schema rightNode) (by decide) (by decide)
            same
          have samePackage := escapeIdlIdentifier_injective _ _ (schema leftNode).packageAccepted
            (schema rightNode).packageAccepted (String.toList_inj.mp packages)
          -- The suffix of a mode may be any text; the stop behind it is no letter of a name, so
          -- the two names cannot trade letters with it.
          obtain ⟨names, tails⟩ := suffixed_unique wordChar _ _ mode.typeSuffix.toList stop _ _
            (name_word schema leftNode) (name_word schema rightNode) apart.1
            (List.append_cancel_left rests)
          refine ⟨?_, (line_unique '\n' _ _ _ _ leftLine rightLine tails).2⟩
          exact congrArg some (Prod.ext samePackage (String.toList_inj.mp names))

def isVec : InterfaceRef Node → Bool
  | .vec _ => true
  | _ => false

/-- Around its element, a field's text depends on whether it is a sequence only. -/
theorem idlField_text (ty : InterfaceRef Node) (name : String)
    (named : ∀ c ∈ name.toList, wordChar c = true) :
    ∃ tail, '\n' ∉ tail ∧ (ty.idlField schema name mode).toList =
      (if isVec ty then "sequence<".toList else []) ++
        (((element ty).idlRef schema mode).toList ++ (if isVec ty then '>' else ' ') :: tail) := by
  have noBreak : '\n' ∉ name.toList := word_stops name.toList '\n' named (by decide)
  cases ty with
  | elem element =>
      refine ⟨name.toList ++ [';'], by simp [noBreak], ?_⟩
      simp [InterfaceRef.idlField, InterfaceRef.idlRef, CycloneddsRs.DefinitionText.element, isVec]
  | vec element =>
      refine ⟨' ' :: (name.toList ++ [';']), by simp [noBreak], ?_⟩
      simp [InterfaceRef.idlField, InterfaceRef.idlRef, CycloneddsRs.DefinitionText.element, isVec]
  | array element n positive =>
      refine ⟨name.toList ++ '[' :: (Nat.toDigits 10 n ++ [']', ';']), ?_, ?_⟩
      · simp [noBreak, digits_line n]
      · simp [InterfaceRef.idlField, CycloneddsRs.DefinitionText.element, isVec]

theorem sequence_apart (elem : InterfaceElem Node) (tail rest : List Char) :
    "sequence<".toList ++ rest ≠ (elem.idlRef schema mode).toList ++ ' ' :: tail := by
  intro same
  -- No first word ends at an angle bracket.
  obtain ⟨word, first, more, split, inside, ends, -⟩ :=
    elem_first schema mode elem ' ' tail (.inl rfl)
  have outside : wordChar first = false ∧ first ≠ '<' := by
    rcases ends with rfl | rfl | rfl <;> decide
  have opened : "sequence<".toList ++ rest = "sequence".toList ++ '<' :: rest := rfl
  rw [split, opened] at same
  obtain ⟨-, firsts, -⟩ := word_unique wordChar "sequence".toList word '<' first rest more
    (List.all_eq_true.mp rfl) inside (by decide) outside.1 same
  exact outside.2 firsts.symm

theorem field_unique (left right : FieldItem Node) (leftMore rightMore : List Char)
    (same : (left.ty.idlField schema left.name mode).toList ++ '\n' :: leftMore =
      (right.ty.idlField schema right.name mode).toList ++ '\n' :: rightMore) :
    (refTarget left.ty).map (typeKey schema) = (refTarget right.ty).map (typeKey schema) ∧
      leftMore = rightMore := by
  obtain ⟨leftTail, leftLine, leftText⟩ :=
    idlField_text schema mode left.ty left.name (field_word left)
  obtain ⟨rightTail, rightLine, rightText⟩ :=
    idlField_text schema mode right.ty right.name (field_word right)
  rw [leftText, rightText] at same
  simp only [List.append_assoc, List.cons_append] at same
  cases leftVec : isVec left.ty with
  | true =>
      cases rightVec : isVec right.ty with
      | true =>
          simp only [leftVec, rightVec, if_true] at same
          exact elem_unique schema mode (element left.ty) (element right.ty) '>' leftTail rightTail
            leftMore rightMore (.inr rfl) leftLine rightLine (List.append_cancel_left same)
      | false =>
          simp only [leftVec, rightVec, if_true, Bool.false_eq_true, if_false, List.nil_append]
            at same
          exact absurd same (sequence_apart schema mode (element right.ty) _ _)
  | false =>
      cases rightVec : isVec right.ty with
      | true =>
          simp only [leftVec, rightVec, if_true, Bool.false_eq_true, if_false, List.nil_append]
            at same
          exact absurd same.symm (sequence_apart schema mode (element left.ty) _ _)
      | false =>
          simp only [leftVec, rightVec, Bool.false_eq_true, if_false, List.nil_append] at same
          exact elem_unique schema mode (element left.ty) (element right.ty) ' ' leftTail rightTail
            leftMore rightMore (.inl rfl) leftLine rightLine same

/-- No field's text starts like the key annotation. -/
theorem annotation_apart (field : FieldItem Node) (rest more : List Char) :
    '@' :: rest ≠ (field.ty.idlField schema field.name mode).toList ++ more := by
  intro same
  obtain ⟨tail, -, text⟩ := idlField_text schema mode field.ty field.name (field_word field)
  rw [text] at same
  cases vec : isVec field.ty with
  | true =>
      rw [vec, if_pos rfl] at same
      exact absurd (List.cons.inj same).1 (by decide)
  | false =>
      simp only [vec, Bool.false_eq_true, if_false, List.nil_append, List.append_assoc,
        List.cons_append] at same
      obtain ⟨word, first, later, split, inside, ends, -⟩ :=
        elem_first schema mode (element field.ty) ' ' (tail ++ more) (.inl rfl)
      have outside : wordChar first = false ∧ first ≠ '@' := by
        rcases ends with rfl | rfl | rfl <;> decide
      rw [split, ← List.nil_append ('@' :: rest)] at same
      obtain ⟨-, firsts, -⟩ := word_unique wordChar [] word '@' first rest later nofun inside
        (by decide) outside.1 same
      exact outside.2 firsts.symm

theorem idlLine_unique (left right : FieldItem Node) (leftMore rightMore : List Char)
    (same : (idlLine schema mode left).toList ++ leftMore =
      (idlLine schema mode right).toList ++ rightMore) :
    (refTarget left.ty).map (typeKey schema) = (refTarget right.ty).map (typeKey schema) ∧
      leftMore = rightMore := by
  have lineText : ∀ (field : FieldItem Node) (more : List Char),
      (idlLine schema mode field).toList ++ more =
        ' ' :: ' ' :: ((if field.isKey then "@key ".toList else []) ++
          ((field.ty.idlField schema field.name mode).toList ++ '\n' :: more)) := by
    intro field more
    cases marked : field.isKey <;> simp [idlLine, marked]
  rw [lineText, lineText] at same
  have opened := (List.cons.inj (List.cons.inj same).2).2
  cases leftKey : left.isKey with
  | true =>
      cases rightKey : right.isKey with
      | true =>
          simp only [leftKey, rightKey, if_true] at opened
          exact field_unique schema mode left right leftMore rightMore
            (List.append_cancel_left opened)
      | false =>
          simp only [leftKey, rightKey, if_true, Bool.false_eq_true, if_false, List.nil_append]
            at opened
          exact absurd opened (annotation_apart schema mode right _ _)
  | false =>
      cases rightKey : right.isKey with
      | true =>
          simp only [leftKey, rightKey, if_true, Bool.false_eq_true, if_false, List.nil_append]
            at opened
          exact absurd opened.symm (annotation_apart schema mode left _ _)
      | false =>
          simp only [leftKey, rightKey, Bool.false_eq_true, if_false, List.nil_append] at opened
          exact field_unique schema mode left right leftMore rightMore opened

theorem idlBody_unique (left right : List (FieldItem Node)) (close : List Char)
    (same : (String.join (left.map (idlLine schema mode))).toList ++ '}' :: close =
      (String.join (right.map (idlLine schema mode))).toList ++ '}' :: close) :
    (left.filterMap fun field => refTarget field.ty).map (typeKey schema) =
      (right.filterMap fun field => refTarget field.ty).map (typeKey schema) := by
  induction left generalizing right with
  | nil =>
      cases right with
      | nil => rfl
      | cons field right => simp [idlLine] at same
  | cons field left ih =>
      cases right with
      | nil => simp [idlLine] at same
      | cons other right =>
          simp only [List.map_cons, String.join_cons, String.toList_append, List.append_assoc]
            at same
          obtain ⟨target, rests⟩ := idlLine_unique schema mode field other _ _ same
          have later := ih right rests
          cases leftTarget : refTarget field.ty <;> cases rightTarget : refTarget other.ty <;>
            simp_all

/-- Equal definitions of equal keys refer to equal keys. -/
theorem idlDef_references (left right : Node) (sameKey : typeKey schema left = typeKey schema right)
    (same : idlDef schema mode left = idlDef schema mode right) :
    (references schema left).map (typeKey schema) =
      (references schema right).map (typeKey schema) := by
  have packages : (schema left).package = (schema right).package := congrArg Prod.fst sameKey
  have names : (schema left).name = (schema right).name := congrArg Prod.snd sameKey
  unfold idlDef at same
  rw [packages, names] at same
  have texts := congrArg String.toList same
  simp only [String.toList_append, List.append_assoc] at texts
  -- Equal keys open the same modules and the same struct.
  have bodies := List.append_cancel_left (List.append_cancel_left
    (List.append_cancel_left (List.append_cancel_left texts)))
  exact idlBody_unique schema mode (schema left).fields (schema right).fields
    (';' :: '\n' :: mode.idlModuleClose.toList) bodies

end Idl

/-! Messages -/

section Msg

variable (schema : Schema Node)

def msgSuffix : InterfaceRef Node → List Char
  | .elem _ => []
  | .vec _ => ['[', ']']
  | .array _ n _ => '[' :: (Nat.toDigits 10 n ++ [']'])

theorem msgRef_text (ty : InterfaceRef Node) :
    (ty.msgRef schema).toList = ((element ty).msgRef schema).toList ++ msgSuffix ty := by
  cases ty <;> simp [InterfaceRef.msgRef, msgSuffix, CycloneddsRs.DefinitionText.element]

theorem primitive_msg (kind : Primitive) :
    kind.msgRef.toList ≠ [] ∧ (∀ c ∈ kind.msgRef.toList, wordChar c = true) := by
  have opens : ∀ kind : Primitive, kind.msgRef.toList ≠ [] ∧ kind.msgRef.toList.all wordChar := by
    intro kind
    cases kind <;> decide
  exact ⟨(opens kind).1, List.all_eq_true.mp (opens kind).2⟩

theorem msgRef_iff (left right : Node) :
    InterfaceElem.msgRef schema (.struct left) = InterfaceElem.msgRef schema (.struct right) ↔
      typeKey schema left = typeKey schema right := by
  constructor
  · intro same
    have texts := congrArg String.toList same
    simp only [InterfaceElem.msgRef, String.toList_append, List.append_assoc] at texts
    obtain ⟨packages, -, names⟩ := word_unique wordChar _ _ '/' '/' (schema left).name.toList
      (schema right).name.toList (package_word schema left) (package_word schema right) (by decide)
      (by decide) texts
    exact Prod.ext (String.toList_inj.mp packages) (String.toList_inj.mp names)
  · intro same
    exact congrArg (fun key : TypeKey => key.1 ++ "/" ++ key.2) same

/-- A line without its break. -/
def msgText (field : FieldItem Node) : List Char :=
  (field.ty.msgRef schema).toList ++ ' ' :: field.name.toList

theorem msgLine_text (field : FieldItem Node) :
    (msgLine schema field).toList = msgText schema field ++ ['\n'] := by
  simp [msgLine, msgText]

theorem msgSuffix_first (ty : InterfaceRef Node) (name : List Char) :
    ∃ first rest, msgSuffix ty ++ ' ' :: name = first :: rest ∧ (first = ' ' ∨ first = '[') := by
  cases ty with
  | elem => exact ⟨' ', name, rfl, .inl rfl⟩
  | vec => exact ⟨'[', _, rfl, .inr rfl⟩
  | array => exact ⟨'[', _, rfl, .inr rfl⟩

/-- The first word of a line is a primitive or, in front of a slash, a package. -/
theorem msgText_cases (field : FieldItem Node) :
    (refTarget field.ty = none ∧ ∃ word first rest,
        msgText schema field = word ++ first :: rest ∧ word ≠ [] ∧
          (∀ c ∈ word, wordChar c = true) ∧ (first = ' ' ∨ first = '[')) ∨
      ∃ node first rest, refTarget field.ty = some node ∧
        msgText schema field = (schema node).package.toList ++
          '/' :: ((schema node).name.toList ++ first :: rest) ∧ (first = ' ' ∨ first = '[') := by
  obtain ⟨first, rest, opens, stops⟩ := msgSuffix_first field.ty field.name.toList
  unfold msgText refTarget
  rw [msgRef_text, List.append_assoc, opens]
  cases element field.ty with
  | primitive kind =>
      obtain ⟨nonempty, word⟩ := primitive_msg kind
      exact .inl ⟨rfl, kind.msgRef.toList, first, rest, rfl, nonempty, word, stops⟩
  | struct node =>
      refine .inr ⟨node, first, rest, rfl, ?_, stops⟩
      simp [InterfaceElem.msgRef]

theorem msgText_unique (left right : FieldItem Node)
    (same : msgText schema left = msgText schema right) :
    (refTarget left.ty).map (typeKey schema) = (refTarget right.ty).map (typeKey schema) := by
  have outside : ∀ first, first = ' ' ∨ first = '[' → wordChar first = false ∧ first ≠ '/' := by
    rintro first (rfl | rfl) <;> decide
  rcases msgText_cases schema left with
    ⟨leftNone, leftWord, leftFirst, leftRest, leftText, -, leftInside, leftStops⟩ |
      ⟨leftNode, leftFirst, leftRest, leftSome, leftText, leftStops⟩ <;>
    rcases msgText_cases schema right with
      ⟨rightNone, rightWord, rightFirst, rightRest, rightText, -, rightInside, rightStops⟩ |
        ⟨rightNode, rightFirst, rightRest, rightSome, rightText, rightStops⟩
  · rw [leftNone, rightNone]
  · rw [leftText, rightText] at same
    obtain ⟨-, firsts, -⟩ := word_unique wordChar _ _ _ _ _ _ leftInside
      (package_word schema rightNode) (outside _ leftStops).1 (by decide) same
    exact absurd firsts (outside _ leftStops).2
  · rw [leftText, rightText] at same
    obtain ⟨-, firsts, -⟩ := word_unique wordChar _ _ _ _ _ _ (package_word schema leftNode)
      rightInside (by decide) (outside _ rightStops).1 same
    exact absurd firsts.symm (outside _ rightStops).2
  · rw [leftText, rightText] at same
    obtain ⟨packages, -, rests⟩ := word_unique wordChar _ _ _ _ _ _ (package_word schema leftNode)
      (package_word schema rightNode) (by decide) (by decide) same
    obtain ⟨names, -, -⟩ := word_unique wordChar _ _ _ _ _ _ (name_word schema leftNode)
      (name_word schema rightNode) (outside _ leftStops).1 (outside _ rightStops).1 rests
    rw [leftSome, rightSome]
    exact congrArg some (Prod.ext (String.toList_inj.mp packages) (String.toList_inj.mp names))

theorem msgText_head (field : FieldItem Node) :
    ∃ first rest, msgText schema field = first :: rest ∧ wordChar first = true := by
  rcases msgText_cases schema field with
    ⟨-, word, first, rest, text, nonempty, inside, -⟩ | ⟨node, first, rest, -, text, -⟩
  · cases word with
    | nil => exact absurd rfl nonempty
    | cons symbol word =>
        exact ⟨symbol, word ++ first :: rest, text, inside symbol List.mem_cons_self⟩
  · obtain ⟨symbol, package, opens, -, inside⟩ :=
      validateLowerSnakeCase_word (schema node).package (schema node).packageAccepted
    rw [opens] at text inside
    exact ⟨symbol, _, text, inside symbol List.mem_cons_self⟩

theorem msgText_line (field : FieldItem Node) : '\n' ∉ msgText schema field := by
  have nameLine : '\n' ∉ field.name.toList := word_stops _ '\n' (field_word field) (by decide)
  have suffixLine : '\n' ∉ msgSuffix field.ty := by
    cases field.ty with
    | elem => simp [msgSuffix]
    | vec => simp [msgSuffix]
    | array element n positive => simp [msgSuffix, digits_line n]
  have elementLine : '\n' ∉ ((element field.ty).msgRef schema).toList := by
    cases element field.ty with
    | primitive kind => exact word_stops _ '\n' (primitive_msg kind).2 (by decide)
    | struct node =>
        have packageLine := word_stops _ '\n' (package_word schema node) (by decide)
        have typeLine := word_stops _ '\n' (name_word schema node) (by decide)
        simp [InterfaceElem.msgRef, packageLine, typeLine]
  rw [msgText, msgRef_text]
  simp [elementLine, suffixLine, nameLine]

theorem msgBody_unique (left right : List (FieldItem Node))
    (same : String.join (left.map (msgLine schema)) = String.join (right.map (msgLine schema))) :
    (left.filterMap fun field => refTarget field.ty).map (typeKey schema) =
      (right.filterMap fun field => refTarget field.ty).map (typeKey schema) := by
  induction left generalizing right with
  | nil =>
      cases right with
      | nil => rfl
      | cons field right =>
          have texts := congrArg String.toList same
          simp [msgLine_text] at texts
  | cons field left ih =>
      cases right with
      | nil =>
          have texts := congrArg String.toList same
          simp [msgLine_text] at texts
      | cons other right =>
          have texts := congrArg String.toList same
          simp only [List.map_cons, String.join_cons, String.toList_append, msgLine_text,
            List.append_assoc, List.singleton_append] at texts
          obtain ⟨lines, rests⟩ := line_unique '\n' _ _ _ _ (msgText_line schema field)
            (msgText_line schema other) texts
          have target := msgText_unique schema field other lines
          have later := ih right (String.toList_inj.mp rests)
          cases leftTarget : refTarget field.ty <;> cases rightTarget : refTarget other.ty <;>
            simp_all

theorem msgDef_references (left right : Node) (same : msgDef schema left = msgDef schema right) :
    (references schema left).map (typeKey schema) =
      (references schema right).map (typeKey schema) :=
  msgBody_unique schema (schema left).fields (schema right).fields same

/-- The lines of a message, with their breaks. -/
def msgLines (node : Node) : List (List Char) :=
  (schema node).fields.map fun field => msgText schema field ++ ['\n']

theorem msgDef_lines (node : Node) :
    (msgDef schema node).toList = (msgLines schema node).flatten := by
  simp [msgDef, msgLines, String.toList_join, List.flatMap_def, Function.comp_def, msgLine_text]

theorem separator_text : separator.toList = List.replicate 80 '=' := String.toList_ofList

theorem msgLines_whole (node : Node) (text : List Char) (member : text ∈ msgLines schema node) :
    text ≠ separator.toList ++ ['\n'] ∧ ∃ line, text = line ++ ['\n'] ∧ '\n' ∉ line := by
  obtain ⟨field, -, rfl⟩ := List.mem_map.mp member
  refine ⟨?_, msgText schema field, rfl, msgText_line schema field⟩
  intro same
  -- A message line starts with a letter or a digit, a separator with an equals sign.
  obtain ⟨first, rest, opens, word⟩ := msgText_head schema field
  have heads := congrArg List.head? (List.append_cancel_right same)
  rw [opens, separator_text, List.head?_cons, List.head?_replicate, if_neg (by decide)] at heads
  rw [Option.some.inj heads] at word
  exact absurd word (by decide)

end Msg

end CycloneddsRs.DefinitionText
