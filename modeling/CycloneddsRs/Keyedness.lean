import CycloneddsRs.DefinitionText
import CycloneddsRs.KeyHolder
import Mathlib.Algebra.Order.Ring.Int
import Mathlib.Algebra.Order.Ring.Nat

/-!
`has_key` of `derive(Topic)` beside the `@key` members of `derive(DdsInterface)`, for the
structs that derive both. The first asks for the size of a generated struct, the second
looks at attributes, and the two part where a key struct holds nothing.
-/

namespace CycloneddsRs.Keyedness

open Naming InterfaceGen DefinitionText KeyHolder

universe u

/-! Layouts, as on 64-bit targets -/

structure Layout where
  size : Nat
  align : Nat

def roundUp (size align : Nat) : Nat := (size + align - 1) / align * align

/-- Fields are placed by falling alignment, so that padding stands at the end only. -/
def structLayout (fields : List Layout) : Layout :=
  let align := (fields.map Layout.align).foldr max 1
  { size := roundUp (fields.map Layout.size).sum align, align := align }

def primitiveLayout : Primitive → Layout
  | .bool | .u8 | .i8 => { size := 1, align := 1 }
  | .i16 | .u16 => { size := 2, align := 2 }
  | .i32 | .u32 | .f32 => { size := 4, align := 4 }
  | .i64 | .u64 | .f64 => { size := 8, align := 8 }
  | .string => { size := 24, align := 8 }

inductive IntWidth where
  | w8 | w16 | w32 | w64 | w128

def IntWidth.bytes : IntWidth → Nat
  | .w8 => 1
  | .w16 => 2
  | .w32 => 4
  | .w64 => 8
  | .w128 => 16

def IntWidth.fits (width : IntWidth) (least greatest : Int) : Bool :=
  let bits := 8 * width.bytes
  if 0 ≤ least then greatest < 2 ^ bits
  else -(2 ^ (bits - 1)) ≤ least && greatest < 2 ^ (bits - 1)

def discriminantWidth (least greatest : Int) : IntWidth :=
  ([.w8, .w16, .w32, .w64].find? fun width => width.fits least greatest).getD .w128

/-- What a program writes itself for a type that has no derive. -/
structure HandWrittenRef where
  idlField : String → NsMode → String
  unannotated : ∀ name mode, "@key ".toList.isPrefixOf (idlField name mode).toList = false

/-- An enum without fields. `repr` is the integer of its attribute, where it has one. -/
structure EnumItem extends HandWrittenRef where
  discriminants : List Int
  repr : Option IntWidth

/-- One value only takes no space. -/
def EnumItem.size (item : EnumItem) : Nat :=
  match item.repr with
  | some width => width.bytes
  | none =>
      if item.discriminants.length ≤ 1 then 0
      else (discriminantWidth (item.discriminants.min?.getD 0)
        (item.discriminants.max?.getD 0)).bytes

structure OtherItem extends HandWrittenRef where
  layout : Layout

/-! Programs -/

inductive MemberType (Node : Type u) where
  | interface (ty : InterfaceRef Node)
  | enumeration (item : EnumItem)
  | other (item : OtherItem)

/-- The struct that a value holds inside itself. A `Vec` holds its elements elsewhere. -/
def MemberType.holds {Node : Type u} : MemberType Node → Option Node
  | .interface (.elem (.struct node)) => some node
  | .interface (.array (.struct node) _ _) => some node
  | _ => none

/-- What the names in a struct's module stand for. -/
structure Scope (Node : Type u) where
  type : WrittenType → MemberType Node
  holder : TypePath → Option Node

/-- A struct that both derives accept and that compiles: the holder that stands for a key
struct is that of the field's own type. -/
structure TopicItem (Node : Type u) where
  package : String
  name : String
  fields : List SynField
  scope : Scope Node
  holder : HolderStruct
  packageAccepted : validateRosPackageName package = .ok ()
  nameAccepted : validateRosTypeName name = .ok ()
  nonempty : fields ≠ []
  fieldsAccepted : ∀ field ∈ fields, ∃ name, field.ident = some name ∧
    validateMsgFieldName name = .ok ()
  holderBuilt : buildKeyHolderStruct fields = .ok holder
  holderFound : ∀ field ∈ fields, isKey field = true →
    ∀ path, holderType field = .nested path →
      ∃ node, scope.type field.ty = .interface (.elem (.struct node)) ∧
        scope.holder path = some node

/-- `rank` says that no struct holds itself, as the compiler checks. -/
structure Program (Node : Type u) where
  item : Node → TopicItem Node
  rank : Node → Nat
  held_rank : ∀ node, ∀ field ∈ (item node).fields, ∀ inner,
    ((item node).scope.type field.ty).holds = some inner → rank inner < rank node

section Definitions

variable {Node : Type u}

def elemLayout (struct : Node → Layout) : InterfaceElem Node → Layout
  | .primitive kind => primitiveLayout kind
  | .struct node => struct node

def typeLayout (struct : Node → Layout) : MemberType Node → Layout
  | .interface (.elem element) => elemLayout struct element
  | .interface (.vec _) => { size := 24, align := 8 }
  | .interface (.array element n _) =>
      { size := n * (elemLayout struct element).size
        align := (elemLayout struct element).align }
  | .enumeration item => { size := item.size, align := max item.size 1 }
  | .other item => item.layout

def holderTypeLayout (scope : Scope Node) (struct holder : Node → Layout) : HolderType → Layout
  | .own ty => typeLayout struct (scope.type ty)
  | .nested path => ((scope.holder path).map holder).getD { size := 0, align := 1 }

variable (program : Program Node)

def fieldType (node : Node) (field : SynField) : MemberType Node :=
  (program.item node).scope.type field.ty

/-- `size_of` and `align_of` of a struct. -/
def rustLayout : Nat → Node → Layout
  | 0, _ => { size := 0, align := 1 }
  | fuel + 1, node =>
      structLayout ((program.item node).fields.map fun field =>
        typeLayout (rustLayout fuel) (fieldType program node field))

/-- `size_of` and `align_of` of the generated `KeyHolder_`. -/
def holderLayout : Nat → Node → Layout
  | 0, _ => { size := 0, align := 1 }
  | fuel + 1, node =>
      structLayout ((program.item node).holder.fields.map fun field =>
        holderTypeLayout (program.item node).scope (rustLayout program fuel) (holderLayout fuel)
          field.2)

def hasKey (node : Node) : Bool := 0 < (holderLayout program (program.rank node + 1) node).size

def elemRef (mode : NsMode) : InterfaceElem Node → String
  | .primitive kind => kind.idlRef
  | .struct node =>
      mode.idlTypeRef (escapeIdlIdentifier (program.item node).package) (program.item node).name

def memberField (name : String) (mode : NsMode) : MemberType Node → String
  | .interface (.elem element) => elemRef program mode element ++ " " ++ name ++ ";"
  | .interface (.vec element) =>
      "sequence<" ++ elemRef program mode element ++ ">" ++ " " ++ name ++ ";"
  | .interface (.array element n _) =>
      elemRef program mode element ++ " " ++ name ++ "[" ++ toString n ++ "];"
  | .enumeration item => item.idlField name mode
  | .other item => item.idlField name mode

/-- What stands between the braces of the struct, line by line. -/
def idlBody (mode : NsMode) (node : Node) : List String :=
  (program.item node).fields.map fun field =>
    "  " ++ (if isKey field then "@key " else "") ++
      memberField program (field.ident.getD "") mode (fieldType program node field) ++ "\n"

def idlDef (mode : NsMode) (node : Node) : String :=
  mode.idlModuleOpen (escapeIdlIdentifier (program.item node).package) ++
    ("struct " ++ mode.idlTypeName (program.item node).name ++ " \x7b\n") ++
    String.join (idlBody program mode node) ++ "\x7d;\n" ++ mode.idlModuleClose

end Definitions

def isKeyMember (line : String) : Bool := "  @key ".toList.isPrefixOf line.toList

section Agreement

variable {Node : Type u} (program : Program Node)

/-- Types whose values take space. -/
inductive TakesSpace : MemberType Node → Prop
  | primitive (kind : Primitive) : TakesSpace (.interface (.elem (.primitive kind)))
  | struct (node : Node) (field : SynField) (member : field ∈ (program.item node).fields)
      (inside : TakesSpace (fieldType program node field)) :
      TakesSpace (.interface (.elem (.struct node)))
  | vec (element : InterfaceElem Node) : TakesSpace (.interface (.vec element))
  | array (element : InterfaceElem Node) (n : Nat) (positive : 0 < n)
      (inside : TakesSpace (.interface (.elem element))) :
      TakesSpace (.interface (.array element n positive))
  | enumeration (item : EnumItem) (varied : item.repr.isSome ∨ 2 ≤ item.discriminants.length) :
      TakesSpace (.enumeration item)
  | other (item : OtherItem) (sized : 0 < item.layout.size) : TakesSpace (.other item)

/-- Key fields lead, through nested key structs, to a key that takes space itself. -/
inductive ReachesKey : Node → Prop
  | own (node : Node) (field : SynField) (member : field ∈ (program.item node).fields)
      (key : isKey field = true) (ty : WrittenType) (stored : holderType field = .own ty)
      (space : TakesSpace program (fieldType program node field)) : ReachesKey node
  | nested (node : Node) (field : SynField) (member : field ∈ (program.item node).fields)
      (key : isKey field = true) (path : TypePath) (stored : holderType field = .nested path)
      (inner : Node) (target : fieldType program node field = .interface (.elem (.struct inner)))
      (reached : ReachesKey inner) : ReachesKey node

theorem roundUp_pos (size align : Nat) (aligned : 0 < align) :
    0 < roundUp size align ↔ 0 < size := by
  unfold roundUp
  constructor
  · intro rounded
    have whole : 0 < (size + align - 1) / align := Nat.pos_of_mul_pos_right rounded
    have covers : align ≤ size + align - 1 := (Nat.div_pos_iff.mp whole).2
    omega
  · intro sized
    exact Nat.mul_pos (Nat.div_pos (by omega) aligned) aligned

theorem structLayout_pos (fields : List Layout) :
    0 < (structLayout fields).size ↔ ∃ field ∈ fields, 0 < field.size := by
  have aligned : 0 < (fields.map Layout.align).foldr max 1 := by
    induction fields with
    | nil => simp
    | cons field rest ih => exact Nat.lt_of_lt_of_le ih (Nat.le_max_right _ _)
  rw [structLayout, roundUp_pos _ _ aligned, List.sum_pos_iff_exists_pos_nat]
  simp

theorem primitiveLayout_pos (kind : Primitive) : 0 < (primitiveLayout kind).size := by
  cases kind <;> decide

theorem enumSize_pos (item : EnumItem) :
    0 < item.size ↔ item.repr.isSome ∨ 2 ≤ item.discriminants.length := by
  have wide : ∀ width : IntWidth, 0 < width.bytes := by
    intro width
    cases width <;> decide
  unfold EnumItem.size
  cases item.repr with
  | some width => simp [wide width]
  | none =>
      by_cases single : item.discriminants.length ≤ 1
      · have few : ¬ 2 ≤ item.discriminants.length := Nat.not_le.mpr (Nat.lt_succ_of_le single)
        simp only [single, if_true, Option.isSome_none, few]
        simp
      · have several : 2 ≤ item.discriminants.length := Nat.not_le.mp single
        simp only [single, if_false, Option.isSome_none, several, wide]
        simp

theorem elemLayout_pos (struct : Node → Layout) (element : InterfaceElem Node)
    (structs : ∀ inner, (MemberType.interface (.elem element)).holds = some inner →
      (0 < (struct inner).size ↔ TakesSpace program (.interface (.elem (.struct inner))))) :
    0 < (elemLayout struct element).size ↔ TakesSpace program (.interface (.elem element)) := by
  cases element with
  | primitive kind => simp [elemLayout, primitiveLayout_pos, TakesSpace.primitive]
  | struct node => exact structs node rfl

theorem typeLayout_pos (struct : Node → Layout) (ty : MemberType Node)
    (structs : ∀ inner, ty.holds = some inner →
      (0 < (struct inner).size ↔ TakesSpace program (.interface (.elem (.struct inner))))) :
    0 < (typeLayout struct ty).size ↔ TakesSpace program ty := by
  cases ty with
  | enumeration item =>
      rw [typeLayout, enumSize_pos]
      constructor
      · exact TakesSpace.enumeration item
      · rintro ⟨⟩
        assumption
  | other item =>
      rw [typeLayout]
      constructor
      · exact TakesSpace.other item
      · rintro ⟨⟩
        assumption
  | interface ty =>
      cases ty with
      | elem element => exact elemLayout_pos program struct element structs
      | vec element => simp [typeLayout, TakesSpace.vec]
      | array element n positive =>
          have inside : 0 < (elemLayout struct element).size ↔
              TakesSpace program (.interface (.elem element)) := by
            apply elemLayout_pos
            intro inner holds
            apply structs
            cases element with
            | primitive kind => simp [MemberType.holds] at holds
            | struct node => exact holds
          constructor
          · intro sized
            exact .array element n positive (inside.mp (Nat.pos_of_mul_pos_left sized))
          · rintro ⟨⟩
            exact Nat.mul_pos positive (inside.mpr ‹_›)

theorem rustLayout_pos (fuel : Nat) (node : Node) (enough : program.rank node < fuel) :
    0 < (rustLayout program fuel node).size ↔
      TakesSpace program (.interface (.elem (.struct node))) := by
  induction fuel generalizing node with
  | zero => omega
  | succ fuel ih =>
      have inside : ∀ field ∈ (program.item node).fields,
          (0 < (typeLayout (rustLayout program fuel) (fieldType program node field)).size ↔
            TakesSpace program (fieldType program node field)) := by
        intro field member
        apply typeLayout_pos
        intro inner holds
        have lower := program.held_rank node field member inner holds
        exact ih inner (by omega)
      rw [rustLayout, structLayout_pos]
      constructor
      · rintro ⟨layout, listed, sized⟩
        obtain ⟨field, member, rfl⟩ := List.mem_map.mp listed
        exact .struct node field member ((inside field member).mp sized)
      · rintro ⟨⟩
        rename_i field member space
        exact ⟨_, List.mem_map_of_mem member, (inside field member).mpr space⟩

theorem held_below (fuel : Nat) (node : Node) (enough : program.rank node < fuel + 1)
    (field : SynField) (member : field ∈ (program.item node).fields) (inner : Node)
    (holds : (fieldType program node field).holds = some inner) : program.rank inner < fuel := by
  have lower := program.held_rank node field member inner holds
  omega

theorem fieldLayout_pos (fuel : Nat) (node : Node) (enough : program.rank node < fuel + 1)
    (field : SynField) (member : field ∈ (program.item node).fields) :
    0 < (typeLayout (rustLayout program fuel) (fieldType program node field)).size ↔
      TakesSpace program (fieldType program node field) := by
  apply typeLayout_pos
  intro inner holds
  exact rustLayout_pos program fuel inner (held_below program fuel node enough field member inner
    holds)

theorem holderType_own (field : SynField) (ty : WrittenType)
    (stored : holderType field = .own ty) : ty = field.ty := by
  unfold holderType at stored
  split at stored
  · cases stored
    rfl
  · split at stored <;> cases stored
    rfl

theorem nested_target (node : Node) (field : SynField)
    (member : field ∈ (program.item node).fields) (key : isKey field = true) (path : TypePath)
    (stored : holderType field = .nested path) :
    ∃ inner, fieldType program node field = .interface (.elem (.struct inner)) ∧
      (fieldType program node field).holds = some inner ∧
      (program.item node).scope.holder path = some inner := by
  obtain ⟨inner, target, found⟩ := (program.item node).holderFound field member key path stored
  exact ⟨inner, target, by simp [fieldType, target, MemberType.holds], found⟩

/-- One field of the generated struct, given its nested holders. -/
theorem storedLayout_pos (fuel : Nat) (node : Node) (enough : program.rank node < fuel + 1)
    (field : SynField) (member : field ∈ (program.item node).fields) (key : isKey field = true)
    (nested : ∀ inner, program.rank inner < fuel →
      (0 < (holderLayout program fuel inner).size ↔ ReachesKey program inner)) :
    0 < (holderTypeLayout (program.item node).scope (rustLayout program fuel)
        (holderLayout program fuel) (holderType field)).size ↔
      (∃ ty, holderType field = .own ty ∧
          TakesSpace program (fieldType program node field)) ∨
        ∃ path inner, holderType field = .nested path ∧
          fieldType program node field = .interface (.elem (.struct inner)) ∧
            ReachesKey program inner := by
  cases stored : holderType field with
  | own ty =>
      have same := holderType_own field ty stored
      subst same
      have owned := fieldLayout_pos program fuel node enough field member
      simpa [holderTypeLayout, fieldType] using owned
  | nested path =>
      obtain ⟨inner, target, holds, found⟩ := nested_target program node field member key path stored
      have below := held_below program fuel node enough field member inner holds
      simpa [holderTypeLayout, found, target] using nested inner below

theorem reachesKey_iff (node : Node) :
    ReachesKey program node ↔ ∃ field ∈ (program.item node).fields, isKey field = true ∧
      ((∃ ty, holderType field = .own ty ∧ TakesSpace program (fieldType program node field)) ∨
        ∃ path inner, holderType field = .nested path ∧
          fieldType program node field = .interface (.elem (.struct inner)) ∧
            ReachesKey program inner) := by
  constructor
  · intro reached
    cases reached with
    | own _ field member key ty stored space =>
        exact ⟨field, member, key, .inl ⟨ty, stored, space⟩⟩
    | nested _ field member key path stored inner target reached =>
        exact ⟨field, member, key, .inr ⟨path, inner, stored, target, reached⟩⟩
  · rintro ⟨field, member, key, ⟨ty, stored, space⟩ | ⟨path, inner, stored, target, reached⟩⟩
    · exact .own node field member key ty stored space
    · exact .nested node field member key path stored inner target reached

theorem holderLayout_pos (fuel : Nat) (node : Node) (enough : program.rank node < fuel) :
    0 < (holderLayout program fuel node).size ↔ ReachesKey program node := by
  induction fuel generalizing node with
  | zero => omega
  | succ fuel ih =>
      have stored := fun field member key =>
        storedLayout_pos program fuel node enough field member key ih
      rw [holderLayout, structLayout_pos, reachesKey_iff,
        buildKeyHolderStruct_fields _ _ (program.item node).holderBuilt]
      constructor
      · rintro ⟨layout, listed, sized⟩
        simp only [List.map_map, List.mem_map, List.mem_filter] at listed
        obtain ⟨field, ⟨member, key⟩, rfl⟩ := listed
        exact ⟨field, member, key, (stored field member key).mp sized⟩
      · rintro ⟨field, member, key, leads⟩
        have listed := List.mem_map_of_mem (f := holderField)
          (List.mem_filter.mpr ⟨member, key⟩)
        exact ⟨_, List.mem_map_of_mem listed, (stored field member key).mpr leads⟩

/-- A type has a key as far as `Topic` is concerned just where one can be reached. -/
theorem hasKey_reaches (node : Node) : hasKey program node = true ↔ ReachesKey program node := by
  rw [hasKey, decide_eq_true_iff]
  exact holderLayout_pos program _ node (Nat.lt_succ_self _)

/-! Members -/

theorem elemRef_first (mode : NsMode) (element : InterfaceElem Node) :
    ∃ first rest, (elemRef program mode element).toList = first :: rest ∧ first ≠ '@' := by
  cases element with
  | primitive kind =>
      have opens : kind.idlRef.toList ≠ [] ∧ kind.idlRef.toList.head? ≠ some '@' := by
        cases kind <;> decide
      obtain ⟨first, rest, text⟩ := List.exists_cons_of_ne_nil opens.1
      refine ⟨first, rest, text, ?_⟩
      rintro rfl
      simp [text] at opens
  | struct node =>
      obtain ⟨nonempty, word⟩ :=
        escapeIdlIdentifier_word (program.item node).package (program.item node).packageAccepted
      obtain ⟨first, rest, text⟩ := List.exists_cons_of_ne_nil nonempty
      refine ⟨first, rest ++ ':' :: (pathText mode ++
        ((program.item node).name.toList ++ mode.typeSuffix.toList)), ?_, ?_⟩
      · rw [elemRef, idlTypeRef_text, text, List.cons_append]
      · rintro rfl
        have letter := word '@' (by simp [text])
        revert letter
        decide

/-- The annotation stands in no member's text, so it can only come from the attribute. -/
theorem memberField_unannotated (name : String) (mode : NsMode) (ty : MemberType Node) :
    "@key ".toList.isPrefixOf (memberField program name mode ty).toList = false := by
  cases ty with
  | enumeration item => exact item.unannotated name mode
  | other item => exact item.unannotated name mode
  | interface ty =>
      cases ty with
      | elem element =>
          obtain ⟨first, rest, text, plain⟩ := elemRef_first program mode element
          simp [memberField, text, List.isPrefixOf, plain.symm]
      | vec element => simp [memberField, List.isPrefixOf]
      | array element n positive =>
          obtain ⟨first, rest, text, plain⟩ := elemRef_first program mode element
          simp [memberField, text, List.isPrefixOf, plain.symm]

/-- The body has an `@key` member just where a field of the struct itself has the attribute. -/
theorem keyMember_iff (mode : NsMode) (node : Node) :
    (idlBody program mode node).any isKeyMember = true ↔
      ∃ field ∈ (program.item node).fields, isKey field = true := by
  rw [idlBody, List.any_map, List.any_eq_true]
  refine exists_congr fun field => and_congr_right fun _ => ?_
  cases key : isKey field with
  | true => simp [isKeyMember, key, List.isPrefixOf]
  | false =>
      have plain := memberField_unannotated program (field.ident.getD "") mode
        (fieldType program node field)
      -- The break that ends the line is no part of an annotation.
      have ends : ∀ text : List Char, ['@', 'k', 'e', 'y', ' '] ≠ text ++ ['\n'] := by
        intro text same
        have lasts := congrArg List.getLast? same
        simp at lasts
      simp only [Bool.eq_false_iff, Ne, List.isPrefixOf_iff_prefix] at plain
      simpa [isKeyMember, key, List.prefix_concat_iff, ends] using plain

theorem reachesKey_declared (node : Node) (reached : ReachesKey program node) :
    ∃ field ∈ (program.item node).fields, isKey field = true := by
  obtain ⟨field, member, key, -⟩ := (reachesKey_iff program node).mp reached
  exact ⟨field, member, key⟩

/-- A reader of the IDL is never told too little: only the annotation can be in excess. -/
theorem hasKey_annotated (mode : NsMode) (node : Node) (keyed : hasKey program node = true) :
    (idlBody program mode node).any isKeyMember = true :=
  (keyMember_iff program mode node).mpr
    (reachesKey_declared program node ((hasKey_reaches program node).mp keyed))

/-- The two derives agree on a struct without key fields and on one whose key fields lead to a
key that takes space. On all others there are `@key` members, and `has_key` is false. -/
theorem keyedness_agrees_iff (mode : NsMode) (node : Node) :
    (hasKey program node = true ↔ (idlBody program mode node).any isKeyMember = true) ↔
      (∀ field ∈ (program.item node).fields, isKey field = false) ∨ ReachesKey program node := by
  constructor
  · intro agree
    by_cases declared : ∃ field ∈ (program.item node).fields, isKey field = true
    · right
      have annotated := (keyMember_iff program mode node).mpr declared
      exact (hasKey_reaches program node).mp (agree.mpr annotated)
    · left
      intro field member
      exact Bool.eq_false_iff.mpr fun key => declared ⟨field, member, key⟩
  · rintro (unkeyed | reached)
    · constructor
      · exact hasKey_annotated program mode node
      · intro annotated
        obtain ⟨field, member, key⟩ := (keyMember_iff program mode node).mp annotated
        simp [unkeyed field member] at key
    · have keyed := (hasKey_reaches program node).mpr reached
      exact ⟨fun _ => hasKey_annotated program mode node keyed, fun _ => keyed⟩

/-- Where every type is a primitive, a struct or a container of these, the text is the one that
the definition registries collect. -/
theorem idlDef_schema (schema : Schema Node) (mode : NsMode) (node : Node)
    (keys : ∀ other, typeKey schema other =
      ((program.item other).package, (program.item other).name))
    (fields : (program.item node).fields.map (fun field =>
        (field.ident.getD "", isKey field, fieldType program node field)) =
      (schema node).fields.map fun field => (field.name, field.isKey, .interface field.ty)) :
    idlDef program mode node = InterfaceGen.idlDef schema mode node := by
  have packages : ∀ other, (schema other).package = (program.item other).package :=
    fun other => congrArg Prod.fst (keys other)
  have names : ∀ other, (schema other).name = (program.item other).name :=
    fun other => congrArg Prod.snd (keys other)
  have refs : ∀ element : InterfaceElem Node,
      elemRef program mode element = element.idlRef schema mode := by
    intro element
    cases element with
    | primitive kind => rfl
    | struct other => simp only [elemRef, InterfaceElem.idlRef, packages, names]
  have texts : ∀ field : FieldItem Node,
      memberField program field.name mode (.interface field.ty) =
        field.ty.idlField schema field.name mode := by
    intro field
    cases field.ty <;> simp [memberField, InterfaceRef.idlField, InterfaceRef.idlRef, refs]
  have lines : idlBody program mode node = (schema node).fields.map (idlLine schema mode) := by
    have body := congrArg (List.map fun field : String × Bool × MemberType Node =>
      "  " ++ (if field.2.1 then "@key " else "") ++ memberField program field.1 mode field.2.2 ++
        "\n") fields
    simp only [List.map_map, Function.comp_def, texts] at body
    exact body
  simp only [idlDef, InterfaceGen.idlDef, packages, names, lines]

end Agreement

/-! A key struct without keys -/

inductive Fixture where
  | keyedOuter | plainInner

def fixtureScope : Scope Fixture :=
  { type := fun ty =>
      if ty = .path (.ident "PlainInner") then .interface (.elem (.struct .plainInner))
      else .interface (.elem (.primitive .f64))
    holder := fun path =>
      if path = .ident "PlainInnerKeyHolder_" then some .plainInner else none }

def innerField : SynField :=
  { ident := some "inner", attrs := ["topic_key"], ty := .path (.ident "PlainInner") }

def payloadField : SynField :=
  { ident := some "payload", attrs := [], ty := .path (.ident "f64") }

def keyedOuter : TopicItem Fixture :=
  { package := "test_msgs"
    name := "KeyedOuter"
    fields := [innerField, payloadField]
    scope := fixtureScope
    holder :=
      { fields := [("inner", .nested (.ident "PlainInnerKeyHolder_"))]
        containedTypes := [.ident "PlainInnerKeyHolder_"]
        variableLength := false }
    packageAccepted := by decide
    nameAccepted := by decide
    nonempty := by simp
    fieldsAccepted := by
      simp only [List.forall_mem_cons, List.not_mem_nil, false_imp_iff, implies_true, and_true]
      exact ⟨⟨"inner", rfl, by decide⟩, ⟨"payload", rfl, by decide⟩⟩
    holderBuilt := by rfl
    holderFound := by
      intro field member key path stored
      simp only [List.mem_cons, List.not_mem_nil, or_false] at member
      rcases member with rfl | rfl
      · cases stored
        exact ⟨.plainInner, rfl, rfl⟩
      · cases key }

def plainInner : TopicItem Fixture :=
  { package := "test_msgs"
    name := "PlainInner"
    fields := [payloadField]
    scope := fixtureScope
    holder := { fields := [], containedTypes := [], variableLength := false }
    packageAccepted := by decide
    nameAccepted := by decide
    nonempty := by simp
    fieldsAccepted := by
      simp only [List.forall_mem_cons, List.not_mem_nil, false_imp_iff, implies_true, and_true]
      exact ⟨"payload", rfl, by decide⟩
    holderBuilt := by rfl
    holderFound := by
      intro field member key
      simp only [List.mem_cons, List.not_mem_nil, or_false] at member
      subst member
      cases key }

def fixture : Program Fixture :=
  { item := fun
      | .keyedOuter => keyedOuter
      | .plainInner => plainInner
    rank := fun
      | .keyedOuter => 1
      | .plainInner => 0
    held_rank := by
      intro node field member inner holds
      cases node with
      | keyedOuter =>
          simp only [keyedOuter, List.mem_cons, List.not_mem_nil, or_false] at member
          rcases member with rfl | rfl
          · cases holds
            decide
          · cases holds
      | plainInner =>
          simp only [plainInner, List.mem_cons, List.not_mem_nil, or_false] at member
          subst member
          cases holds }

theorem unkeyed_inner_disagrees :
    ¬ (hasKey fixture .keyedOuter = true ↔
      (idlBody fixture .raw .keyedOuter).any isKeyMember = true) := by
  have unkeyed : hasKey fixture .keyedOuter = false := by decide
  have annotated := (keyMember_iff fixture .raw .keyedOuter).mpr ⟨innerField, by
    simp [fixture, keyedOuter], by decide⟩
  simp [unkeyed, annotated]

end CycloneddsRs.Keyedness
