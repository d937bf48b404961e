import CycloneddsRs.BigEndianCdr
import CycloneddsRs.KeyHolder
import CycloneddsRs.Serdes

/-!
`key_cdr`: a value of a keyed struct goes into its key holder, and the holder through the
cdr crate. Against it stands the list of the value's key leaves, in declaration order with
a nested struct in the place of its field.
-/

namespace CycloneddsRs.KeyEncoding
open KeyHolder BigEndianCdr Serdes

/-! What the program means by its key fields -/

inductive Word where
  | i8 | i16 | i32 | i64 | u8 | u16 | u32 | u64 | f32 | f64
  deriving DecidableEq

def Word.name : Word → String
  | .i8 => "i8"
  | .i16 => "i16"
  | .i32 => "i32"
  | .i64 => "i64"
  | .u8 => "u8"
  | .u16 => "u16"
  | .u32 => "u32"
  | .u64 => "u64"
  | .f32 => "f32"
  | .f64 => "f64"

def Word.size : Word → Nat
  | .i8 | .u8 => 1
  | .i16 | .u16 => 2
  | .i32 | .u32 | .f32 => 4
  | .i64 | .u64 | .f64 => 8

/-- An enumeration is given by the index of its last variant. -/
inductive LeafType where
  | bool
  | word (kind : Word)
  | text
  | variant (last : UInt32)
  deriving DecidableEq

/-- Integers and floats by their bits, a `String` by its bytes. -/
def LeafType.Val : LeafType → Type
  | .bool => Bool
  | .word kind => BitVec (8 * kind.size)
  | .text => List UInt8
  | .variant last => Fin (last.toNat + 1)

inductive KeyType where
  | single (leaf : LeafType)
  | array (leaf : LeafType) (len : Nat)

def KeyType.leafType : KeyType → LeafType
  | .single leaf => leaf
  | .array leaf _ => leaf

def KeyType.Val : KeyType → Type
  | .single leaf => leaf.Val
  | .array leaf len => { elements : List leaf.Val // elements.length = len }

/-- A primitive or `String` as it is written. -/
def Names (typePath : TypePath) : LeafType → Prop
  | .bool => typePath.isIdent "bool" = true
  | .word kind => typePath.isIdent kind.name = true
  | .text => typePath.isStdPath "string" "String" = true
  | .variant _ => False

/-- How a key field of such a type is written. Only enumerations have names of their own. -/
def Writes (field : SynField) : KeyType → Prop
  | .single (.variant _) =>
      (isPrimitive field || isKeyEnum field) = true ∧ ∃ typePath, field.ty = .path typePath
  | .single leaf => ∃ typePath, field.ty = .path typePath ∧ Names typePath leaf
  | .array leaf _ => ∃ typePath len, field.ty = .array (.path typePath) len ∧ Names typePath leaf

structure AcceptedKey (field : SynField) : Prop where
  key : isKey field = true
  valid : validateKeyFieldType field = .ok ()

/-- The fields of a struct that `derive(Topic)` accepts, and what their types mean. -/
inductive TopicFields where
  | nil
  | unkeyed (field : SynField) (notKey : isKey field = false) (rest : TopicFields)
  | own (field : SynField) (ty : KeyType) (accepted : AcceptedKey field)
      (writes : Writes field ty) (rest : TopicFields)
  | nested (field : SynField) (inner : TopicFields) (accepted : AcceptedKey field)
      (typePath : TypePath) (written : field.ty = .path typePath) (rest : TopicFields)

namespace TopicFields

/-- The fields as the macro gets them. -/
def written : TopicFields → List SynField
  | .nil => []
  | .unkeyed field _ rest => field :: rest.written
  | .own field _ _ _ rest => field :: rest.written
  | .nested field _ _ _ _ rest => field :: rest.written

theorem built (fields : TopicFields) :
    ∃ holder, buildKeyHolderStruct fields.written = .ok holder := by
  rw [buildKeyHolderStruct_iff]
  induction fields with
  | nil => simp [written]
  | unkeyed field notKey rest ih => simpa [written, notKey] using ih
  | own field ty accepted writes rest ih => simpa [written, accepted.valid] using ih
  | nested field inner accepted typePath isPath rest _ ih =>
      simpa [written, accepted.valid] using ih

/-- `Other` has the values of the fields that are no keys. -/
def Val (Other : SynField → Type) : TopicFields → Type
  | .nil => Unit
  | .unkeyed field _ rest => Other field × rest.Val Other
  | .own _ ty _ _ rest => ty.Val × rest.Val Other
  | .nested _ inner _ _ _ rest => inner.Val Other × rest.Val Other

end TopicFields

/-! The generated code -/

def LeafType.item : (leaf : LeafType) → leaf.Val → Item
  | .bool, value => .scalar 1 value.toNat
  | .word kind, bits => .scalar kind.size bits.toNat
  | .text, bytes => .text bytes
  | .variant _, index => .scalar 4 index.val

def LeafType.shape : LeafType → Shape
  | .bool => .scalar 1
  | .word kind => .scalar kind.size
  | .text => .text
  | .variant _ => .scalar 4

@[simp] theorem LeafType.item_shape (leaf : LeafType) (value : leaf.Val) :
    (leaf.item value).shape = leaf.shape := by
  cases leaf <;> rfl

/-- The cdr crate as `key_cdr` calls it. It refuses some strings, among them those whose
length with the final zero does not fit a `u32`. -/
structure CdrBe (Other : SynField → Type) where
  acceptsText : List UInt8 → Bool
  fits : ∀ bytes, acceptsText bytes = true → bytes.length + 1 < 256 ^ 4
  serializeOther : (field : SynField) → Other field → List UInt8 → Option (List UInt8)

section KeyCdr

variable {Other : SynField → Type} (cdr : CdrBe Other)

def CdrBe.accepts : Item → Bool
  | .scalar _ _ => true
  | .text bytes => cdr.acceptsText bytes

def LeafType.serialize (leaf : LeafType) (value : leaf.Val) (out : List UInt8) :
    Option (List UInt8) :=
  write cdr.accepts out (leaf.item value)

def KeyType.serialize : (ty : KeyType) → ty.Val → List UInt8 → Option (List UInt8)
  | .single leaf, value, out => leaf.serialize cdr value out
  | .array leaf _, elements, out =>
      elements.val.foldlM (fun out value => leaf.serialize cdr value out) out

/-- A nested struct is stored whole or as its own key holder. -/
def Stored (stored : HolderType) (Whole Nested : Type) : Type :=
  match stored with
  | .own _ => Whole
  | .nested _ => Nested

def store {Whole Nested : Type} (stored : HolderType) (into : Whole → Nested) (value : Whole) :
    Stored stored Whole Nested :=
  match stored with
  | .own _ => value
  | .nested _ => into value

def serializeStored {Whole Nested : Type} (stored : HolderType)
    (whole : Whole → List UInt8 → Option (List UInt8))
    (nested : Nested → List UInt8 → Option (List UInt8)) (value : Stored stored Whole Nested)
    (out : List UInt8) : Option (List UInt8) :=
  match stored, value with
  | .own _, value => whole value out
  | .nested _, value => nested value out

theorem serializeStored_nested {Whole Nested : Type} (stored : HolderType) (holder : TypePath)
    (isNested : stored = .nested holder) (whole : Whole → List UInt8 → Option (List UInt8))
    (nested : Nested → List UInt8 → Option (List UInt8)) (into : Whole → Nested) (value : Whole)
    (out : List UInt8) :
    serializeStored stored whole nested (store stored into value) out = nested (into value) out := by
  cases isNested
  rfl

namespace TopicFields

/-- The fields of the generated key holder. -/
def Holder (Other : SynField → Type) : TopicFields → Type
  | .nil => Unit
  | .unkeyed _ _ rest => rest.Holder Other
  | .own _ ty _ _ rest => ty.Val × rest.Holder Other
  | .nested field inner _ _ _ rest =>
      Stored (holderType field) (inner.Val Other) (inner.Holder Other) × rest.Holder Other

/-- The generated `From<&T>`. -/
def into : (fields : TopicFields) → fields.Val Other → fields.Holder Other
  | .nil, _ => ()
  | .unkeyed _ _ rest, value => rest.into value.2
  | .own _ _ _ _ rest, value => (value.1, rest.into value.2)
  | .nested field inner _ _ _ rest, value =>
      (store (holderType field) inner.into value.1, rest.into value.2)

/-- The `Serialize` of the struct itself, with the fields that are no keys. -/
def serializeWhole : (fields : TopicFields) → fields.Val Other → List UInt8 → Option (List UInt8)
  | .nil, _, out => some out
  | .unkeyed field _ rest, value, out =>
      (cdr.serializeOther field value.1 out).bind (rest.serializeWhole value.2)
  | .own _ ty _ _ rest, value, out =>
      (ty.serialize cdr value.1 out).bind (rest.serializeWhole value.2)
  | .nested _ inner _ _ _ rest, value, out =>
      (inner.serializeWhole value.1 out).bind (rest.serializeWhole value.2)

/-- The `Serialize` of the key holder. -/
def serializeHolder :
    (fields : TopicFields) → fields.Holder Other → List UInt8 → Option (List UInt8)
  | .nil, _, out => some out
  | .unkeyed _ _ rest, holder, out => rest.serializeHolder holder out
  | .own _ ty _ _ rest, holder, out =>
      (ty.serialize cdr holder.1 out).bind (rest.serializeHolder holder.2)
  | .nested field inner _ _ _ rest, holder, out =>
      (serializeStored (holderType field) (inner.serializeWhole cdr) inner.serializeHolder
        holder.1 out).bind (rest.serializeHolder holder.2)

def header : List UInt8 := [0, 0, 0, 0]

def keyCdr (fields : TopicFields) (value : fields.Val Other) : Panics (List UInt8) :=
  match fields.serializeHolder cdr (fields.into value) [] with
  | some encoded => .ok (header ++ encoded)
  | none => .error "Unable to serialize key"

/-- The declaration of `Holder`. -/
def holderFields : TopicFields → List (String × HolderType)
  | .nil => []
  | .unkeyed _ _ rest => rest.holderFields
  | .own field _ _ _ rest => (field.ident.getD "", .own field.ty) :: rest.holderFields
  | .nested field _ _ _ _ rest => (field.ident.getD "", holderType field) :: rest.holderFields

end TopicFields

end KeyCdr

theorem named_isPrimitive (typePath : TypePath) (leaf : LeafType) (named : Names typePath leaf) :
    typePath.isPrimitiveTypePath = true := by
  cases leaf with
  | bool => simp [TypePath.isPrimitiveTypePath, show typePath.isIdent "bool" = true from named]
  | word kind =>
      have isWord : typePath.isIdent kind.name = true := named
      cases kind <;> simp only [Word.name] at isWord <;>
        simp [TypePath.isPrimitiveTypePath, isWord]
  | text =>
      simp [TypePath.isPrimitiveTypePath,
        show typePath.isStdPath "string" "String" = true from named]
  | variant last => cases named

/-- A single leaf is an enumeration, stored like a primitive, or goes by its name. -/
theorem writes_single (field : SynField) (leaf : LeafType) (writes : Writes field (.single leaf)) :
    ((∃ last, leaf = .variant last) ∧ (isPrimitive field || isKeyEnum field) = true) ∨
      ∃ typePath, field.ty = .path typePath ∧ Names typePath leaf := by
  cases leaf with
  | variant last => exact .inl ⟨⟨last, rfl⟩, writes.1⟩
  | bool => exact .inr writes
  | word kind => exact .inr writes
  | text => exact .inr writes

/-- A key field with a type of its own keeps it in the holder. -/
theorem own_holderType (field : SynField) (ty : KeyType) (writes : Writes field ty) :
    holderType field = .own field.ty := by
  cases ty with
  | single leaf =>
      rcases writes_single field leaf writes with ⟨-, single⟩ | ⟨typePath, isPath, named⟩
      · exact if_pos single
      · have primitive := named_isPrimitive typePath leaf named
        simp [holderType, isPrimitive, isPath, primitive]
  | array leaf len =>
      obtain ⟨typePath, tokens, isArray, -⟩ := writes
      simp [holderType, isArray]

/-- `Holder` is the struct that the macro generates. -/
theorem holderFields_generated (fields : TopicFields) (holder : HolderStruct)
    (built : buildKeyHolderStruct fields.written = .ok holder) :
    fields.holderFields = holder.fields := by
  rw [buildKeyHolderStruct_fields holder fields.written built]
  clear built
  induction fields with
  | nil => rfl
  | unkeyed field notKey rest ih =>
      simpa [TopicFields.written, TopicFields.holderFields, notKey] using ih
  | own field ty accepted writes rest ih =>
      simp [TopicFields.written, TopicFields.holderFields, accepted.key, ih, holderField,
        own_holderType field ty writes]
  | nested field inner accepted typePath isPath rest _ ih =>
      simp [TopicFields.written, TopicFields.holderFields, accepted.key, ih, holderField]

/-! The key leaves of a value -/

structure Leaf where
  leafType : LeafType
  value : leafType.Val

def Leaf.item (leaf : Leaf) : Item := leaf.leafType.item leaf.value

def KeyType.leaves : (ty : KeyType) → ty.Val → List Leaf
  | .single leaf, value => [⟨leaf, value⟩]
  | .array leaf _, elements => elements.val.map (Leaf.mk leaf)

section Leaves

variable {Other : SynField → Type}

/-- Depth-first, in the order of the declarations. -/
def TopicFields.keyLeaves : (fields : TopicFields) → fields.Val Other → List Leaf
  | .nil, _ => []
  | .unkeyed _ _ rest, value => rest.keyLeaves value.2
  | .own _ ty _ _ rest, value => ty.leaves value.1 ++ rest.keyLeaves value.2
  | .nested _ inner _ _ _ rest, value => inner.keyLeaves value.1 ++ rest.keyLeaves value.2

/-- No nested struct, at any depth, is written like a primitive or marked as an
enumeration. -/
def TopicFields.NestedRecognized : TopicFields → Prop
  | .nil => True
  | .unkeyed _ _ rest => rest.NestedRecognized
  | .own _ _ _ _ rest => rest.NestedRecognized
  | .nested field inner _ _ _ rest =>
      (isPrimitive field || isKeyEnum field) = false ∧ inner.NestedRecognized ∧
        rest.NestedRecognized

variable (cdr : CdrBe Other)

/-- Exactly the key leaves are encoded, and the bytes tell them apart. A string that cdr
refuses is a panic. -/
def KeysExact (fields : TopicFields) : Prop :=
  (∀ value : fields.Val Other, fields.keyCdr cdr value =
    if ((fields.keyLeaves value).map Leaf.item).all cdr.accepts then
      .ok (TopicFields.header ++ encodeFrom 0 ((fields.keyLeaves value).map Leaf.item))
    else .error "Unable to serialize key") ∧
  ∀ (first second : fields.Val Other) (bytes : List UInt8),
    fields.keyCdr cdr first = .ok bytes →
      (fields.keyCdr cdr second = .ok bytes ↔ fields.keyLeaves first = fields.keyLeaves second)

theorem LeafType.item_fits (leaf : LeafType) (value : leaf.Val)
    (accepted : cdr.accepts (leaf.item value) = true) : (leaf.item value).Fits := by
  cases leaf with
  | bool => exact Nat.lt_of_lt_of_le (Bool.toNat_lt value) (by decide)
  | word kind =>
      have bound := BitVec.isLt (show BitVec (8 * kind.size) from value)
      rw [Nat.pow_mul] at bound
      exact bound
  | text => exact cdr.fits value accepted
  | variant last =>
      have bound := Fin.isLt (show Fin (last.toNat + 1) from value)
      exact Nat.lt_of_lt_of_le bound last.toNat_lt

theorem LeafType.item_injective (leaf : LeafType) (first second : leaf.Val)
    (same : leaf.item first = leaf.item second) : first = second := by
  cases leaf with
  | bool =>
      have number : Bool.toNat first = Bool.toNat second := (Item.scalar.inj same).2
      cases first <;> cases second <;> first | rfl | cases number
  | word kind => exact BitVec.eq_of_toNat_eq (Item.scalar.inj same).2
  | text => exact Item.text.inj same
  | variant last => exact Fin.ext (Item.scalar.inj same).2

/-- Leaves of the same types are the same when their items are. -/
theorem leaves_eq_iff (left right : List Leaf)
    (types : left.map Leaf.leafType = right.map Leaf.leafType) :
    left.map Leaf.item = right.map Leaf.item ↔ left = right := by
  induction left generalizing right with
  | nil =>
      cases right with
      | nil => simp
      | cons leaf right => cases types
  | cons leaf left ih =>
      cases right with
      | nil => cases types
      | cons other right =>
          obtain ⟨leafType, tailTypes⟩ := List.cons.inj types
          obtain ⟨kind, first⟩ := leaf
          obtain ⟨otherKind, second⟩ := other
          cases leafType
          simp only [List.map_cons, List.cons.injEq, ih right tailTypes]
          refine and_congr_left fun _ => ⟨fun same => ?_, fun same => by rw [same]⟩
          rw [LeafType.item_injective kind first second same]

theorem leaves_shapes (leaves : List Leaf) :
    (leaves.map Leaf.item).map Item.shape = (leaves.map Leaf.leafType).map LeafType.shape := by
  simp [LeafType.item_shape, Leaf.item]

theorem KeyType.leaves_types (ty : KeyType) (first second : ty.Val) :
    (ty.leaves first).map Leaf.leafType = (ty.leaves second).map Leaf.leafType := by
  cases ty with
  | single leaf => rfl
  | array leaf len =>
      obtain ⟨elements, length⟩ := first
      obtain ⟨others, otherLength⟩ := second
      simp [KeyType.leaves, Function.comp_def, List.map_const', length, otherLength]

/-- The leaf types belong to the struct type. -/
theorem keyLeaves_types (fields : TopicFields) (first second : fields.Val Other) :
    (fields.keyLeaves first).map Leaf.leafType = (fields.keyLeaves second).map Leaf.leafType := by
  induction fields with
  | nil => rfl
  | unkeyed field notKey rest ih => exact ih first.2 second.2
  | own field ty accepted writes rest ih =>
      rw [TopicFields.keyLeaves, TopicFields.keyLeaves, List.map_append, List.map_append,
        ty.leaves_types first.1 second.1, ih first.2 second.2]
  | nested field inner accepted typePath isPath rest innerIh ih =>
      rw [TopicFields.keyLeaves, TopicFields.keyLeaves, List.map_append, List.map_append,
        innerIh first.1 second.1, ih first.2 second.2]

theorem KeyType.serialize_leaves (ty : KeyType) (value : ty.Val) (out : List UInt8) :
    ty.serialize cdr value out = ((ty.leaves value).map Leaf.item).foldlM (write cdr.accepts) out := by
  cases ty with
  | single leaf => simp [KeyType.serialize, KeyType.leaves, LeafType.serialize, Leaf.item]
  | array leaf len =>
      simp only [KeyType.serialize, KeyType.leaves, LeafType.serialize, List.foldlM_map]
      rfl

/-- The holder's fields are written as the key leaves one after the other. -/
theorem serializeHolder_leaves (fields : TopicFields) (recognized : fields.NestedRecognized)
    (value : fields.Val Other) (out : List UInt8) :
    fields.serializeHolder cdr (fields.into value) out =
      ((fields.keyLeaves value).map Leaf.item).foldlM (write cdr.accepts) out := by
  induction fields generalizing out with
  | nil => rfl
  | unkeyed field notKey rest ih => exact ih recognized value.2 out
  | own field ty accepted writes rest ih =>
      simp only [TopicFields.serializeHolder, TopicFields.into, TopicFields.keyLeaves,
        List.map_append, List.foldlM_append, KeyType.serialize_leaves]
      exact congrArg _ (funext fun written => ih recognized value.2 written)
  | nested field inner accepted typePath isPath rest innerIh ih =>
      obtain ⟨noOwn, innerRecognized, restRecognized⟩ := recognized
      have stored : holderType field = .nested typePath.keyHolder := by
        simp [holderType, noOwn, isPath]
      simp only [TopicFields.serializeHolder, TopicFields.into, TopicFields.keyLeaves,
        List.map_append, List.foldlM_append, serializeStored_nested _ _ stored,
        innerIh innerRecognized]
      exact congrArg _ (funext fun written => ih restRecognized value.2 written)

theorem keyCdr_leaves (fields : TopicFields) (recognized : fields.NestedRecognized)
    (value : fields.Val Other) :
    fields.keyCdr cdr value =
      if ((fields.keyLeaves value).map Leaf.item).all cdr.accepts then
        .ok (TopicFields.header ++ encodeFrom 0 ((fields.keyLeaves value).map Leaf.item))
      else .error "Unable to serialize key" := by
  rw [TopicFields.keyCdr, serializeHolder_leaves cdr fields recognized, foldlM_write]
  cases ((fields.keyLeaves value).map Leaf.item).all cdr.accepts <;> rfl

theorem accepted_fits (leaves : List Leaf)
    (accepted : (leaves.map Leaf.item).all cdr.accepts = true) :
    ∀ item ∈ leaves.map Leaf.item, item.Fits := by
  intro item member
  obtain ⟨leaf, -, rfl⟩ := List.mem_map.mp member
  exact leaf.leafType.item_fits cdr leaf.value (List.all_eq_true.mp accepted _ member)

/-- Two values get the same bytes exactly when their key leaves agree. -/
theorem keyCdr_eq_iff (fields : TopicFields) (recognized : fields.NestedRecognized)
    (first second : fields.Val Other) (bytes : List UInt8)
    (encoded : fields.keyCdr cdr first = .ok bytes) :
    fields.keyCdr cdr second = .ok bytes ↔ fields.keyLeaves first = fields.keyLeaves second := by
  have types := keyLeaves_types fields first second
  rw [keyCdr_leaves cdr fields recognized] at encoded ⊢
  constructor
  · intro same
    by_cases firstAccepted : ((fields.keyLeaves first).map Leaf.item).all cdr.accepts = true
    · by_cases secondAccepted : ((fields.keyLeaves second).map Leaf.item).all cdr.accepts = true
      · rw [if_pos firstAccepted] at encoded
        rw [if_pos secondAccepted] at same
        have bodies := List.append_cancel_left (Except.ok.inj (encoded.trans same.symm))
        have shapes := (leaves_shapes _).trans
          ((congrArg _ types).trans (leaves_shapes (fields.keyLeaves second)).symm)
        have items := encodeFrom_unique 0 _ _ shapes
          (accepted_fits cdr _ firstAccepted) (accepted_fits cdr _ secondAccepted) bodies
        exact (leaves_eq_iff _ _ types).mp items
      · rw [if_neg secondAccepted] at same
        cases same
    · rw [if_neg firstAccepted] at encoded
      cases encoded
  · intro same
    rw [← same, encoded]

theorem keys_exact (fields : TopicFields) (recognized : fields.NestedRecognized) :
    KeysExact cdr fields :=
  ⟨keyCdr_leaves cdr fields recognized, keyCdr_eq_iff cdr fields recognized⟩

end Leaves

/-! Runs of the generated code, with single values in the other fields -/

def plainCdr : CdrBe fun _ => Leaf where
  acceptsText := fun bytes => decide (bytes.length + 1 < 256 ^ 4)
  fits := fun _ accepted => of_decide_eq_true accepted
  serializeOther := fun _ leaf out => some (out ++ leaf.item.encode out.length)

def keyField (name : String) (typePath : TypePath) : SynField :=
  { ident := some name, attrs := ["topic_key"], ty := .path typePath }

def otherField (name : String) (typePath : TypePath) : SynField :=
  { ident := some name, attrs := [], ty := .path typePath }

def uint32 (value : BitVec 32) : Leaf := ⟨.word .u32, value⟩

/-- `struct NestedFoo { name: String, val: u64, #[topic_key] instance: u32 }` -/
def nestedFoo : TopicFields :=
  .unkeyed (otherField "name" (.ident "String")) rfl
    (.unkeyed (otherField "val" (.ident "u64")) rfl
      (.own (keyField "instance" (.ident "u32")) (.single (.word .u32)) ⟨rfl, rfl⟩
        ⟨_, rfl, rfl⟩ .nil))

/-- `struct Foo { #[topic_key] id: i32, x: u32, #[topic_key] s: String, y: u32,
#[topic_key] inner: NestedFoo }` -/
def foo : TopicFields :=
  .own (keyField "id" (.ident "i32")) (.single (.word .i32)) ⟨rfl, rfl⟩ ⟨_, rfl, rfl⟩
    (.unkeyed (otherField "x" (.ident "u32")) rfl
      (.own (keyField "s" (.ident "String")) (.single .text) ⟨rfl, rfl⟩ ⟨_, rfl, rfl⟩
        (.unkeyed (otherField "y" (.ident "u32")) rfl
          (.nested (keyField "inner" (.ident "NestedFoo")) nestedFoo ⟨rfl, rfl⟩ _ rfl .nil))))

theorem keys_exact_foo : KeysExact plainCdr foo ∧
    foo.keyCdr plainCdr (0x12345678#32, uint32 10, [98, 111, 111], uint32 20,
      (⟨.text, []⟩, ⟨.word .u64, 42#64⟩, 25#32, ()), ()) =
      .ok [0, 0, 0, 0, 18, 52, 86, 120, 0, 0, 0, 4, 98, 111, 111, 0, 0, 0, 0, 25] :=
  ⟨keys_exact plainCdr foo ⟨rfl, trivial, trivial⟩, rfl⟩

/-- `struct String { #[topic_key] id: u32, note: u32 }`, as in `std_msgs`. -/
def ownString : TopicFields :=
  .own (keyField "id" (.ident "u32")) (.single (.word .u32)) ⟨rfl, rfl⟩ ⟨_, rfl, rfl⟩
    (.unkeyed (otherField "note" (.ident "u32")) rfl .nil)

/-- A struct with that `String` as a key. -/
def ownStringKey : TopicFields :=
  .nested (keyField "inner" (.ident "String")) ownString ⟨rfl, rfl⟩ _ rfl .nil

/-- The macro takes it for the `String` of std, and the whole struct becomes the key. -/
theorem ownStringKey_inexact : ¬ KeysExact plainCdr ownStringKey := by
  rintro ⟨-, exact⟩
  have same := (exact ((1#32, uint32 0, ()), ()) ((1#32, uint32 7, ()), ())
    [0, 0, 0, 0, 0, 0, 0, 1, 0, 0, 0, 0] rfl).mpr rfl
  cases same

end CycloneddsRs.KeyEncoding
