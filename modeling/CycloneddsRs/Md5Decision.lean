import CycloneddsRs.KeyEncoding

/-!
`force_md5_keyhash`: the generated `is_variable_length` is decided in part by the macro, over
the struct's own fields, and in part by the nested key holders.
-/

namespace CycloneddsRs.Md5Decision
open KeyHolder BigEndianCdr Serdes KeyEncoding

/-- The literal that the macro leaves in `is_variable_length`. -/
def macroVariableLength (fields : TopicFields) : Bool :=
  match buildKeyHolderStruct fields.written with
  | .ok holder => holder.variableLength
  | .error _ => false

/-- A type asks the holders that it contains, not the structs that it stores whole. -/
def contained (stored : HolderType) (isVariableLength : Bool) : Bool :=
  match stored with
  | .own _ => false
  | .nested _ => isVariableLength

def containedVariableLength : TopicFields → Bool
  | .nil => false
  | .unkeyed _ _ rest => containedVariableLength rest
  | .own _ _ _ _ rest => containedVariableLength rest
  | .nested field inner _ _ _ rest =>
      contained (holderType field)
        (if !macroVariableLength inner then containedVariableLength inner else true) ||
          containedVariableLength rest

def forceMd5Keyhash (fields : TopicFields) : Bool :=
  if !macroVariableLength fields then containedVariableLength fields else true

/-- The types of the key leaves, an array by that of its elements. -/
def leafTypes : TopicFields → List LeafType
  | .nil => []
  | .unkeyed _ _ rest => leafTypes rest
  | .own _ ty _ _ rest => ty.leafType :: leafTypes rest
  | .nested _ inner _ _ _ rest => leafTypes inner ++ leafTypes rest

/-- Some enumeration, at any depth, is written like `Vec` or `String`. -/
def EnumNamedAsSequence : TopicFields → Prop
  | .nil => False
  | .unkeyed _ _ rest => EnumNamedAsSequence rest
  | .own field ty _ _ rest =>
      ((∃ last, ty = .single (.variant last)) ∧ isVariableLength field = true) ∨
        EnumNamedAsSequence rest
  | .nested _ inner _ _ _ rest => EnumNamedAsSequence inner ∨ EnumNamedAsSequence rest

/-! The written names -/

theorem isStdPath_of_isIdent (typePath : TypePath) (name module std : String)
    (named : typePath.isIdent name = true) : typePath.isStdPath module std = (name == std) := by
  simp only [TypePath.isIdent, Bool.and_eq_true, List.isEmpty_iff, beq_iff_eq] at named
  obtain ⟨⟨⟨-, front⟩, -⟩, last⟩ := named
  simp [TypePath.isStdPath, front, last]

theorem names_isStdPath_string (typePath : TypePath) (leaf : LeafType)
    (named : Names typePath leaf) :
    typePath.isStdPath "string" "String" = true ↔ leaf = .text := by
  cases leaf with
  | bool => simp [isStdPath_of_isIdent typePath "bool" "string" "String" named]
  | word kind =>
      rw [isStdPath_of_isIdent typePath kind.name "string" "String" named]
      cases kind <;> simp [Word.name]
  | text => simp [show typePath.isStdPath "string" "String" = true from named]
  | variant last => cases named

theorem names_isStdPath_vec (typePath : TypePath) (leaf : LeafType)
    (named : Names typePath leaf) (notText : leaf ≠ .text) :
    typePath.isStdPath "vec" "Vec" = false := by
  cases leaf with
  | bool => exact isStdPath_of_isIdent typePath "bool" "vec" "Vec" named
  | word kind =>
      rw [isStdPath_of_isIdent typePath kind.name "vec" "Vec" named]
      cases kind <;> rfl
  | text => exact absurd rfl notText
  | variant last => cases named

theorem single_variableField (field : SynField) (typePath : TypePath) (leaf : LeafType)
    (isPath : field.ty = .path typePath) (named : Names typePath leaf) :
    variableField field = true ↔ leaf = .text := by
  have primitive : isPrimitive field = true := by
    simpa [isPrimitive, isPath] using named_isPrimitive typePath leaf named
  have string := names_isStdPath_string typePath leaf named
  simp only [variableField, primitive, Bool.true_or, if_true, isVariableLength, isPath,
    Bool.or_eq_true, string]
  constructor
  · rintro (vec | text)
    · by_contra notText
      rw [names_isStdPath_vec typePath leaf named notText] at vec
      cases vec
    · exact text
  · exact .inr

theorem array_variableField (field : SynField) (typePath : TypePath) (leaf : LeafType)
    (tokens : String) (isArray : field.ty = .array (.path typePath) tokens)
    (valid : validateKeyFieldType field = .ok ()) (named : Names typePath leaf) :
    variableField field = true ↔ leaf = .text := by
  have notPrimitive : isPrimitive field = false := by simp [isPrimitive, isArray]
  have notEnum : isKeyEnum field = false := by
    -- The validation refuses an array that is marked as an enumeration.
    by_contra marked
    simp only [validateKeyFieldType, notPrimitive, Bool.not_eq_false _ |>.mp marked, isArray,
      Bool.false_eq_true, if_false, if_true] at valid
    split at valid
    · cases valid
    · split at valid <;> cases valid
  simpa [variableField, notPrimitive, notEnum, isArray, isStringElement] using
    names_isStdPath_string typePath leaf named

/-- Apart from enumerations a key field is variable when its leaves are texts. -/
theorem own_variableField (field : SynField) (ty : KeyType) (accepted : AcceptedKey field)
    (writes : Writes field ty) :
    variableField field = true ↔ ty.leafType = .text ∨
      ((∃ last, ty = .single (.variant last)) ∧ isVariableLength field = true) := by
  cases ty with
  | single leaf =>
      rcases writes_single field leaf writes with ⟨⟨last, rfl⟩, single⟩ | ⟨typePath, isPath, named⟩
      · simp [variableField, single, KeyType.leafType]
      · have noEnum : ∀ last, leaf ≠ .variant last := by
          rintro last rfl
          exact named
        simpa [KeyType.leafType, noEnum] using
          single_variableField field typePath leaf isPath named
  | array leaf len =>
      obtain ⟨typePath, tokens, isArray, named⟩ := writes
      simpa [KeyType.leafType] using
        array_variableField field typePath leaf tokens isArray accepted.valid named

theorem nested_variableField (field : SynField) (typePath : TypePath)
    (isPath : field.ty = .path typePath)
    (recognized : (isPrimitive field || isKeyEnum field) = false) :
    variableField field = false := by
  simp [variableField, recognized, isPath]

/-! The decision -/

theorem macroVariableLength_any (fields : TopicFields) :
    macroVariableLength fields = (fields.written.filter isKey).any variableField := by
  obtain ⟨holder, built⟩ := fields.built
  rw [macroVariableLength, built]
  exact buildKeyHolderStruct_variable holder fields.written built

theorem forceMd5Keyhash_or (fields : TopicFields) :
    forceMd5Keyhash fields = (macroVariableLength fields || containedVariableLength fields) := by
  unfold forceMd5Keyhash
  cases macroVariableLength fields <;> rfl

/-- Every field adds its own part, a nested struct that of its holder. -/
theorem forceMd5Keyhash_iff (fields : TopicFields) (recognized : fields.NestedRecognized) :
    forceMd5Keyhash fields = true ↔
      LeafType.text ∈ leafTypes fields ∨ EnumNamedAsSequence fields := by
  induction fields with
  | nil => simp [forceMd5Keyhash_or, macroVariableLength_any, TopicFields.written,
      containedVariableLength, leafTypes, EnumNamedAsSequence]
  | unkeyed field notKey rest ih =>
      rw [leafTypes, EnumNamedAsSequence, ← ih recognized]
      simp [forceMd5Keyhash_or, macroVariableLength_any, TopicFields.written,
        containedVariableLength, notKey]
  | own field ty accepted writes rest ih =>
      have split : forceMd5Keyhash (.own field ty accepted writes rest) =
          (variableField field || forceMd5Keyhash rest) := by
        simp [forceMd5Keyhash_or, macroVariableLength_any, TopicFields.written,
          containedVariableLength, accepted.key, Bool.or_assoc]
      rw [split, Bool.or_eq_true, ih recognized, own_variableField field ty accepted writes,
        leafTypes, EnumNamedAsSequence, List.mem_cons, eq_comm (a := LeafType.text)]
      exact or_or_or_comm
  | nested field inner accepted typePath isPath rest innerIh ih =>
      obtain ⟨noOwn, innerRecognized, restRecognized⟩ := recognized
      have stored : holderType field = .nested typePath.keyHolder := by
        simp [holderType, noOwn, isPath]
      have split : forceMd5Keyhash (.nested field inner accepted typePath isPath rest) =
          (forceMd5Keyhash inner || forceMd5Keyhash rest) := by
        rw [forceMd5Keyhash_or, forceMd5Keyhash_or rest, forceMd5Keyhash,
          macroVariableLength_any, containedVariableLength, stored]
        simp [TopicFields.written, accepted.key, contained, macroVariableLength_any,
          nested_variableField field typePath isPath noOwn, Bool.or_left_comm]
      rw [split, Bool.or_eq_true, innerIh innerRecognized, ih restRecognized, leafTypes,
        EnumNamedAsSequence, List.mem_append]
      exact or_or_or_comm

/-! The length of a key -/

section Length

variable {Other : SynField → Type} (cdr : CdrBe Other)

/-- Every value has a key, and all keys are of one length. -/
def FixedLength (fields : TopicFields) : Prop :=
  ∀ first second : fields.Val Other, ∃ firstBytes secondBytes,
    fields.keyCdr cdr first = .ok firstBytes ∧ fields.keyCdr cdr second = .ok secondBytes ∧
      firstBytes.length = secondBytes.length

def Md5Sound (fields : TopicFields) : Prop :=
  (forceMd5Keyhash fields = false → FixedLength cdr fields) ∧
    (forceMd5Keyhash fields = true → LeafType.text ∈ leafTypes fields)

theorem leaves_leafType (ty : KeyType) (value : ty.Val) :
    ∀ leaf ∈ ty.leaves value, leaf.leafType = ty.leafType := by
  intro leaf member
  cases ty with
  | single kind =>
      cases List.mem_singleton.mp member
      rfl
  | array kind len =>
      obtain ⟨element, -, rfl⟩ := List.mem_map.mp member
      rfl

theorem keyLeaves_leafTypes (fields : TopicFields) (value : fields.Val Other) :
    ∀ leaf ∈ fields.keyLeaves value, leaf.leafType ∈ leafTypes fields := by
  induction fields with
  | nil => simp [TopicFields.keyLeaves]
  | unkeyed field notKey rest ih => exact ih value.2
  | own field ty accepted writes rest ih =>
      intro leaf member
      rcases List.mem_append.mp member with here | there
      · exact List.mem_cons.mpr (.inl (leaves_leafType ty value.1 leaf here))
      · exact List.mem_cons_of_mem _ (ih value.2 leaf there)
  | nested field inner accepted typePath isPath rest innerIh ih =>
      intro leaf member
      rcases List.mem_append.mp member with here | there
      · exact List.mem_append_left _ (innerIh value.1 leaf here)
      · exact List.mem_append_right _ (ih value.2 leaf there)

/-- Without texts among the leaf types the items of a value are scalars. -/
theorem keyLeaves_scalar (fields : TopicFields) (noText : LeafType.text ∉ leafTypes fields)
    (value : fields.Val Other) :
    ∀ item ∈ (fields.keyLeaves value).map Leaf.item, item.shape ≠ .text := by
  intro item member isText
  obtain ⟨leaf, held, rfl⟩ := List.mem_map.mp member
  rw [Leaf.item, LeafType.item_shape] at isText
  have leafText : leaf.leafType = .text := by
    cases kind : leaf.leafType <;> rw [kind] at isText <;> first | rfl | cases isText
  exact noText (leafText ▸ keyLeaves_leafTypes fields value leaf held)

theorem scalar_accepted (item : Item) (scalar : item.shape ≠ .text) : cdr.accepts item = true := by
  cases item with
  | scalar size value => rfl
  | text bytes => exact absurd rfl scalar

theorem fixedLength_of_noText (fields : TopicFields) (recognized : fields.NestedRecognized)
    (noText : LeafType.text ∉ leafTypes fields) : FixedLength cdr fields := by
  have encoded (value : fields.Val Other) : fields.keyCdr cdr value =
      .ok (TopicFields.header ++ encodeFrom 0 ((fields.keyLeaves value).map Leaf.item)) := by
    rw [keyCdr_leaves cdr fields recognized, if_pos]
    refine List.all_eq_true.mpr fun item member => ?_
    exact scalar_accepted cdr item (keyLeaves_scalar fields noText value item member)
  intro first second
  refine ⟨_, _, encoded first, encoded second, ?_⟩
  have shapes := (leaves_shapes _).trans
    ((congrArg _ (keyLeaves_types fields first second)).trans (leaves_shapes _).symm)
  rw [List.length_append, List.length_append,
    encodeFrom_length 0 _ _ shapes (keyLeaves_scalar fields noText first)]

/-- A type that does not force MD5 has keys of one length. One that does has a `String` leaf
or an enumeration with a name that the macro reads as a sequence. -/
theorem md5_decision_sound (fields : TopicFields) (recognized : fields.NestedRecognized) :
    (forceMd5Keyhash fields = false → FixedLength cdr fields) ∧
      (forceMd5Keyhash fields = true →
        LeafType.text ∈ leafTypes fields ∨ EnumNamedAsSequence fields) := by
  have decision := forceMd5Keyhash_iff fields recognized
  constructor
  · intro unforced
    apply fixedLength_of_noText cdr fields recognized
    intro text
    rw [decision.mpr (.inl text)] at unforced
    cases unforced
  · exact decision.mp

end Length

theorem md5_decision_sound_foo :
    (forceMd5Keyhash foo = false → FixedLength plainCdr foo) ∧
      (forceMd5Keyhash foo = true →
        LeafType.text ∈ leafTypes foo ∨ EnumNamedAsSequence foo) :=
  md5_decision_sound plainCdr foo ⟨rfl, trivial, trivial⟩

/-- A struct with `#[topic_key_enum] kind: Vec` of an enumeration `Vec` with two variants. -/
def kindKey : TopicFields :=
  .own { ident := some "kind", attrs := ["topic_key_enum"], ty := .path (.ident "Vec") }
    (.single (.variant 1)) ⟨rfl, rfl⟩ ⟨rfl, _, rfl⟩ .nil

/-- `struct f32 { #[topic_key] name: String }` -/
def ownF32 : TopicFields :=
  .own (keyField "name" (.ident "String")) (.single .text) ⟨rfl, rfl⟩ ⟨_, rfl, rfl⟩ .nil

/-- A struct with that `f32` as a key. -/
def ownF32Key : TopicFields :=
  .nested (keyField "inner" (.ident "f32")) ownF32 ⟨rfl, rfl⟩ _ rfl .nil

/-- The macro goes by names: an enumeration passes for a `Vec`, a struct for a float. -/
theorem names_misread : ¬ Md5Sound plainCdr kindKey ∧ ¬ Md5Sound plainCdr ownF32Key := by
  constructor
  · rintro ⟨-, forced⟩
    have text := forced rfl
    cases List.mem_singleton.mp text
  · rintro ⟨unforced, -⟩
    obtain ⟨_, _, first, second, same⟩ := unforced rfl ((([] : List UInt8), ()), ())
      ((([97] : List UInt8), ()), ())
    cases first
    cases second
    cases same

end CycloneddsRs.Md5Decision
