import Mathlib.Data.List.Basic

/-!
The key side of `derive(Topic)`: which fields are keys, which of their types are refused,
and the `KeyHolder_` struct generated from the rest. The macro sees tokens only. What the
written types mean is left to the program.
-/

namespace CycloneddsRs.KeyHolder

structure PathSegment where
  ident : String
  /-- Without arguments (`PathArguments::None`). -/
  plain : Bool
  deriving DecidableEq

structure TypePath where
  leadingColon : Bool
  front : List PathSegment
  last : PathSegment
  deriving DecidableEq

inductive WrittenType where
  | path (typePath : TypePath)
  | array (element : WrittenType) (len : String)
  | other (tokens : String)
  deriving DecidableEq

/-- A field as `syn` reads it. Each attribute is given by the identifier of its path. -/
structure SynField where
  ident : Option String
  attrs : List String
  ty : WrittenType

namespace TypePath

def ident (name : String) : TypePath :=
  { leadingColon := false, front := [], last := { ident := name, plain := true } }

def isIdent (path : TypePath) (name : String) : Bool :=
  !path.leadingColon && path.front.isEmpty && path.last.plain && path.last.ident == name

/-- A leading `::` and arguments make no difference here. -/
def isStdPath (path : TypePath) (module name : String) : Bool :=
  match (path.front ++ [path.last]).map PathSegment.ident with
  | [single] => single == name
  | [krate, moduleSeg, nameSeg] =>
      (krate == "std" || krate == "alloc") && moduleSeg == module && nameSeg == name
  | _ => false

def isUnportableIntPath (path : TypePath) : Bool :=
  ["usize", "isize", "u128", "i128"].any path.isIdent

def isPrimitiveTypePath (path : TypePath) : Bool :=
  ["bool", "i8", "i16", "i32", "i64", "i128", "isize", "u8", "u16", "u32", "u64", "u128",
    "usize", "f32", "f64"].any path.isIdent || path.isStdPath "string" "String"

/-- The path of the struct that `derive(Topic)` generates beside the one named. -/
def keyHolder (path : TypePath) : TypePath :=
  { path with last := { path.last with ident := path.last.ident ++ "KeyHolder_" } }

end TypePath

section Fields

variable (field : SynField)

def isKey : Bool := field.attrs.any fun attr => attr == "topic_key" || attr == "topic_key_enum"

def isKeyEnum : Bool := field.attrs.any (· == "topic_key_enum")

def isPrimitive : Bool :=
  match field.ty with
  | .path typePath => typePath.isPrimitiveTypePath
  | _ => false

def isVariableLength : Bool :=
  match field.ty with
  | .path typePath => typePath.isStdPath "vec" "Vec" || typePath.isStdPath "string" "String"
  | _ => false

def isUnportableInt : Bool :=
  match field.ty with
  | .path typePath => typePath.isUnportableIntPath
  | .array (.path elemPath) _ => elemPath.isUnportableIntPath
  | _ => false

def unportableIntMsg : String :=
  "#[topic_key]: `usize`/`isize`/`u128`/`i128` have no portable CDR representation; " ++
    "use a fixed-width type (u8..u64, i8..i64)"

def enumKeyMsg : String :=
  "#[topic_key_enum]: enum keys must be a non-generic single-path type"

def validateKeyFieldType : Except String Unit :=
  if field.ident.isNone then
    .error ("#[topic_key]: tuple struct fields cannot be keys; " ++
      "use a struct with named fields")
  else if isUnportableInt field then .error unportableIntMsg
  else if isPrimitive field then .ok ()
  else if isKeyEnum field then
    match field.ty with
    | .path typePath => if typePath.last.plain then .ok () else .error enumKeyMsg
    | _ => .error enumKeyMsg
  else
    match field.ty with
    | .path typePath =>
        if typePath.last.plain then .ok ()
        else .error ("#[topic_key]: generic type is not supported as a key; " ++
          "keys must be primitives, [primitive; N] arrays, or structs deriving Topic")
    | .array (.path elemPath) _ =>
        if elemPath.isPrimitiveTypePath then .ok ()
        else .error "#[topic_key]: only arrays of primitives are supported as keys"
    | .array _ _ => .error "#[topic_key]: unsupported array element type for a key"
    | .other _ =>
        .error ("#[topic_key]: keys must be primitives, [primitive; N] arrays, " ++
          "or structs deriving Topic")

end Fields

inductive HolderType where
  | own (ty : WrittenType)
  | nested (holder : TypePath)

/-- A generated struct with what its `is_variable_length` is made of. -/
structure HolderStruct where
  fields : List (String × HolderType)
  containedTypes : List TypePath
  variableLength : Bool

def isStringElement : WrittenType → Bool
  | .path elemPath => elemPath.isStdPath "string" "String"
  | _ => false

/-- One key field in the loop of `build_key_holder_struct`. -/
def addKeyField (holder : HolderStruct) (field : SynField) : Except String HolderStruct :=
  match validateKeyFieldType field with
  | .error message => .error message
  | .ok () =>
      let name := field.ident.getD ""
      if isPrimitive field || isKeyEnum field then
        .ok { holder with
          fields := holder.fields ++ [(name, .own field.ty)]
          variableLength := holder.variableLength || isVariableLength field }
      else
        match field.ty with
        | .path typePath =>
            .ok { holder with
              fields := holder.fields ++ [(name, .nested typePath.keyHolder)]
              containedTypes := holder.containedTypes ++ [typePath.keyHolder] }
        | .array element _ =>
            .ok { holder with
              fields := holder.fields ++ [(name, .own field.ty)]
              variableLength := holder.variableLength || isStringElement element }
        | .other _ =>
            .error "validate_key_field_type should reject non path/array key types"

def buildFrom : HolderStruct → List SynField → Except String HolderStruct
  | holder, [] => .ok holder
  | holder, field :: rest =>
      if isKey field then
        match addKeyField holder field with
        | .error message => .error message
        | .ok holder => buildFrom holder rest
      else buildFrom holder rest

def buildKeyHolderStruct (fields : List SynField) : Except String HolderStruct :=
  buildFrom { fields := [], containedTypes := [], variableLength := false } fields

/-! Accepted fields -/

/-- What an accepted key field is stored as. -/
def holderType (field : SynField) : HolderType :=
  if isPrimitive field || isKeyEnum field then .own field.ty
  else
    match field.ty with
    | .path typePath => .nested typePath.keyHolder
    | ty => .own ty

def holderField (field : SynField) : String × HolderType :=
  (field.ident.getD "", holderType field)

theorem addKeyField_ok (holder : HolderStruct) (field : SynField)
    (valid : validateKeyFieldType field = .ok ()) :
    ∃ next, addKeyField holder field = .ok next ∧
      next.fields = holder.fields ++ [holderField field] := by
  unfold addKeyField holderField holderType
  simp only [valid]
  by_cases single : (isPrimitive field || isKeyEnum field) = true
  · simp [single]
  · simp only [single, Bool.false_eq_true, if_false]
    cases written : field.ty with
    | path typePath => simp
    | array element len => simp
    | other tokens =>
        -- Neither a primitive nor an enum key: the validation has refused it.
        have notPrimitive : isPrimitive field = false := by simp [isPrimitive, written]
        have notEnum : isKeyEnum field = false := by simpa [notPrimitive] using single
        simp only [validateKeyFieldType, notPrimitive, notEnum, isUnportableInt, written] at valid
        split at valid <;> cases valid

theorem addKeyField_valid (holder next : HolderStruct) (field : SynField)
    (added : addKeyField holder field = .ok next) : validateKeyFieldType field = .ok () := by
  cases validated : validateKeyFieldType field with
  | error message => simp [addKeyField, validated] at added
  | ok _ => rfl

theorem buildFrom_iff (holder : HolderStruct) (fields : List SynField) :
    (∃ built, buildFrom holder fields = .ok built) ↔
      ∀ field ∈ fields, isKey field = true → validateKeyFieldType field = .ok () := by
  induction fields generalizing holder with
  | nil => simp [buildFrom]
  | cons field rest ih =>
      simp only [buildFrom, List.forall_mem_cons]
      by_cases key : isKey field = true
      · simp only [key, if_true, forall_true_left]
        cases added : addKeyField holder field with
        | error message =>
            constructor
            · rintro ⟨built, impossible⟩
              cases impossible
            · rintro ⟨valid, -⟩
              obtain ⟨next, accepted, -⟩ := addKeyField_ok holder field valid
              rw [added] at accepted
              cases accepted
        | ok next => simp [ih next, addKeyField_valid holder next field added]
      · simp [key, ih holder]

/-- Both derives refuse the same key fields: `derive(DdsInterface)` validates each of them. -/
theorem buildKeyHolderStruct_iff (fields : List SynField) :
    (∃ built, buildKeyHolderStruct fields = .ok built) ↔
      ∀ field ∈ fields, isKey field = true → validateKeyFieldType field = .ok () :=
  buildFrom_iff _ fields

/-- The loop, from the last field back to the first. -/
theorem buildFrom_induct (built : HolderStruct) (motive : HolderStruct → List SynField → Prop)
    (nil : motive built [])
    (added : ∀ holder next field rest, isKey field = true → addKeyField holder field = .ok next →
      motive next rest → motive holder (field :: rest))
    (skipped : ∀ holder field rest, isKey field = false → motive holder rest →
      motive holder (field :: rest))
    (holder : HolderStruct) (fields : List SynField)
    (accepted : buildFrom holder fields = .ok built) : motive holder fields := by
  induction fields generalizing holder with
  | nil =>
      cases accepted
      exact nil
  | cons field rest ih =>
      simp only [buildFrom] at accepted
      by_cases key : isKey field = true
      · simp only [key, if_true] at accepted
        cases step : addKeyField holder field with
        | error message => simp [step] at accepted
        | ok next =>
            simp only [step] at accepted
            exact added holder next field rest key step (ih next accepted)
      · simp only [key, Bool.false_eq_true, if_false] at accepted
        exact skipped holder field rest (by simpa using key) (ih holder accepted)

theorem addKeyField_fields (holder next : HolderStruct) (field : SynField)
    (added : addKeyField holder field = .ok next) :
    next.fields = holder.fields ++ [holderField field] := by
  obtain ⟨same, isSame, stored⟩ :=
    addKeyField_ok holder field (addKeyField_valid holder next field added)
  cases added.symm.trans isSame
  exact stored

theorem buildFrom_fields (holder built : HolderStruct) (fields : List SynField)
    (accepted : buildFrom holder fields = .ok built) :
    built.fields = holder.fields ++ (fields.filter isKey).map holderField := by
  refine buildFrom_induct built
    (fun holder fields => built.fields = holder.fields ++ (fields.filter isKey).map holderField)
    ?_ ?_ ?_ holder fields accepted
  · simp
  · intro holder next field rest key added ih
    rw [ih, addKeyField_fields holder next field added]
    simp [key]
  · intro holder field rest notKey ih
    rw [ih]
    simp [notKey]

/-- The holder has one field for each key field, in the order of the declaration. -/
theorem buildKeyHolderStruct_fields (built : HolderStruct) (fields : List SynField)
    (accepted : buildKeyHolderStruct fields = .ok built) :
    built.fields = (fields.filter isKey).map holderField := by
  simpa using buildFrom_fields _ built fields accepted

/-- What an accepted key field gives to `variable_length`. -/
def variableField (field : SynField) : Bool :=
  if isPrimitive field || isKeyEnum field then isVariableLength field
  else
    match field.ty with
    | .array element _ => isStringElement element
    | _ => false

theorem addKeyField_variable (holder next : HolderStruct) (field : SynField)
    (added : addKeyField holder field = .ok next) :
    next.variableLength = (holder.variableLength || variableField field) := by
  have valid := addKeyField_valid holder next field added
  simp only [addKeyField, valid] at added
  unfold variableField
  by_cases single : (isPrimitive field || isKeyEnum field) = true
  · rw [if_pos single] at added ⊢
    cases added
    rfl
  · rw [if_neg single] at added ⊢
    cases written : field.ty with
    | path typePath =>
        rw [written] at added
        cases added
        exact (Bool.or_false _).symm
    | array element len =>
        rw [written] at added
        cases added
        rfl
    | other tokens =>
        rw [written] at added
        cases added

theorem buildFrom_variable (holder built : HolderStruct) (fields : List SynField)
    (accepted : buildFrom holder fields = .ok built) :
    built.variableLength =
      (holder.variableLength || (fields.filter isKey).any variableField) := by
  refine buildFrom_induct built
    (fun holder fields => built.variableLength =
      (holder.variableLength || (fields.filter isKey).any variableField))
    ?_ ?_ ?_ holder fields accepted
  · simp
  · intro holder next field rest key added ih
    rw [ih, addKeyField_variable holder next field added]
    simp [key, Bool.or_assoc]
  · intro holder field rest notKey ih
    rw [ih]
    simp [notKey]

/-- The macro's part of `is_variable_length` is decided field by field. -/
theorem buildKeyHolderStruct_variable (built : HolderStruct) (fields : List SynField)
    (accepted : buildKeyHolderStruct fields = .ok built) :
    built.variableLength = (fields.filter isKey).any variableField := by
  simpa using buildFrom_variable _ built fields accepted

end CycloneddsRs.KeyHolder
