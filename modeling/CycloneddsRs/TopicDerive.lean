import CycloneddsRs.CddsAttributes

/-!
`derive_topic_impl` from the parsed item to its tokens. `none` is a panic of the macro.
Identifiers are given as `to_string` prints them: a raw one begins with `r#`.
-/

namespace CycloneddsRs.TopicDerive
open KeyHolder CddsAttributes

/-- The tables behind plain identifiers. They are Unicode's, and only what the generated
names need of them is said here. -/
structure IdentifierClasses where
  start : Char → Bool
  continues : Char → Bool
  ascii : ∀ c ∈ "KeyHolder_".toList, continues c = true
  hash : continues '#' = false

def IdentifierClasses.isPlain (classes : IdentifierClasses) (text : String) : Bool :=
  match text.toList with
  | [] => false
  | first :: rest => (classes.start first || first == '_') && rest.all classes.continues

def isRaw (text : String) : Bool := ['r', '#'].isPrefixOf text.toList

def unraw (text : String) : String :=
  if isRaw text then String.ofList (text.toList.drop 2) else text

/-- Text that a Rust program can hold as an identifier. -/
def IsIdentifier (classes : IdentifierClasses) (text : String) : Prop :=
  classes.isPlain (unraw text) = true

/-- `Ident::new` panics on text that is no plain identifier. -/
def identNew (classes : IdentifierClasses) (text : String) : Option String :=
  if classes.isPlain text then some text else none

/-- A struct item. A qualified self of a field's path is left out: nothing here reads it. -/
structure ItemStruct (classes : IdentifierClasses) where
  ident : String
  generics : List String
  attrs : List Attribute
  fields : List SynField
  identWritten : IsIdentifier classes ident
  pathsWritten : ∀ field ∈ fields, ∀ typePath, field.ty = .path typePath →
    IsIdentifier classes typePath.last.ident

section Derive

variable (classes : IdentifierClasses)

def checkNoGenerics (generics : List String) : Except String Unit :=
  if generics.isEmpty then .ok ()
  else .error "#[derive(Topic)]: generic or lifetime parameters are not supported"

def topicReservedIdents : List String :=
  ["TopicType", "FixedTopicType", "SampleBuffer", "DdsParticipant", "DdsQos", "DdsListener",
    "DdsTopic", "DDSError"]

def checkReservedCollision (ident : String) : Except String Unit :=
  if topicReservedIdents.contains (unraw ident) then
    .error ("#[derive(Topic)]: struct name `" ++ unraw ident ++ "` collides with a cyclonedds-rs " ++
      "identifier used by the generated code; rename the Rust struct (for DdsInterface, keep " ++
      "the wire name with #[cdds(name = \"" ++ unraw ident ++ "\")])")
  else .ok ()

/-- The name that a field's type gets in a holder. -/
def nestedHolder (typePath : TypePath) : Option TypePath :=
  (identNew classes (typePath.last.ident ++ "KeyHolder_")).map fun newIdent =>
    { typePath with last := { typePath.last with ident := newIdent } }

/-- One key field in the loop, with the places where it can panic. -/
def addKeyField (holder : HolderStruct) (field : SynField) : Option (Except String HolderStruct) :=
  match validateKeyFieldType field with
  | .error message => some (.error message)
  | .ok () =>
      match field.ident with
      | none => none
      | some name =>
          if isPrimitive field || isKeyEnum field then
            some (.ok { holder with
              fields := holder.fields ++ [(name, .own field.ty)]
              variableLength := holder.variableLength || isVariableLength field })
          else
            match field.ty with
            | .path typePath =>
                (nestedHolder classes typePath).map fun nested => .ok { holder with
                  fields := holder.fields ++ [(name, .nested nested)]
                  containedTypes := holder.containedTypes ++ [nested] }
            | .array element _ =>
                some (.ok { holder with
                  fields := holder.fields ++ [(name, .own field.ty)]
                  variableLength := holder.variableLength || isStringElement element })
            | .other _ => none

def addKeyFields (holder : HolderStruct) : List SynField → Option (Except String HolderStruct)
  | [] => some (.ok holder)
  | field :: rest =>
      if isKey field then
        match addKeyField classes holder field with
        | none => none
        | some (.error message) => some (.error message)
        | some (.ok next) => addKeyFields next rest
      else addKeyFields holder rest

/-- The defined holder: its name and its contents. -/
def buildKeyHolder (item : ItemStruct classes) : Option (Except String (String × HolderStruct)) :=
  (identNew classes (item.ident ++ "KeyHolder_")).bind fun holderName =>
    (addKeyFields classes { fields := [], containedTypes := [], variableLength := false }
      item.fields).map fun built => built.map fun holder => (holderName, holder)

structure Container where
  fixedSize : Bool
  typename : Option String

def parseContainer (item : ItemStruct classes) : Except String Container :=
  (parseCddsAttrs item.attrs).map fun held =>
    { fixedSize := held.fixedSize
      typename := held.package.map fun package =>
        package.value ++ "/" ++ (held.name.map LitStr.value).getD (unraw item.ident) }

/-- The keyhash functions, by the holder name that they use. -/
structure KeyhashFunctions where
  holderIdent : String
  container : Container

/-- `format_ident!` drops the `r#` of its argument. -/
def formatIdent (ident : String) : Option String :=
  identNew classes (unraw ident ++ "KeyHolder_")

def createKeyhashFunctions (item : ItemStruct classes) : Option (Except String KeyhashFunctions) :=
  (formatIdent classes item.ident).map fun holderIdent =>
    (parseContainer classes item).map fun container =>
      { holderIdent := holderIdent, container := container }

structure TopicCode where
  holderName : String
  holder : HolderStruct
  /-- Attributes that cannot be read leave a compile error in place of the functions. -/
  keyhash : Except String KeyhashFunctions

def deriveTopicImpl (item : ItemStruct classes) : Option (Except String TopicCode) :=
  match checkNoGenerics item.generics with
  | .error message => some (.error message)
  | .ok () =>
      match checkReservedCollision item.ident with
      | .error message => some (.error message)
      | .ok () =>
          match buildKeyHolder classes item with
          | none => none
          | some (.error message) => some (.error message)
          | some (.ok (holderName, holder)) =>
              (createKeyhashFunctions classes item).map fun keyhash =>
                .ok { holderName := holderName, holder := holder, keyhash := keyhash }

/-! Names -/

theorem identNew_raw (text : String) (raw : isRaw text = true) :
    identNew classes (text ++ "KeyHolder_") = none := by
  obtain ⟨rest, begins⟩ := List.isPrefixOf_iff_prefix.mp raw
  have hashed : classes.isPlain (text ++ "KeyHolder_") = false := by
    rw [IdentifierClasses.isPlain, String.toList_append, ← begins]
    simp [classes.hash]
  rw [identNew, hashed]
  rfl

/-- The suffix keeps an identifier plain. -/
theorem identNew_plain (text : String) (plain : classes.isPlain text = true) :
    identNew classes (text ++ "KeyHolder_") = some (text ++ "KeyHolder_") := by
  have longer : classes.isPlain (text ++ "KeyHolder_") = true := by
    rw [IdentifierClasses.isPlain] at plain ⊢
    rw [String.toList_append]
    cases chars : text.toList with
    | nil => simp [chars] at plain
    | cons first rest =>
        simp only [chars, Bool.and_eq_true] at plain
        rw [List.cons_append]
        simp only [List.all_append, plain.1, plain.2, Bool.true_and]
        exact List.all_eq_true.mpr classes.ascii
  rw [identNew, if_pos longer]

theorem plain_of_notRaw (text : String) (written : IsIdentifier classes text)
    (notRaw : isRaw text = false) : classes.isPlain text = true := by
  simpa [IsIdentifier, unraw, notRaw] using written

/-- A holder name exists exactly for the identifiers that are not raw. -/
theorem identNew_iff (text : String) (written : IsIdentifier classes text) :
    identNew classes (text ++ "KeyHolder_") =
      if isRaw text then none else some (text ++ "KeyHolder_") := by
  cases raw : isRaw text with
  | true => rw [identNew_raw classes text raw, if_pos rfl]
  | false =>
      rw [identNew_plain classes text (plain_of_notRaw classes text written raw)]
      rfl

theorem formatIdent_some (ident : String) (written : IsIdentifier classes ident) :
    formatIdent classes ident = some (unraw ident ++ "KeyHolder_") :=
  identNew_plain classes (unraw ident) written

/-- The name that another struct derives for a type is made of its plain identifier. -/
theorem nestedHolder_name (typePath nested : TypePath)
    (derived : nestedHolder classes typePath = some nested) :
    nested.last.ident = unraw typePath.last.ident ++ "KeyHolder_" := by
  rw [nestedHolder] at derived
  cases raw : isRaw typePath.last.ident with
  | true =>
      rw [identNew_raw classes _ raw] at derived
      cases derived
  | false =>
      obtain ⟨name, made, rfl⟩ := Option.map_eq_some_iff.mp derived
      rw [identNew] at made
      split at made
      case isTrue =>
          cases made
          simp [unraw, raw]
      case isFalse => cases made

/-! The loop -/

/-- The path of a key field that is stored as another struct's holder. -/
def nestedPath (field : SynField) : Option TypePath :=
  if isPrimitive field || isKeyEnum field then none
  else
    match field.ty with
    | .path typePath => some typePath
    | _ => none

def PanicsAt (field : SynField) : Prop :=
  validateKeyFieldType field = .ok () ∧
    ∃ typePath, nestedPath field = some typePath ∧ isRaw typePath.last.ident = true

theorem validated_named (field : SynField) (valid : validateKeyFieldType field = .ok ()) :
    ∃ name, field.ident = some name := by
  cases named : field.ident with
  | some name => exact ⟨name, rfl⟩
  | none => simp [validateKeyFieldType, named] at valid

/-- What is neither a primitive nor an enum key is a path or an array when it is valid. -/
theorem validated_type (field : SynField) (valid : validateKeyFieldType field = .ok ())
    (single : (isPrimitive field || isKeyEnum field) = false) (tokens : String) :
    field.ty ≠ .other tokens := by
  intro written
  obtain ⟨notPrimitive, notEnum⟩ := Bool.or_eq_false_iff.mp single
  simp only [validateKeyFieldType, notPrimitive, notEnum, isUnportableInt, written] at valid
  split at valid <;> cases valid

theorem addKeyField_error (holder : HolderStruct) (field : SynField) (message : String)
    (refused : validateKeyFieldType field = .error message) :
    addKeyField classes holder field = some (.error message) := by
  rw [addKeyField, refused]

/-- A validated field panics exactly at a raw identifier of a nested key type. -/
theorem addKeyField_none_iff (holder : HolderStruct) (field : SynField)
    (written : ∀ typePath, field.ty = .path typePath → IsIdentifier classes typePath.last.ident) :
    addKeyField classes holder field = none ↔ PanicsAt field := by
  cases valid : validateKeyFieldType field with
  | error message =>
      rw [addKeyField_error classes holder field message valid]
      simp [PanicsAt, valid]
  | ok _ =>
      obtain ⟨name, named⟩ := validated_named field valid
      simp only [addKeyField, valid, named, PanicsAt, nestedPath, true_and]
      cases single : (isPrimitive field || isKeyEnum field) with
      | true => simp
      | false =>
          cases shape : field.ty with
          | path typePath =>
              simp only [nestedHolder, identNew_iff classes _ (written typePath shape)]
              cases raw : isRaw typePath.last.ident <;> simp [raw]
          | array element len => simp
          | other tokens => exact absurd shape (validated_type field valid single tokens)

/-- Without a panic a field is added as the token model adds it. -/
theorem addKeyField_some (holder : HolderStruct) (field : SynField)
    (outcome : Except String HolderStruct)
    (added : addKeyField classes holder field = some outcome) :
    KeyHolder.addKeyField holder field = outcome := by
  cases valid : validateKeyFieldType field with
  | error message =>
      rw [addKeyField_error classes holder field message valid] at added
      cases added
      simp [KeyHolder.addKeyField, valid]
  | ok _ =>
      obtain ⟨name, named⟩ := validated_named field valid
      simp only [addKeyField, valid, named] at added
      simp only [KeyHolder.addKeyField, valid, named, Option.getD_some]
      cases single : (isPrimitive field || isKeyEnum field) with
      | true => simpa [single] using added
      | false =>
          cases shape : field.ty with
          | path typePath =>
              simp only [single, shape, nestedHolder, identNew, Bool.false_eq_true,
                if_false] at added ⊢
              split at added
              case isTrue => simpa [TypePath.keyHolder] using added
              case isFalse => simp at added
          | array element len => simpa [single, shape] using added
          | other tokens => exact absurd shape (validated_type field valid single tokens)

theorem addKeyFields_some (holder : HolderStruct) (fields : List SynField)
    (outcome : Except String HolderStruct)
    (added : addKeyFields classes holder fields = some outcome) :
    buildFrom holder fields = outcome := by
  induction fields generalizing holder with
  | nil =>
      cases added
      rfl
  | cons field rest ih =>
      rw [addKeyFields] at added
      rw [buildFrom]
      by_cases key : isKey field = true
      · rw [if_pos key] at added ⊢
        cases one : addKeyField classes holder field with
        | none => simp [one] at added
        | some result =>
            rw [addKeyField_some classes holder field result one]
            cases result with
            | error message => simpa [one] using added
            | ok next =>
                rw [one] at added
                exact ih next added
      · rw [if_neg key] at added ⊢
        exact ih holder added

/-- A key field that panics, unless a refused one comes before. -/
def PanicsIn : List SynField → Prop
  | [] => False
  | field :: rest =>
      (isKey field = true ∧ PanicsAt field) ∨
        ((isKey field = true → validateKeyFieldType field = .ok ()) ∧ PanicsIn rest)

theorem panicsIn_iff (fields : List SynField) :
    PanicsIn fields ↔ ∃ front field back, fields = front ++ field :: back ∧
      (∀ earlier ∈ front, isKey earlier = true → validateKeyFieldType earlier = .ok ()) ∧
      isKey field = true ∧ PanicsAt field := by
  induction fields with
  | nil => simp [PanicsIn]
  | cons field rest ih =>
      rw [PanicsIn, ih]
      constructor
      · rintro (⟨key, here⟩ | ⟨valid, front, other, back, rfl, frontValid, key, there⟩)
        · exact ⟨[], field, rest, rfl, by simp, key, here⟩
        · exact ⟨field :: front, other, back, rfl, List.forall_mem_cons.mpr ⟨valid, frontValid⟩,
            key, there⟩
      · rintro ⟨front, other, back, split, valid, key, there⟩
        cases front with
        | nil =>
            obtain ⟨rfl, rfl⟩ := List.cons.inj split
            exact .inl ⟨key, there⟩
        | cons first front =>
            obtain ⟨rfl, rfl⟩ := List.cons.inj split
            obtain ⟨firstValid, frontValid⟩ := List.forall_mem_cons.mp valid
            exact .inr ⟨firstValid, front, other, back, rfl, frontValid, key, there⟩

/-- A valid key field that does not panic is added. -/
theorem addKeyField_added (holder : HolderStruct) (field : SynField)
    (written : ∀ typePath, field.ty = .path typePath → IsIdentifier classes typePath.last.ident)
    (valid : validateKeyFieldType field = .ok ()) (quiet : ¬ PanicsAt field) :
    ∃ next, addKeyField classes holder field = some (.ok next) := by
  cases added : addKeyField classes holder field with
  | none => exact absurd ((addKeyField_none_iff classes holder field written).mp added) quiet
  | some outcome =>
      obtain ⟨next, accepted, -⟩ := addKeyField_ok holder field valid
      rw [addKeyField_some classes holder field outcome added] at accepted
      exact ⟨next, by rw [accepted]⟩

theorem addKeyFields_none_iff (holder : HolderStruct) (fields : List SynField)
    (written : ∀ field ∈ fields, ∀ typePath, field.ty = .path typePath →
      IsIdentifier classes typePath.last.ident) :
    addKeyFields classes holder fields = none ↔ PanicsIn fields := by
  induction fields generalizing holder with
  | nil => simp [addKeyFields, PanicsIn]
  | cons field rest ih =>
      obtain ⟨fieldWritten, restWritten⟩ := List.forall_mem_cons.mp written
      rw [addKeyFields, PanicsIn]
      by_cases key : isKey field = true
      · rw [if_pos key]
        cases valid : validateKeyFieldType field with
        | error message =>
            rw [addKeyField_error classes holder field message valid]
            simp [key, PanicsAt, valid]
        | ok _ =>
            by_cases panics : PanicsAt field
            · rw [(addKeyField_none_iff classes holder field fieldWritten).mpr panics]
              simp [key, panics]
            · obtain ⟨next, added⟩ :=
                addKeyField_added classes holder field fieldWritten valid panics
              rw [added]
              simpa [key, panics] using ih next restWritten
      · rw [if_neg key, ih holder restWritten]
        simp [key]

/-! The derive -/

/-- The macro returns, and the names that it makes for the holder agree. -/
def DerivesConsistently (item : ItemStruct classes) : Prop :=
  ∃ output, deriveTopicImpl classes item = some output ∧
    ∀ code, output = .ok code →
      (∀ functions, code.keyhash = .ok functions → functions.holderIdent = code.holderName) ∧
      ∀ typePath nested, unraw typePath.last.ident = unraw item.ident →
        nestedHolder classes typePath = some nested → nested.last.ident = code.holderName

/-- An error is reported before any holder is named. -/
def ReportedFirst (item : ItemStruct classes) : Prop :=
  item.generics ≠ [] ∨ unraw item.ident ∈ topicReservedIdents

/-- No raw identifier where a holder name is made of one: neither the struct's own, nor that
of a nested key type in front of which every key field is valid. -/
def PlainWhereNamed (item : ItemStruct classes) : Prop :=
  isRaw item.ident = false ∧
    ∀ front field back typePath, item.fields = front ++ field :: back →
      (∀ earlier ∈ front, isKey earlier = true → validateKeyFieldType earlier = .ok ()) →
      isKey field = true → validateKeyFieldType field = .ok () →
      nestedPath field = some typePath → isRaw typePath.last.ident = false

theorem buildKeyHolder_none_iff (item : ItemStruct classes) :
    buildKeyHolder classes item = none ↔ ¬ PlainWhereNamed classes item := by
  rw [buildKeyHolder, identNew_iff classes _ item.identWritten]
  cases raw : isRaw item.ident with
  | true => simp [PlainWhereNamed, raw]
  | false =>
      have loop := (addKeyFields_none_iff classes
        { fields := [], containedTypes := [], variableLength := false } item.fields
        item.pathsWritten).trans (panicsIn_iff item.fields)
      simp only [Bool.false_eq_true, if_false, Option.bind_some, Option.map_eq_none_iff, loop,
        PlainWhereNamed, raw, true_and]
      constructor
      · rintro ⟨front, field, back, split, valid, key, fieldValid, typePath, nested, isRaw⟩ plain
        rw [plain front field back typePath split valid key fieldValid nested] at isRaw
        cases isRaw
      · intro notPlain
        by_contra quiet
        apply notPlain
        intro front field back typePath split valid key fieldValid nested
        by_contra isRaw
        exact quiet ⟨front, field, back, split, valid, key, fieldValid, typePath, nested,
          by simpa using isRaw⟩

theorem buildKeyHolder_name (item : ItemStruct classes) (holderName : String)
    (holder : HolderStruct) (built : buildKeyHolder classes item = some (.ok (holderName, holder))) :
    holderName = unraw item.ident ++ "KeyHolder_" := by
  rw [buildKeyHolder, identNew_iff classes _ item.identWritten] at built
  cases raw : isRaw item.ident with
  | true => simp [raw] at built
  | false =>
      simp only [raw, Bool.false_eq_true, if_false, Option.bind_some] at built
      obtain ⟨outcome, -, named⟩ := Option.map_eq_some_iff.mp built
      cases outcome with
      | error message => cases named
      | ok holder =>
          cases named
          simp [unraw, raw]

/-- A holder that is built has the fields and the nested holders of the token model. -/
theorem buildKeyHolder_struct (item : ItemStruct classes) (holderName : String)
    (holder : HolderStruct) (built : buildKeyHolder classes item = some (.ok (holderName, holder))) :
    buildKeyHolderStruct item.fields = .ok holder := by
  rw [buildKeyHolder] at built
  obtain ⟨defined, -, looped⟩ := Option.bind_eq_some_iff.mp built
  obtain ⟨outcome, added, named⟩ := Option.map_eq_some_iff.mp looped
  cases outcome with
  | error message => cases named
  | ok same =>
      cases named
      exact addKeyFields_some classes _ item.fields _ added

theorem deriveTopicImpl_reported (item : ItemStruct classes) (reported : ReportedFirst classes item) :
    ∃ message, deriveTopicImpl classes item = some (.error message) := by
  rw [deriveTopicImpl]
  by_cases generic : item.generics = []
  · have reserved : unraw item.ident ∈ topicReservedIdents :=
      reported.resolve_left (fun named => named generic)
    have collides : topicReservedIdents.contains (unraw item.ident) = true := by
      simpa using reserved
    rw [checkNoGenerics, generic, checkReservedCollision, if_pos collides]
    exact ⟨_, rfl⟩
  · have named : item.generics.isEmpty = false := by simpa using generic
    rw [checkNoGenerics, named]
    exact ⟨_, rfl⟩

/-- Past the two first checks the holder is built, and no later step panics. -/
theorem deriveTopicImpl_unreported (item : ItemStruct classes)
    (unreported : ¬ ReportedFirst classes item) :
    deriveTopicImpl classes item =
      (buildKeyHolder classes item).map fun built => built.map fun named =>
        { holderName := named.1
          holder := named.2
          keyhash := (parseContainer classes item).map fun container =>
            { holderIdent := unraw item.ident ++ "KeyHolder_", container := container } } := by
  obtain ⟨generic, unreserved⟩ := not_or.mp unreported
  have free : topicReservedIdents.contains (unraw item.ident) = false := by
    simpa using unreserved
  rw [deriveTopicImpl, checkNoGenerics, not_not.mp generic, checkReservedCollision, free,
    createKeyhashFunctions, formatIdent_some classes _ item.identWritten]
  cases buildKeyHolder classes item with
  | none => rfl
  | some built =>
      cases built with
      | error message => rfl
      | ok named => rfl

theorem deriveTopicImpl_keyhash (item : ItemStruct classes) (code : TopicCode)
    (derived : deriveTopicImpl classes item = some (.ok code)) :
    code.keyhash = (parseContainer classes item).map fun container =>
      { holderIdent := unraw item.ident ++ "KeyHolder_", container := container } := by
  have unreported : ¬ ReportedFirst classes item := by
    intro reported
    obtain ⟨message, refused⟩ := deriveTopicImpl_reported classes item reported
    cases refused.symm.trans derived
  rw [deriveTopicImpl_unreported classes item unreported] at derived
  obtain ⟨built, -, outcome⟩ := Option.map_eq_some_iff.mp derived
  cases built with
  | error message => cases outcome
  | ok named =>
      cases outcome
      rfl

/-- `derive(Topic)` returns with consistent names exactly when it reports an error first or
meets no raw identifier where it names a holder. -/
theorem derives_consistently_iff (item : ItemStruct classes) :
    DerivesConsistently classes item ↔
      ReportedFirst classes item ∨ PlainWhereNamed classes item := by
  by_cases reported : ReportedFirst classes item
  · obtain ⟨message, derived⟩ := deriveTopicImpl_reported classes item reported
    refine iff_of_true ⟨_, derived, ?_⟩ (.inl reported)
    intro code returned
    cases returned
  · rw [DerivesConsistently, deriveTopicImpl_unreported classes item reported]
    constructor
    · rintro ⟨output, derived, -⟩
      refine .inr (by_contra fun panics => ?_)
      rw [(buildKeyHolder_none_iff classes item).mpr panics] at derived
      cases derived
    · rintro (first | plain)
      · exact absurd first reported
      · cases built : buildKeyHolder classes item with
        | none => exact absurd plain ((buildKeyHolder_none_iff classes item).mp built)
        | some outcome =>
            refine ⟨_, rfl, ?_⟩
            intro code returned
            cases outcome with
            | error message => cases returned
            | ok named =>
                cases returned
                have holderName := buildKeyHolder_name classes item named.1 named.2 built
                constructor
                · intro functions returned
                  cases parsed : parseContainer classes item with
                  | error message =>
                      rw [parsed] at returned
                      cases returned
                  | ok container =>
                      rw [parsed] at returned
                      cases returned
                      exact holderName.symm
                · intro typePath nested same derived
                  rw [nestedHolder_name classes typePath nested derived, same]
                  exact holderName.symm

end Derive

/-- The ASCII part of the tables. -/
def asciiClasses : IdentifierClasses where
  start := Char.isAlpha
  continues := fun c => c.isAlphanum || c == '_'
  ascii := List.all_eq_true.mp rfl
  hash := rfl

/-- `struct r#type` with one field, a key of type `u32`. -/
def rawItem : ItemStruct asciiClasses where
  ident := "r#type"
  generics := []
  attrs := []
  fields := [{ ident := some "id", attrs := ["topic_key"], ty := .path (.ident "u32") }]
  identWritten := rfl
  pathsWritten := by
    intro field held typePath written
    cases List.mem_singleton.mp held
    cases written
    rfl

theorem rawItem_panics : ¬ DerivesConsistently asciiClasses rawItem := by
  rintro ⟨output, derived, -⟩
  cases derived

end CycloneddsRs.TopicDerive
