import CycloneddsRs.InterfaceGen
import CycloneddsRs.NameGrammar
import CycloneddsRs.TopicDerive

/-!
`derive_dds_interface_impl` from the parsed item to its tokens, and what the generated code
of a whole program says. `none` is a panic of the macro. Text is given as in the other derive.
-/

namespace CycloneddsRs.InterfaceDerive

open CddsAttributes KeyHolder NameGrammar Naming
open TopicDerive (IdentifierClasses ItemStruct unraw)

inductive FieldsKind where
  | named
  | unnamed
  | unit
  deriving DecidableEq

/-- A struct item with the kind of its fields. -/
structure InterfaceItem (classes : IdentifierClasses) extends ItemStruct classes where
  kind : FieldsKind
  idents : kind = .named → ∀ field ∈ fields, ∃ name, field.ident = some name

def checkNoGenerics (deriveName : String) (generics : List String) : Except String Unit :=
  if generics.isEmpty then .ok ()
  else
    .error ("#[derive(" ++ deriveName ++
      ")]: generic or lifetime parameters are not supported")

def ddsInterfaceReservedIdents : List String :=
  ["InterfaceRef", "InterfaceDef", "InterfaceElem", "NsMode", "DefRegistry", "MsgDefRegistry"]

def checkReservedCollision (deriveName ident : String) (reserved : List String) :
    Except String Unit :=
  if reserved.contains (unraw ident) then
    .error ("#[derive(" ++ deriveName ++ ")]: struct name `" ++ unraw ident ++
      "` collides with a cyclonedds-rs identifier used by the generated code; rename the Rust " ++
      "struct (for DdsInterface, keep the wire name with #[cdds(name = \"" ++ unraw ident ++
      "\")])")
  else .ok ()

structure DdsInterfaceContainer where
  package : LitStr
  name : Option LitStr

def packageMessage (package reason : String) : String :=
  "#[cdds(package = \"" ++ package ++ "\")] is not a valid ROS 2 package name: " ++ reason ++
    "\n(must match [a-z][a-z0-9_]*, no trailing or consecutive underscores; see REP 144)"

def DdsInterfaceContainer.parse (attrs : List Attribute) : Except String DdsInterfaceContainer :=
  match parseCddsAttrs attrs with
  | .error message => .error message
  | .ok held =>
      match held.package with
      | none => .error "#[derive(DdsInterface)] requires #[cdds(package = \"...\")]"
      | some package =>
          match validateRosPackageName package.value with
          | .error reason => .error (packageMessage package.value reason)
          | .ok () => .ok { package := package, name := held.name }

/-- The name of the attribute, else that of the struct. -/
def DdsInterfaceContainer.structName (container : DdsInterfaceContainer) (ident : String) :
    String :=
  (container.name.map LitStr.value).getD (unraw ident)

def checkStructName (explicit : Bool) (name : String) : Except String Unit :=
  match validateRosTypeName name with
  | .ok () => .ok ()
  | .error reason =>
      if explicit then
        .error ("#[cdds(name = \"" ++ name ++ "\")] is not a valid ROS 2 message type name: " ++
          reason ++ "\n(must be UpperCamelCase: [A-Z][A-Za-z0-9]*, no underscores)")
      else
        .error ("#[derive(DdsInterface)]: struct name `" ++ name ++
          "` is not a valid ROS 2 message type name: " ++ reason ++
          "\n(must be UpperCamelCase: [A-Z][A-Za-z0-9]*, no underscores; override the wire " ++
          "name with #[cdds(name = \"...\")] if you want to keep this Rust identifier)")

def checkFieldNames : List SynField → Option (Except String Unit)
  | [] => some (.ok ())
  | field :: rest =>
      match field.ident with
      | none => none
      | some ident =>
          match validateMsgFieldName (unraw ident) with
          | .error reason =>
              some (.error ("#[derive(DdsInterface)]: field name `" ++ unraw ident ++
                "` is not a valid ROS 2 field name: " ++ reason))
          | .ok () => checkFieldNames rest

section Derive

variable {classes : IdentifierClasses}
/- What `syn` reads of the length of an array: the number, where it is an integer literal of
at most 128 bits. -/
variable (intLiteral : String → Option Nat)

def checkLengths : List SynField → Except String Unit
  | [] => .ok ()
  | field :: rest =>
      match field.ty with
      | .array _ len =>
          if intLiteral len = some 0 then
            .error ("#[derive(DdsInterface)]: zero-length arrays cannot be represented in " ++
              "ROS 2 .msg/IDL")
          else checkLengths rest
      | _ => checkLengths rest

def checkKeyTypes : List SynField → Except String Unit
  | [] => .ok ()
  | field :: rest =>
      if isKey field then
        match validateKeyFieldType field with
        | .error message => .error message
        | .ok () => checkKeyTypes rest
      else checkKeyTypes rest

/-- What the generated code interpolates. -/
structure InterfaceCode where
  structIdent : String
  escapedPackage : String
  package : String
  structName : String
  fieldTypes : List WrittenType
  fieldNameLits : List String
  keyPrefixLits : List String
  deriving DecidableEq

def generate (item : InterfaceItem classes) (package structName : String) : InterfaceCode :=
  { structIdent := item.ident
    escapedPackage := escapeIdlIdentifier package
    package := package
    structName := structName
    fieldTypes := item.fields.map SynField.ty
    fieldNameLits := item.fields.map fun field => unraw (field.ident.getD "")
    keyPrefixLits := item.fields.map fun field => if isKey field then "@key " else "" }

/-- The checks of the fields, in the order of the source. -/
def checkFields (fields : List SynField) : Option (Except String Unit) :=
  match checkFieldNames fields with
  | none => none
  | some (.error message) => some (.error message)
  | some (.ok ()) =>
      match checkLengths intLiteral fields with
      | .error message => some (.error message)
      | .ok () => some (checkKeyTypes fields)

/-- The checks before these, with the package and the name that they settle. -/
def checkItem (item : InterfaceItem classes) : Except String (String × String) := do
  checkNoGenerics "DdsInterface" item.generics
  checkReservedCollision "DdsInterface" item.ident ddsInterfaceReservedIdents
  let container ← DdsInterfaceContainer.parse item.attrs
  if item.kind ≠ .named then
    .error "#[derive(DdsInterface)] is only supported for structs with named fields"
  else if item.fields.isEmpty then
    .error ("#[derive(DdsInterface)]: empty structs cannot be represented in IDL; add a " ++
      "field\n(ROS 2 uses `uint8 structure_needs_at_least_one_member` for empty messages)")
  else
    checkStructName container.name.isSome (container.structName item.ident)
    return (container.package.value, container.structName item.ident)

def deriveDdsInterfaceImpl (item : InterfaceItem classes) :
    Option (Except String InterfaceCode) :=
  match checkItem item with
  | .error message => some (.error message)
  | .ok (package, structName) =>
      match checkFields intLiteral item.fields with
      | none => none
      | some (.error message) => some (.error message)
      | some (.ok ()) => some (.ok (generate item package structName))

/-! What is accepted -/

/-- The written type of a key: a number or text of a portable kind, an array of such, or a
path without arguments. -/
def KeyType (field : SynField) : Prop :=
  match field.ty with
  | .path typePath =>
      typePath.isUnportableIntPath = false ∧
        (typePath.isPrimitiveTypePath = true ∨ typePath.last.plain = true)
  | .array (.path elemPath) _ =>
      isKeyEnum field = false ∧ elemPath.isUnportableIntPath = false ∧
        elemPath.isPrimitiveTypePath = true
  | _ => False

/-- A field of an interface. -/
structure FieldAccepted (field : SynField) : Prop where
  name : ∃ ident, field.ident = some ident ∧ SnakeName (unraw ident).toList ∧
    isReservedKeyword (unraw ident) = false
  length : ∀ element len, field.ty = .array element len → intLiteral len ≠ some 0
  key : isKey field = true → KeyType field

/-- A struct that gets an interface, with the package and the name that it is given. -/
structure Accepted (item : InterfaceItem classes) (package structName : String) : Prop where
  noGenerics : item.generics = []
  unreserved : unraw item.ident ∉ ddsInterfaceReservedIdents
  attributes : ∃ held, parseCddsAttrs item.attrs = .ok held ∧
    held.package.map LitStr.value = some package ∧
    structName = (held.name.map LitStr.value).getD (unraw item.ident)
  package : SnakeName package.toList
  named : item.kind = .named
  nonempty : item.fields ≠ []
  structName : TypePattern structName.toList
  fields : ∀ field ∈ item.fields, FieldAccepted intLiteral field

theorem validateMsgFieldName_iff (name : String) :
    validateMsgFieldName name = .ok () ↔
      SnakeName name.toList ∧ isReservedKeyword name = false := by
  rw [← validate_snakeName, validateMsgFieldName]
  cases validateLowerSnakeCase name with
  | error reason => simp
  | ok _ => cases reserved : isReservedKeyword name <;> simp [rejectReservedKeyword, reserved]

theorem validateKeyFieldType_iff (field : SynField) (ident : String)
    (named : field.ident = some ident) :
    validateKeyFieldType field = .ok () ↔ KeyType field := by
  have held : field.ident.isNone = false := by rw [named]; rfl
  cases shape : field.ty with
  | path typePath =>
      cases unportable : typePath.isUnportableIntPath <;>
        cases primitive : typePath.isPrimitiveTypePath <;>
        cases enumKey : isKeyEnum field <;>
        cases plain : typePath.last.plain <;>
        simp [validateKeyFieldType, KeyType, isUnportableInt, isPrimitive, held, shape,
          unportable, primitive, enumKey, plain]
  | array element len =>
      cases element with
      | path elemPath =>
          cases unportable : elemPath.isUnportableIntPath <;>
            cases primitive : elemPath.isPrimitiveTypePath <;>
            cases enumKey : isKeyEnum field <;>
            simp [validateKeyFieldType, KeyType, isUnportableInt, isPrimitive, held, shape,
              unportable, primitive, enumKey]
      | array | other =>
          cases enumKey : isKeyEnum field <;>
            simp [validateKeyFieldType, KeyType, isUnportableInt, isPrimitive, held, shape,
              enumKey]
  | other tokens =>
      cases enumKey : isKeyEnum field <;>
        simp [validateKeyFieldType, KeyType, isUnportableInt, isPrimitive, held, shape, enumKey]

theorem checkFieldNames_iff (fields : List SynField)
    (named : ∀ field ∈ fields, ∃ name, field.ident = some name) :
    checkFieldNames fields ≠ none ∧ (checkFieldNames fields = some (.ok ()) ↔
      ∀ field ∈ fields, ∃ ident, field.ident = some ident ∧ SnakeName (unraw ident).toList ∧
        isReservedKeyword (unraw ident) = false) := by
  induction fields with
  | nil => simp [checkFieldNames]
  | cons field rest ih =>
      obtain ⟨⟨ident, held⟩, others⟩ := List.forall_mem_cons.mp named
      obtain ⟨total, exact⟩ := ih others
      have valid := validateMsgFieldName_iff (unraw ident)
      rw [List.forall_mem_cons]
      cases checked : validateMsgFieldName (unraw ident) with
      | error reason =>
          have stops : ∃ message, checkFieldNames (field :: rest) = some (.error message) := by
            simp only [checkFieldNames, held, checked]
            exact ⟨_, rfl⟩
          obtain ⟨message, stopped⟩ := stops
          rw [stopped]
          refine ⟨by simp, by simp, ?_⟩
          rintro ⟨⟨same, found, accepted⟩, -⟩
          cases held.symm.trans found
          rw [← valid, checked] at accepted
          cases accepted
      | ok _ =>
          have passes : checkFieldNames (field :: rest) = checkFieldNames rest := by
            simp only [checkFieldNames, held, checked]
          rw [passes]
          refine ⟨total, exact.trans ?_⟩
          constructor
          · intro later
            exact ⟨⟨ident, held, valid.mp checked⟩, later⟩
          · rintro ⟨-, later⟩
            exact later

theorem checkLengths_iff (fields : List SynField) :
    checkLengths intLiteral fields = .ok () ↔
      ∀ field ∈ fields, ∀ element len, field.ty = .array element len →
        intLiteral len ≠ some 0 := by
  induction fields with
  | nil => simp [checkLengths]
  | cons field rest ih =>
      rw [List.forall_mem_cons, checkLengths, ← ih]
      cases shape : field.ty with
      | array element len => by_cases zero : intLiteral len = some 0 <;> simp [zero]
      | path | other => simp

theorem checkKeyTypes_iff (fields : List SynField)
    (named : ∀ field ∈ fields, ∃ name, field.ident = some name) :
    checkKeyTypes fields = .ok () ↔ ∀ field ∈ fields, isKey field = true → KeyType field := by
  induction fields with
  | nil => simp [checkKeyTypes]
  | cons field rest ih =>
      obtain ⟨⟨ident, held⟩, others⟩ := List.forall_mem_cons.mp named
      rw [List.forall_mem_cons, checkKeyTypes, ← ih others,
        ← validateKeyFieldType_iff field ident held]
      cases key : isKey field with
      | false => simp
      | true => cases validateKeyFieldType field <;> simp

/-- Named fields never make the macro panic. -/
theorem checkFields_iff (fields : List SynField)
    (named : ∀ field ∈ fields, ∃ name, field.ident = some name) :
    checkFields intLiteral fields ≠ none ∧
      (checkFields intLiteral fields = some (.ok ()) ↔
        ∀ field ∈ fields, FieldAccepted intLiteral field) := by
  obtain ⟨total, names⟩ := checkFieldNames_iff fields named
  have lengths := checkLengths_iff intLiteral fields
  have keys := checkKeyTypes_iff fields named
  have split : (∀ field ∈ fields, FieldAccepted intLiteral field) ↔
      checkFieldNames fields = some (.ok ()) ∧ checkLengths intLiteral fields = .ok () ∧
        checkKeyTypes fields = .ok () := by
    rw [names, lengths, keys]
    constructor
    · intro all
      exact ⟨fun field member => (all field member).name,
        fun field member => (all field member).length,
        fun field member => (all field member).key⟩
    · rintro ⟨name, length, key⟩ field member
      exact ⟨name field member, length field member, key field member⟩
  rw [split, checkFields]
  cases checked : checkFieldNames fields with
  | none => exact absurd checked total
  | some outcome =>
      cases outcome with
      | error message => simp
      | ok _ => cases checkLengths intLiteral fields <;> simp

theorem parse_iff (attrs : List Attribute) (container : DdsInterfaceContainer) :
    DdsInterfaceContainer.parse attrs = .ok container ↔
      ∃ held, parseCddsAttrs attrs = .ok held ∧ held.package = some container.package ∧
        held.name = container.name ∧ SnakeName container.package.value.toList := by
  rw [DdsInterfaceContainer.parse]
  cases parsed : parseCddsAttrs attrs with
  | error message => simp
  | ok held =>
      cases given : held.package with
      | none => simp [given]
      | some package =>
          have valid := validate_snakeName package.value
          rw [← validateRosPackageName] at valid
          obtain ⟨chosen, name⟩ := container
          cases checked : validateRosPackageName package.value with
          | error reason =>
              simp only [given, checked, reduceCtorEq, Except.ok.injEq, exists_eq_left',
                Option.some.injEq, false_iff]
              rintro ⟨rfl, -, accepted⟩
              rw [← valid, checked] at accepted
              cases accepted
          | ok _ =>
              simp only [given, checked, Except.ok.injEq, exists_eq_left', Option.some.injEq,
                DdsInterfaceContainer.mk.injEq]
              constructor
              · rintro ⟨rfl, rfl⟩
                exact ⟨rfl, rfl, valid.mp checked⟩
              · rintro ⟨rfl, rfl, -⟩
                exact ⟨rfl, rfl⟩

theorem checkNoGenerics_iff (deriveName : String) (generics : List String) :
    checkNoGenerics deriveName generics = .ok () ↔ generics = [] := by
  rw [checkNoGenerics]
  cases generics <;> simp

theorem checkReservedCollision_iff (deriveName ident : String) (reserved : List String) :
    checkReservedCollision deriveName ident reserved = .ok () ↔ unraw ident ∉ reserved := by
  rw [checkReservedCollision]
  by_cases held : unraw ident ∈ reserved <;> simp [held]

theorem checkStructName_iff (explicit : Bool) (name : String) :
    checkStructName explicit name = .ok () ↔ TypePattern name.toList := by
  rw [← validateRosTypeName_iff, checkStructName]
  cases validateRosTypeName name <;> cases explicit <;> simp

theorem check_bind_ok {β : Type} (check : Except String Unit) (next : Unit → Except String β)
    (result : β) : check >>= next = .ok result ↔ check = .ok () ∧ next () = .ok result :=
  (bind_ok_iff check next result).trans ⟨fun ⟨_, passed, rest⟩ => ⟨passed, rest⟩,
    fun ⟨passed, rest⟩ => ⟨(), passed, rest⟩⟩

theorem checkItem_iff (item : InterfaceItem classes) (package structName : String) :
    checkItem item = .ok (package, structName) ↔
      item.generics = [] ∧ unraw item.ident ∉ ddsInterfaceReservedIdents ∧
        ∃ container, DdsInterfaceContainer.parse item.attrs = .ok container ∧
          item.kind = .named ∧ item.fields ≠ [] ∧
          TypePattern (container.structName item.ident).toList ∧
          container.package.value = package ∧ container.structName item.ident = structName := by
  rw [checkItem, check_bind_ok, check_bind_ok, bind_ok_iff, checkNoGenerics_iff,
    checkReservedCollision_iff]
  refine and_congr_right fun _ => and_congr_right fun _ => exists_congr fun container =>
    and_congr_right fun _ => ?_
  by_cases named : item.kind = .named
  case neg => simp [named]
  case pos =>
    cases members : item.fields with
    | nil => simp [named]
    | cons field rest =>
        simp [named, check_bind_ok, checkStructName_iff, pure, Except.pure]

/-- The macro never panics. It generates code for exactly the accepted structs: with the
package of the attribute and the name of the attribute, else of the struct. -/
theorem derive_exact (item : InterfaceItem classes) :
    deriveDdsInterfaceImpl intLiteral item ≠ none ∧
      ∀ code, deriveDdsInterfaceImpl intLiteral item = some (.ok code) ↔
        ∃ package structName, Accepted intLiteral item package structName ∧
          code = generate item package structName := by
  have settled : ∀ package structName, Accepted intLiteral item package structName ↔
      checkItem item = .ok (package, structName) ∧
        ∀ field ∈ item.fields, FieldAccepted intLiteral field := by
    intro package structName
    rw [checkItem_iff]
    constructor
    · intro accepted
      obtain ⟨held, parsed, given, name⟩ := accepted.attributes
      obtain ⟨lit, found, rfl⟩ := Option.map_eq_some_iff.mp given
      refine ⟨⟨accepted.noGenerics, accepted.unreserved, ⟨lit, held.name⟩, ?_, accepted.named,
        accepted.nonempty, ?_, rfl, name.symm⟩, accepted.fields⟩
      · exact (parse_iff _ _).mpr ⟨held, parsed, found, rfl, accepted.package⟩
      · have pattern := accepted.structName
        rw [name] at pattern
        exact pattern
    · rintro ⟨⟨noGenerics, unreserved, container, parsed, named, nonempty, pattern, rfl, rfl⟩,
        fields⟩
      obtain ⟨held, read, given, name, snake⟩ := (parse_iff _ _).mp parsed
      refine ⟨noGenerics, unreserved, ⟨held, read, ?_, ?_⟩, snake, named, nonempty, pattern, fields⟩
      · rw [given]
        rfl
      · rw [name]
        rfl
  simp only [settled, deriveDdsInterfaceImpl]
  cases checked : checkItem item with
  | error message => simp
  | ok settledNames =>
      obtain ⟨package, structName⟩ := settledNames
      obtain ⟨-, -, container, -, named, -⟩ := (checkItem_iff item package structName).mp checked
      obtain ⟨total, exact⟩ := checkFields_iff intLiteral item.fields (item.idents named)
      cases fields : checkFields intLiteral item.fields with
      | none => exact absurd fields total
      | some outcome =>
          rw [fields] at exact
          cases outcome with
          | error message =>
              refine ⟨by simp, fun code => ⟨by simp, ?_⟩⟩
              rintro ⟨_, _, ⟨-, accepted⟩, -⟩
              cases exact.mpr accepted
          | ok _ =>
              refine ⟨by simp, fun code => ⟨?_, ?_⟩⟩
              · intro generated
                cases generated
                exact ⟨package, structName, ⟨rfl, exact.mp rfl⟩, rfl⟩
              · rintro ⟨_, _, ⟨same, -⟩, rfl⟩
                cases same
                rfl

end Derive

/-! ## The generated code -/

section Program

open InterfaceGen

universe u v w
variable {Node : Type u} {classes : IdentifierClasses} {intLiteral : String → Option Nat}

/-- Structs with interfaces, the code that they get, and the types that the written types of
their fields stand for. -/
structure InterfaceProgram (classes : IdentifierClasses) (intLiteral : String → Option Nat)
    (Node : Type u) where
  item : Node → InterfaceItem classes
  code : Node → InterfaceCode
  derived : ∀ node, deriveDdsInterfaceImpl intLiteral (item node) = some (.ok (code node))
  scope : Node → WrittenType → InterfaceRef Node

namespace InterfaceProgram

variable (program : InterfaceProgram classes intLiteral Node)

def structIdlRef (mode : NsMode) (node : Node) : String :=
  mode.idlTypeRef (program.code node).escapedPackage (program.code node).structName

def structMsgRef (node : Node) : String :=
  (program.code node).package ++ "/" ++ (program.code node).structName

def elemIdlRef (mode : NsMode) : InterfaceElem Node → String
  | .primitive kind => kind.idlRef
  | .struct node => program.structIdlRef mode node

def elemMsgRef : InterfaceElem Node → String
  | .primitive kind => kind.msgRef
  | .struct node => program.structMsgRef node

def idlRef (mode : NsMode) : InterfaceRef Node → String
  | .elem element => program.elemIdlRef mode element
  | .vec element => "sequence<" ++ program.elemIdlRef mode element ++ ">"
  | .array element _ _ => program.elemIdlRef mode element

def msgRef : InterfaceRef Node → String
  | .elem element => program.elemMsgRef element
  | .vec element => program.elemMsgRef element ++ "[]"
  | .array element n _ => program.elemMsgRef element ++ "[" ++ toString n ++ "]"

def idlField (name : String) (mode : NsMode) (ty : InterfaceRef Node) : String :=
  match ty with
  | .array element n _ =>
      program.elemIdlRef mode element ++ " " ++ name ++ "[" ++ toString n ++ "];"
  | ty => program.idlRef mode ty ++ " " ++ name ++ ";"

/-- One line for each position of the three interpolated lists. -/
def idlDef (mode : NsMode) (node : Node) : String :=
  let code := program.code node
  let lines := (code.keyPrefixLits.zip (code.fieldTypes.zip code.fieldNameLits)).map
    fun line => "  " ++ line.1 ++
      program.idlField line.2.2 mode (program.scope node line.2.1) ++ "\n"
  mode.idlModuleOpen code.escapedPackage ++
    ("struct " ++ mode.idlTypeName code.structName ++ " \x7b\n") ++ String.join lines ++
    "\x7d;\n" ++ mode.idlModuleClose

def msgDef (node : Node) : String :=
  let code := program.code node
  String.join ((code.fieldTypes.zip code.fieldNameLits).map fun line =>
    program.msgRef (program.scope node line.1) ++ " " ++ line.2 ++ "\n")

def typeKey (node : Node) : TypeKey :=
  ((program.code node).package, (program.code node).structName)

def enterDef (reg : DefRegistry) (node : Node) : Except Halt (Bool × DefRegistry) :=
  match enterKey reg.seen reg.visiting (program.typeKey node) (program.idlDef reg.mode node) with
  | .error halt => .error halt
  | .ok false => .ok (false, reg)
  | .ok true => .ok (true, { reg with visiting := reg.visiting ++ [program.typeKey node] })

def finishDef (reg : DefRegistry) (node : Node) : Except Halt DefRegistry :=
  if reg.visiting.getLast? = some (program.typeKey node) then
    .ok { reg with
      visiting := reg.visiting.dropLast
      entries := reg.entries ++ [program.idlDef reg.mode node]
      seen := (program.typeKey node, program.idlDef reg.mode node) :: reg.seen }
  else
    .error (.panic "DefRegistry::finish called out of order or without matching enter")

def enterMsgDef (reg : MsgDefRegistry) (node : Node) : Except Halt (Bool × MsgDefRegistry) :=
  match enterKey reg.seen reg.visiting (program.typeKey node) (program.msgDef node) with
  | .error halt => .error halt
  | .ok false => .ok (false, reg)
  | .ok true => .ok (true, { reg with
      visiting := reg.visiting ++ [program.typeKey node]
      entries := reg.entries ++ [(program.structMsgRef node, program.msgDef node)] })

def finishMsgDef (reg : MsgDefRegistry) (node : Node) : Except Halt MsgDefRegistry :=
  if reg.visiting.getLast? = some (program.typeKey node) then
    .ok { reg with
      visiting := reg.visiting.dropLast
      seen := (program.typeKey node, program.msgDef node) :: reg.seen }
  else
    .error (.panic "MsgDefRegistry::finish called out of order or without matching enter")

/-- The generated body of both collections, one call for each interpolated field type. -/
def collect {Registry : Type v} (enter : Registry → Node → Except Halt (Bool × Registry))
    (finish : Registry → Node → Except Halt Registry) :
    Nat → Registry → Node → Except Halt Registry
  | 0, _, _ => .error .outOfFuel
  | fuel + 1, reg, node =>
      match enter reg node with
      | .error halt => .error halt
      | .ok (false, reg) => .ok reg
      | .ok (true, reg) =>
          match (program.code node).fieldTypes.foldlM (fun reg ty =>
            (program.scope node ty).collect (collect enter finish fuel) reg) reg with
          | .error halt => .error halt
          | .ok reg => finish reg node

def idl (fuel : Nat) (mode : NsMode) (node : Node) : Except Halt String :=
  match program.collect program.enterDef program.finishDef fuel (.new mode) node with
  | .error halt => .error halt
  | .ok reg => .ok (String.join reg.entries)

def fullRos2Msg (fuel : Nat) (node : Node) : Except Halt String :=
  match program.collect program.enterMsgDef program.finishMsgDef fuel .new node with
  | .error halt => .error halt
  | .ok reg => .ok reg.render

/-! The schema of a program -/

theorem code_accepted (node : Node) :
    Accepted intLiteral (program.item node) (program.code node).package
        (program.code node).structName ∧
      program.code node = generate (program.item node) (program.code node).package
        (program.code node).structName := by
  obtain ⟨-, exact⟩ := derive_exact intLiteral (program.item node)
  obtain ⟨package, structName, accepted, generated⟩ := (exact _).mp (program.derived node)
  rw [generated]
  exact ⟨accepted, rfl⟩

def memberName (field : SynField) : String := unraw (field.ident.getD "")

theorem memberName_accepted (node : Node) (field : SynField)
    (member : field ∈ (program.item node).fields) :
    validateMsgFieldName (memberName field) = .ok () := by
  obtain ⟨accepted, -⟩ := program.code_accepted node
  obtain ⟨ident, named, snake, free⟩ := (accepted.fields field member).name
  rw [memberName, named]
  exact (validateMsgFieldName_iff (unraw ident)).mpr ⟨snake, free⟩

/-- The checks of the macro are what a schema asks of its structs. -/
def schema : Schema Node := fun node =>
  { package := (program.code node).package
    name := (program.code node).structName
    fields := (program.item node).fields.pmap
      (fun field accepted =>
        { name := memberName field
          isKey := isKey field
          ty := program.scope node field.ty
          nameAccepted := accepted })
      (program.memberName_accepted node)
    packageAccepted := (validate_snakeName _).mpr (program.code_accepted node).1.package
    nameAccepted := (validateRosTypeName_iff _).mpr (program.code_accepted node).1.structName
    nonempty := by
      have some := (program.code_accepted node).1.nonempty
      rwa [ne_eq, List.pmap_eq_nil_iff] }

theorem schema_fields {Line : Type w} (line : String → Bool → InterfaceRef Node → Line)
    (node : Node) :
    (program.schema node).fields.map (fun field => line field.name field.isKey field.ty) =
      (program.item node).fields.map fun field =>
        line (memberName field) (isKey field) (program.scope node field.ty) := by
  simp only [schema, List.map_pmap]
  exact List.pmap_eq_map _

theorem structIdlRef_schema (mode : NsMode) (node : Node) :
    program.structIdlRef mode node =
      mode.idlTypeRef (escapeIdlIdentifier (program.schema node).package)
        (program.schema node).name := by
  obtain ⟨-, generated⟩ := program.code_accepted node
  rw [structIdlRef, generated]
  rfl

theorem elemIdlRef_schema (mode : NsMode) (element : InterfaceElem Node) :
    program.elemIdlRef mode element = element.idlRef program.schema mode := by
  cases element with
  | primitive kind => rfl
  | struct node => exact program.structIdlRef_schema mode node

theorem elemMsgRef_schema (element : InterfaceElem Node) :
    program.elemMsgRef element = element.msgRef program.schema := by
  cases element <;> rfl

theorem idlField_schema (name : String) (mode : NsMode) (ty : InterfaceRef Node) :
    program.idlField name mode ty = ty.idlField program.schema name mode := by
  cases ty <;>
    simp only [idlField, idlRef, InterfaceRef.idlField, InterfaceRef.idlRef, elemIdlRef_schema]

theorem msgRef_schema (ty : InterfaceRef Node) : program.msgRef ty = ty.msgRef program.schema := by
  cases ty <;> simp only [msgRef, InterfaceRef.msgRef, elemMsgRef_schema]

theorem idlDef_schema (mode : NsMode) (node : Node) :
    program.idlDef mode node = InterfaceGen.idlDef program.schema mode node := by
  obtain ⟨-, generated⟩ := program.code_accepted node
  have lines := program.schema_fields (fun name isKey ty => "  " ++
    (if isKey then "@key " else "") ++ ty.idlField program.schema name mode ++ "\n") node
  have same : (program.schema node).fields.map (idlLine program.schema mode) =
      (program.schema node).fields.map fun field => "  " ++
        (if field.isKey then "@key " else "") ++
          field.ty.idlField program.schema field.name mode ++ "\n" := rfl
  rw [InterfaceGen.idlDef, same, lines, idlDef, generated]
  simp only [generate, List.zip_map', List.map_map, idlField_schema]
  rfl

theorem msgDef_schema (node : Node) :
    program.msgDef node = InterfaceGen.msgDef program.schema node := by
  obtain ⟨-, generated⟩ := program.code_accepted node
  have lines := program.schema_fields (fun name _ ty =>
    ty.msgRef program.schema ++ " " ++ name ++ "\n") node
  have same : (program.schema node).fields.map (msgLine program.schema) =
      (program.schema node).fields.map fun field =>
        field.ty.msgRef program.schema ++ " " ++ field.name ++ "\n" := rfl
  rw [InterfaceGen.msgDef, same, lines, msgDef, generated]
  simp only [generate, List.zip_map', List.map_map, msgRef_schema]
  rfl

theorem enterDef_schema : program.enterDef = DefRegistry.enter program.schema := by
  funext reg node
  rw [enterDef, DefRegistry.enter, idlDef_schema]
  rfl

theorem finishDef_schema : program.finishDef = DefRegistry.finish program.schema := by
  funext reg node
  rw [finishDef, DefRegistry.finish, idlDef_schema]
  rfl

theorem enterMsgDef_schema : program.enterMsgDef = MsgDefRegistry.enter program.schema := by
  funext reg node
  rw [enterMsgDef, MsgDefRegistry.enter, msgDef_schema]
  rfl

theorem finishMsgDef_schema : program.finishMsgDef = MsgDefRegistry.finish program.schema := by
  funext reg node
  rw [finishMsgDef, MsgDefRegistry.finish, msgDef_schema]
  rfl

/-- The interpolated field types are those of the schema's members, in the same order. -/
theorem fieldTypes_schema (node : Node) :
    (program.code node).fieldTypes.map (program.scope node) =
      (program.schema node).fields.map FieldItem.ty := by
  obtain ⟨-, generated⟩ := program.code_accepted node
  have types := program.schema_fields (fun _ _ ty => ty) node
  refine Eq.trans ?_ types.symm
  rw [generated, generate, List.map_map]
  rfl

theorem collect_schema {Registry : Type v}
    (enter : Registry → Node → Except Halt (Bool × Registry))
    (finish : Registry → Node → Except Halt Registry) (fuel : Nat) :
    program.collect enter finish fuel = collectStruct program.schema enter finish fuel := by
  induction fuel with
  | zero => rfl
  | succ fuel ih =>
      funext reg node
      have fold : ∀ reg, (program.code node).fieldTypes.foldlM (fun reg ty =>
            (program.scope node ty).collect (program.collect enter finish fuel) reg) reg =
          (program.schema node).fields.foldlM (fun reg field =>
            field.ty.collect (collectStruct program.schema enter finish fuel) reg) reg := by
        intro reg
        have mapped := congrArg (fun types : List (InterfaceRef Node) => types.foldlM (fun reg ty =>
          ty.collect (collectStruct program.schema enter finish fuel) reg) reg)
          (program.fieldTypes_schema node)
        rw [ih]
        simpa only [List.foldlM_map] using mapped
      rw [collect]
      simp only [fold]
      rfl

end InterfaceProgram

/-- A program whose structs get interfaces is a schema: the texts that its generated code
writes, for one struct or for all that one reaches, are those of the schema whose structs have
the attributes' packages and names and the fields' plain names, key marks and types. Where the
other derive generates code for one of the structs, that code names the type on the wire as
references to the struct do. -/
theorem program_is_schema (program : InterfaceProgram classes intLiteral Node) :
    ∃ schema : Schema Node,
      (∀ node, Accepted intLiteral (program.item node) (schema node).package (schema node).name ∧
        (schema node).fields.map (fun field => (field.name, field.isKey, field.ty)) =
          (program.item node).fields.map fun field =>
            (unraw (field.ident.getD ""), isKey field, program.scope node field.ty)) ∧
      (∀ fuel mode node, program.idl fuel mode node = InterfaceGen.idl schema fuel mode node ∧
        program.fullRos2Msg fuel node = InterfaceGen.fullRos2Msg schema fuel node ∧
        program.idlDef mode node = InterfaceGen.idlDef schema mode node ∧
        program.msgDef node = InterfaceGen.msgDef schema node) ∧
      ∀ node topic,
        TopicDerive.deriveTopicImpl classes (program.item node).toItemStruct = some (.ok topic) →
          topic.keyhash.map (fun functions => functions.container.typename) =
            .ok (some (InterfaceElem.msgRef schema (.struct node))) := by
  refine ⟨program.schema, fun node => ⟨(program.code_accepted node).1, ?_⟩,
    fun fuel mode node => ⟨?_, ?_, program.idlDef_schema mode node, program.msgDef_schema node⟩,
    fun node topic derived => ?_⟩
  · exact program.schema_fields (fun name isKey ty => (name, isKey, ty)) node
  · rw [InterfaceProgram.idl, program.collect_schema, program.enterDef_schema,
      program.finishDef_schema]
    rfl
  · rw [InterfaceProgram.fullRos2Msg, program.collect_schema, program.enterMsgDef_schema,
      program.finishMsgDef_schema]
    rfl
  · obtain ⟨held, read, given, name⟩ := (program.code_accepted node).1.attributes
    obtain ⟨package, found, same⟩ := Option.map_eq_some_iff.mp given
    rw [TopicDerive.deriveTopicImpl_keyhash classes _ topic derived, TopicDerive.parseContainer,
      read]
    simp only [Except.map, found, Option.map_some, ← name, same]
    rfl

end Program

/-- `#[cdds(package = "map")] struct Status { #[topic_key] id: u32, r#stamp: u64 }` -/
def statusItem : InterfaceItem TopicDerive.asciiClasses :=
  { ident := "Status"
    generics := []
    attrs := [.list (.ident "cdds") .paren
      [.parsed (.nameValue (.ident "package") (.litStr ⟨"map"⟩))]]
    fields := [{ ident := some "id", attrs := ["topic_key"], ty := .path (.ident "u32") },
      { ident := some "r#stamp", attrs := [], ty := .path (.ident "u64") }]
    identWritten := rfl
    pathsWritten := by
      intro field held typePath written
      rcases List.mem_pair.mp held with rfl | rfl
      · cases written
        rfl
      · cases written
        rfl
    kind := .named
    idents := by
      intro _ field held
      rcases List.mem_pair.mp held with rfl | rfl
      · exact ⟨"id", rfl⟩
      · exact ⟨"r#stamp", rfl⟩ }

/-- The package is a keyword of IDL, so the module has another name than the package. -/
def statusCode : InterfaceCode :=
  { structIdent := "Status", escapedPackage := "_map", package := "map", structName := "Status"
    fieldTypes := [.path (.ident "u32"), .path (.ident "u64")]
    fieldNameLits := ["id", "stamp"], keyPrefixLits := ["@key ", ""] }

/-- `#[cdds(package = "fleet", name = "StatusReport")] struct Report { status: Status }` -/
def reportItem : InterfaceItem TopicDerive.asciiClasses :=
  { ident := "Report"
    generics := []
    attrs := [.list (.ident "cdds") .paren
      [.parsed (.nameValue (.ident "package") (.litStr ⟨"fleet"⟩)),
        .parsed (.nameValue (.ident "name") (.litStr ⟨"StatusReport"⟩))]]
    fields := [{ ident := some "status", attrs := [], ty := .path (.ident "Status") }]
    identWritten := rfl
    pathsWritten := by
      intro field held typePath written
      cases List.mem_singleton.mp held
      cases written
      rfl
    kind := .named
    idents := by
      intro _ field held
      cases List.mem_singleton.mp held
      exact ⟨"status", rfl⟩ }

def reportCode : InterfaceCode :=
  { structIdent := "Report", escapedPackage := "fleet", package := "fleet"
    structName := "StatusReport", fieldTypes := [.path (.ident "Status")]
    fieldNameLits := ["status"], keyPrefixLits := [""] }

theorem statusItem_derived :
    deriveDdsInterfaceImpl String.toNat? statusItem = some (.ok statusCode) := by
  decide +kernel

theorem reportItem_derived :
    deriveDdsInterfaceImpl String.toNat? reportItem = some (.ok reportCode) := by
  decide +kernel

inductive FleetType where
  | status
  | report

/-- A report refers to a status, which stands alone. -/
def fleetProgram :
    InterfaceProgram TopicDerive.asciiClasses String.toNat? FleetType where
  item
    | .status => statusItem
    | .report => reportItem
  code
    | .status => statusCode
    | .report => reportCode
  derived node := by
    cases node with
    | status => exact statusItem_derived
    | report => exact reportItem_derived
  scope _ ty :=
    if ty = .path (.ident "u32") then .elem (.primitive .u32)
    else if ty = .path (.ident "u64") then .elem (.primitive .u64)
    else .elem (.struct .status)

example : fleetProgram.msgDef .report = "map/Status status\n" := by decide +kernel

theorem program_is_schema_fleet : ∃ schema : InterfaceGen.Schema FleetType,
    fleetProgram.idlDef .ros2dds .report = InterfaceGen.idlDef schema .ros2dds .report ∧
      ∃ topic,
        TopicDerive.deriveTopicImpl TopicDerive.asciiClasses statusItem.toItemStruct =
            some (.ok topic) ∧
          topic.keyhash.map (fun functions => functions.container.typename) =
            .ok (some (InterfaceGen.InterfaceElem.msgRef schema (.struct .status))) := by
  obtain ⟨schema, -, texts, named⟩ := program_is_schema fleetProgram
  exact ⟨schema, (texts 0 .ros2dds .report).2.2.1, _, rfl, named .status _ rfl⟩

end CycloneddsRs.InterfaceDerive
