import CycloneddsRs.Naming

/-!
`interface_gen.rs` with the code that `derive(DdsInterface)` generates: the texts of
IDL and `.msg` definitions, and the two registries that collect them along the field
types. A program's types are the nodes of a schema. Rust's recursion has no bound, the
model's has fuel; a panic carries its message.
-/

namespace CycloneddsRs.InterfaceGen

open Naming

/-! Namespaces -/

inductive NsMode where
  | raw
  | withMiddle (middle : String)
  | withMiddleSuffix (middle suffix : String)
  deriving DecidableEq

namespace NsMode

def ros2idl : NsMode := .withMiddle "msg"

def ros2dds : NsMode := .withMiddleSuffix "msg::dds_" "_"

def middle : NsMode → Option String
  | .raw => none
  | .withMiddle mid => some mid
  | .withMiddleSuffix mid _ => some mid

/-- `str::split("::")`, leftmost first. -/
def splitPath : List Char → List (List Char)
  | [] => [[]]
  | ':' :: ':' :: rest => [] :: splitPath rest
  | c :: rest =>
      match splitPath rest with
      | [] => [[c]]
      | segment :: segments => (c :: segment) :: segments

/-- Empty segments open no module: `WithMiddle("")` has one module only. -/
def middleSegments (mode : NsMode) : List String :=
  match mode.middle with
  | none => []
  | some mid => ((splitPath mid.toList).filter (· ≠ [])).map String.ofList

def typeSuffix : NsMode → String
  | .withMiddleSuffix _ suffix => suffix
  | _ => ""

def idlTypeName (mode : NsMode) (name : String) : String := name ++ mode.typeSuffix

def idlTypeRef (mode : NsMode) (package name : String) : String :=
  match mode.middle with
  | none => package ++ "::" ++ mode.idlTypeName name
  | some mid => package ++ "::" ++ mid ++ "::" ++ mode.idlTypeName name

def idlModuleOpen (mode : NsMode) (package : String) : String :=
  "module " ++ package ++ " \x7b" ++
    String.join (mode.middleSegments.map fun segment => " module " ++ segment ++ " \x7b") ++ "\n"

def idlModuleClose (mode : NsMode) : String :=
  String.join (List.replicate (1 + mode.middleSegments.length) "\x7d;") ++ "\n"

end NsMode

example : (NsMode.withMiddle "a::::b").middleSegments = ["a", "b"] := by decide

/-! Types -/

inductive Primitive where
  | bool | u8 | i8 | i16 | u16 | i32 | u32 | i64 | u64 | f32 | f64 | string
  deriving DecidableEq

def Primitive.idlRef : Primitive → String
  | .bool => "boolean"
  | .u8 => "octet"
  | .i8 => "int8"
  | .i16 => "short"
  | .u16 => "unsigned short"
  | .i32 => "long"
  | .u32 => "unsigned long"
  | .i64 => "long long"
  | .u64 => "unsigned long long"
  | .f32 => "float"
  | .f64 => "double"
  | .string => "string"

def Primitive.msgRef : Primitive → String
  | .bool => "bool"
  | .u8 => "uint8"
  | .i8 => "int8"
  | .i16 => "int16"
  | .u16 => "uint16"
  | .i32 => "int32"
  | .u32 => "uint32"
  | .i64 => "int64"
  | .u64 => "uint64"
  | .f32 => "float32"
  | .f64 => "float64"
  | .string => "string"

universe u v

/-- What may stand inside a `Vec` or an array: containers do not nest. -/
inductive InterfaceElem (Node : Type u) where
  | primitive (kind : Primitive)
  | struct (node : Node)

inductive InterfaceRef (Node : Type u) where
  | elem (element : InterfaceElem Node)
  | vec (element : InterfaceElem Node)
  | array (element : InterfaceElem Node) (n : Nat) (positive : 0 < n)

structure FieldItem (Node : Type u) where
  name : String
  isKey : Bool
  ty : InterfaceRef Node
  nameAccepted : validateMsgFieldName name = .ok ()

def FieldItem.unkeyed {Node : Type u} (name : String) (ty : InterfaceRef Node)
    (accepted : validateMsgFieldName name = .ok ()) : FieldItem Node :=
  { name := name, isKey := false, ty := ty, nameAccepted := accepted }

/-- A struct that `derive(DdsInterface)` accepts. -/
structure StructItem (Node : Type u) where
  package : String
  name : String
  fields : List (FieldItem Node)
  packageAccepted : validateRosPackageName package = .ok ()
  nameAccepted : validateRosTypeName name = .ok ()
  nonempty : fields ≠ []

/-- Distinct nodes are distinct Rust types, whatever package and name they claim. -/
abbrev Schema (Node : Type u) := Node → StructItem Node

abbrev TypeKey := String × String

section Definitions

variable {Node : Type u} (schema : Schema Node)

def typeKey (node : Node) : TypeKey := ((schema node).package, (schema node).name)

def InterfaceElem.idlRef (mode : NsMode) : InterfaceElem Node → String
  | .primitive kind => kind.idlRef
  | .struct node =>
      mode.idlTypeRef (escapeIdlIdentifier (schema node).package) (schema node).name

def InterfaceElem.msgRef : InterfaceElem Node → String
  | .primitive kind => kind.msgRef
  | .struct node => (schema node).package ++ "/" ++ (schema node).name

def InterfaceRef.idlRef (mode : NsMode) : InterfaceRef Node → String
  | .elem element => element.idlRef schema mode
  | .vec element => "sequence<" ++ element.idlRef schema mode ++ ">"
  | .array element _ _ => element.idlRef schema mode

def InterfaceRef.msgRef : InterfaceRef Node → String
  | .elem element => element.msgRef schema
  | .vec element => element.msgRef schema ++ "[]"
  | .array element n _ => element.msgRef schema ++ "[" ++ toString n ++ "]"

/-- Only arrays override the trait's default: their size follows the name. -/
def InterfaceRef.idlField (name : String) (mode : NsMode) (ty : InterfaceRef Node) : String :=
  match ty with
  | .array element n _ => element.idlRef schema mode ++ " " ++ name ++ "[" ++ toString n ++ "];"
  | ty => ty.idlRef schema mode ++ " " ++ name ++ ";"

def idlLine (mode : NsMode) (field : FieldItem Node) : String :=
  "  " ++ (if field.isKey then "@key " else "") ++ field.ty.idlField schema field.name mode ++ "\n"

def idlDef (mode : NsMode) (node : Node) : String :=
  mode.idlModuleOpen (escapeIdlIdentifier (schema node).package) ++
    ("struct " ++ mode.idlTypeName (schema node).name ++ " \x7b\n") ++
    String.join ((schema node).fields.map (idlLine schema mode)) ++
    "\x7d;\n" ++ mode.idlModuleClose

def msgLine (field : FieldItem Node) : String := field.ty.msgRef schema ++ " " ++ field.name ++ "\n"

def msgDef (node : Node) : String := String.join ((schema node).fields.map (msgLine schema))

end Definitions

/-! Registries -/

inductive Halt where
  | outOfFuel
  | panic (message : String)

def qualified (key : TypeKey) : String := key.1 ++ "::" ++ key.2

def formatCycle (visiting : List TypeKey) (repeated : TypeKey) : String :=
  let start := (visiting.idxOf? repeated).getD 0
  " -> ".intercalate ((visiting.drop start).map qualified ++ [qualified repeated])

def conflictMessage (key : TypeKey) (existing candidate : String) : String :=
  "conflicting DdsInterface definitions for " ++ key.1 ++ "/" ++ key.2 ++ ":\n" ++
    "--- already registered ---\n" ++ existing ++ "--- conflicting ---\n" ++ candidate ++
    "Two distinct Rust types resolve to the same (package, name); " ++
    "rename one with #[cdds(name = \"...\")]."

def cycleMessage (path : String) : String :=
  "cyclic DdsInterface type definition detected: " ++ path ++ "\n" ++
    "ROS 2 .msg/IDL cannot express recursive or mutually-recursive type definitions."

/-- The tests that both registries make in `enter`. The maps of finished definitions
are lists with the newest entry first. -/
def enterKey (seen : List (TypeKey × String)) (visiting : List TypeKey) (key : TypeKey)
    (candidate : String) : Except Halt Bool :=
  match seen.lookup key with
  | some existing =>
      if existing ≠ candidate then .error (.panic (conflictMessage key existing candidate))
      -- Met again with the same text: the caller skips its fields.
      else .ok false
  | none =>
      if key ∈ visiting then .error (.panic (cycleMessage (formatCycle visiting key)))
      else .ok true

structure DefRegistry where
  seen : List (TypeKey × String)
  visiting : List TypeKey
  entries : List String
  mode : NsMode

structure MsgDefRegistry where
  seen : List (TypeKey × String)
  visiting : List TypeKey
  entries : List (String × String)

section Collection

variable {Node : Type u} (schema : Schema Node)

def DefRegistry.new (mode : NsMode) : DefRegistry :=
  { seen := [], visiting := [], entries := [], mode := mode }

def DefRegistry.enter (reg : DefRegistry) (node : Node) : Except Halt (Bool × DefRegistry) :=
  match enterKey reg.seen reg.visiting (typeKey schema node) (idlDef schema reg.mode node) with
  | .error halt => .error halt
  | .ok false => .ok (false, reg)
  | .ok true => .ok (true, { reg with visiting := reg.visiting ++ [typeKey schema node] })

def DefRegistry.finish (reg : DefRegistry) (node : Node) : Except Halt DefRegistry :=
  if reg.visiting.getLast? = some (typeKey schema node) then
    .ok { reg with
      visiting := reg.visiting.dropLast
      entries := reg.entries ++ [idlDef schema reg.mode node]
      seen := (typeKey schema node, idlDef schema reg.mode node) :: reg.seen }
  else
    .error (.panic "DefRegistry::finish called out of order or without matching enter")

def MsgDefRegistry.new : MsgDefRegistry := { seen := [], visiting := [], entries := [] }

/-- Unlike the other registry, this one lists a type before its fields. -/
def MsgDefRegistry.enter (reg : MsgDefRegistry) (node : Node) :
    Except Halt (Bool × MsgDefRegistry) :=
  match enterKey reg.seen reg.visiting (typeKey schema node) (msgDef schema node) with
  | .error halt => .error halt
  | .ok false => .ok (false, reg)
  | .ok true => .ok (true, { reg with
      visiting := reg.visiting ++ [typeKey schema node]
      entries := reg.entries ++
        [(InterfaceElem.msgRef schema (.struct node), msgDef schema node)] })

def MsgDefRegistry.finish (reg : MsgDefRegistry) (node : Node) : Except Halt MsgDefRegistry :=
  if reg.visiting.getLast? = some (typeKey schema node) then
    .ok { reg with
      visiting := reg.visiting.dropLast
      seen := (typeKey schema node, msgDef schema node) :: reg.seen }
  else
    .error (.panic "MsgDefRegistry::finish called out of order or without matching enter")

/-- `collect_defs` and `collect_msg_defs` of a field's type: containers pass the call
on to their elements, primitives have nothing to collect. -/
def InterfaceElem.collect {Registry : Type v} (collect : Registry → Node → Except Halt Registry)
    (reg : Registry) : InterfaceElem Node → Except Halt Registry
  | .primitive _ => .ok reg
  | .struct node => collect reg node

def InterfaceRef.collect {Registry : Type v} (collect : Registry → Node → Except Halt Registry)
    (reg : Registry) : InterfaceRef Node → Except Halt Registry
  | .elem element => element.collect collect reg
  | .vec element => element.collect collect reg
  | .array element _ _ => element.collect collect reg

/-- The body that the derive macro generates for both collections. -/
def collectStruct {Registry : Type v} (enter : Registry → Node → Except Halt (Bool × Registry))
    (finish : Registry → Node → Except Halt Registry) :
    Nat → Registry → Node → Except Halt Registry
  | 0, _, _ => .error .outOfFuel
  | fuel + 1, reg, node =>
      match enter reg node with
      | .error halt => .error halt
      | .ok (false, reg) => .ok reg
      | .ok (true, reg) =>
          match (schema node).fields.foldlM
            (fun reg field => field.ty.collect (collectStruct enter finish fuel) reg) reg with
          | .error halt => .error halt
          | .ok reg => finish reg node

def collectDefs : Nat → DefRegistry → Node → Except Halt DefRegistry :=
  collectStruct schema (DefRegistry.enter schema) (DefRegistry.finish schema)

def collectMsgDefs : Nat → MsgDefRegistry → Node → Except Halt MsgDefRegistry :=
  collectStruct schema (MsgDefRegistry.enter schema) (MsgDefRegistry.finish schema)

def separator : String := String.ofList (List.replicate 80 '=')

/-- One later entry, below its separator line. -/
def renderBlock (entry : String × String) : String :=
  separator ++ "\n" ++ ("MSG: " ++ entry.1 ++ "\n") ++ entry.2

def MsgDefRegistry.render (reg : MsgDefRegistry) : String :=
  match reg.entries with
  | [] => ""
  | first :: rest => first.2 ++ String.join (rest.map renderBlock)

def idl (fuel : Nat) (mode : NsMode) (node : Node) : Except Halt String :=
  match collectDefs schema fuel (DefRegistry.new mode) node with
  | .error halt => .error halt
  | .ok reg => .ok (String.join reg.entries)

def fullRos2Msg (fuel : Nat) (node : Node) : Except Halt String :=
  match collectMsgDefs schema fuel MsgDefRegistry.new node with
  | .error halt => .error halt
  | .ok reg => .ok reg.render

end Collection

end CycloneddsRs.InterfaceGen
