import CycloneddsRs.TypeReferences
import CycloneddsRs.DefinitionText

/-!
The identifiers of an emitted IDL definition: its modules, its struct, its members, and the
modules and structs that the members' types refer to. Packages are escaped and field names
refused by the macro's keyword table; type names pass a check of their shape only.
-/

namespace CycloneddsRs.DeclaredIdentifiers
open Naming InterfaceGen NsMode TypeReferences DefinitionText

universe u
variable {Node : Type u} (schema : Schema Node)

/-- The table holds its words in lower case. -/
def standardSpelling : String → String
  | "true" => "TRUE"
  | "false" => "FALSE"
  | "object" => "Object"
  | "valuebase" => "ValueBase"
  | keyword => keyword

def standardKeywords : List String := idlKeywords.map standardSpelling

def capitalisedKeywords : List String := ["TRUE", "FALSE", "Object", "ValueBase"]

def moduleIdentifiers (mode : NsMode) (node : Node) : List String :=
  escapeIdlIdentifier (schema node).package :: mode.middleSegments

/-- The modules and the struct, as a reference spells them from the outside. -/
def structPath (mode : NsMode) (node : Node) : List String :=
  moduleIdentifiers schema mode node ++ [mode.idlTypeName (schema node).name]

/-- A primitive's words, such as `unsigned long`, are no identifiers. -/
def memberIdentifiers (mode : NsMode) (field : FieldItem Node) : List String :=
  match element field.ty with
  | .primitive _ => [field.name]
  | .struct target => structPath schema mode target ++ [field.name]

def emittedIdentifiers (mode : NsMode) (node : Node) : List String :=
  structPath schema mode node ++ (schema node).fields.flatMap (memberIdentifiers schema mode)

/-! The text of a definition -/

def memberPrefix (field : FieldItem Node) : String :=
  "  " ++ (if field.isKey then "@key " else "") ++
    match field.ty with
    | .vec _ => "sequence<"
    | _ => ""

def memberType (mode : NsMode) (field : FieldItem Node) : String :=
  match element field.ty with
  | .primitive kind => kind.idlRef
  | .struct target => "::".intercalate (structPath schema mode target)

def memberBetween (field : FieldItem Node) : String :=
  match field.ty with
  | .vec _ => "> "
  | _ => " "

def memberSuffix (field : FieldItem Node) : String :=
  match field.ty with
  | .array _ n _ => "[" ++ toString n ++ "];"
  | _ => ";"

def knownModes : List NsMode := [NsMode.raw, NsMode.ros2idl, NsMode.ros2dds]

/-- In the modes in use a reference joins the identifiers of the declaration. -/
theorem idlTypeRef_path (mode : NsMode) (node : Node) (known : mode ∈ knownModes) :
    mode.idlTypeRef (escapeIdlIdentifier (schema node).package) (schema node).name =
      "::".intercalate (structPath schema mode node) := by
  have raw : NsMode.raw.middleSegments = [] := rfl
  have ros2idl : NsMode.ros2idl.middleSegments = ["msg"] := by decide
  have ros2dds : NsMode.ros2dds.middleSegments = ["msg", "dds_"] := by decide
  have split : ("msg::dds_" : String) = "msg" ++ "::" ++ "dds_" := by decide
  simp only [knownModes, List.mem_cons, List.not_mem_nil, or_false] at known
  rcases known with rfl | rfl | rfl
  · rw [structPath, moduleIdentifiers, raw]
    simp [idlTypeRef, NsMode.middle, String.append_assoc]
  · rw [structPath, moduleIdentifiers, ros2idl, idlTypeRef, NsMode.ros2idl, NsMode.middle]
    simp only [List.cons_append, List.nil_append, String.intercalate_cons_cons,
      String.intercalate_singleton, String.append_assoc]
  · rw [structPath, moduleIdentifiers, ros2dds, idlTypeRef, NsMode.ros2dds, NsMode.middle, split]
    simp only [List.cons_append, List.nil_append, String.intercalate_cons_cons,
      String.intercalate_singleton, String.append_assoc]

theorem elemIdlRef_type (mode : NsMode) (field : FieldItem Node) (known : mode ∈ knownModes) :
    (element field.ty).idlRef schema mode = memberType schema mode field := by
  rw [memberType]
  cases element field.ty with
  | primitive kind => rfl
  | struct target => exact idlTypeRef_path schema mode target known

theorem idlLine_member (mode : NsMode) (field : FieldItem Node) (known : mode ∈ knownModes) :
    idlLine schema mode field =
      memberPrefix field ++ memberType schema mode field ++ memberBetween field ++ field.name ++
        memberSuffix field ++ "\n" := by
  rw [← elemIdlRef_type schema mode field known]
  cases shape : field.ty <;>
    simp [idlLine, memberPrefix, memberBetween, memberSuffix, InterfaceRef.idlField, shape,
      String.append_assoc, InterfaceRef.idlRef, element]

/-- Every identifier of a definition's text is one of `emittedIdentifiers`. -/
theorem idlDef_identifiers (mode : NsMode) (node : Node) (known : mode ∈ knownModes) :
    idlDef schema mode node =
      openModules (moduleIdentifiers schema mode node) ++
        ("struct " ++ mode.idlTypeName (schema node).name ++ " \x7b\n") ++
        String.join ((schema node).fields.map fun field =>
          memberPrefix field ++ memberType schema mode field ++ memberBetween field ++
            field.name ++ memberSuffix field ++ "\n") ++
        "\x7d;\n" ++ closeModules (moduleIdentifiers schema mode node) := by
  have lines : (schema node).fields.map (idlLine schema mode) =
      (schema node).fields.map fun field =>
        memberPrefix field ++ memberType schema mode field ++ memberBetween field ++
          field.name ++ memberSuffix field ++ "\n" :=
    List.map_congr_left fun field _ => idlLine_member schema mode field known
  rw [idlDef, lines, idlModuleOpen_modules, moduleIdentifiers,
    idlModuleClose_modules mode (escapeIdlIdentifier (schema node).package)]

/-! Keywords -/

theorem standardKeywords_cases :
    ∀ keyword ∈ standardKeywords, keyword ∈ idlKeywords ∨ keyword ∈ capitalisedKeywords := by
  decide +kernel

theorem capitalised_of_upper :
    ∀ keyword ∈ standardKeywords, keyword.toList.head?.any Char.isUpper = true →
      keyword ∈ capitalisedKeywords := by
  decide +kernel

theorem capitalised_standard : ∀ keyword ∈ capitalisedKeywords, keyword ∈ standardKeywords := by
  decide +kernel

theorem capitalised_upper :
    ∀ keyword ∈ capitalisedKeywords, keyword.toList.head?.any Char.isUpper = true := by
  decide +kernel

theorem standardKeywords_end : ∀ keyword ∈ standardKeywords, keyword.toList.getLast? ≠ some '_' := by
  decide +kernel

/-- A word that the table refuses to hold and that begins with no capital is no keyword. -/
theorem not_standard (identifier : String) (free : isReservedKeyword identifier = false)
    (small : identifier.toList.head?.any Char.isUpper = false) :
    identifier ∉ standardKeywords := by
  intro standard
  rcases standardKeywords_cases identifier standard with table | capitalised
  · simp [isReservedKeyword, table] at free
  · rw [capitalised_upper identifier capitalised] at small
    cases small

theorem lower_not_upper (c : Char) (lower : c.isLower = true) : c.isUpper = false := by
  have bounds : 'a'.val ≤ c.val ∧ c.val ≤ 'z'.val := by
    rcases Bool.and_eq_true_iff.mp lower with ⟨first, last⟩
    exact ⟨of_decide_eq_true first, of_decide_eq_true last⟩
  have above : ¬ c.val ≤ 'Z'.val := by
    intro below
    have crossed := UInt32.le_trans bounds.1 below
    revert crossed
    decide
  exact decide_eq_false fun upper => above upper.2

/-! The three routes -/

theorem package_not_standard (package : String) (accepted : validateRosPackageName package = .ok ()) :
    escapeIdlIdentifier package ∉ standardKeywords := by
  apply not_standard _ (escaped_unreserved package)
  obtain ⟨first, rest, text, lower, -⟩ := validateLowerSnakeCase_word package accepted
  unfold escapeIdlIdentifier
  split
  · rw [String.toList_append]
    rfl
  · simp [text, lower_not_upper first lower]

theorem field_not_standard (name : String) (accepted : validateMsgFieldName name = .ok ()) :
    name ∉ standardKeywords := by
  obtain ⟨first, rest, text, lower, -⟩ := validateMsgFieldName_word name accepted
  apply not_standard name
  · rw [validateMsgFieldName] at accepted
    split at accepted
    · cases accepted
    · rw [rejectReservedKeyword] at accepted
      split at accepted
      · cases accepted
      · rename_i free
        simpa using free
  · simp [text, lower_not_upper first lower]

/-- The shape check lets exactly the capitalised keywords pass. -/
theorem typeName_standard_iff (name : String) (accepted : validateRosTypeName name = .ok ()) :
    name ∈ standardKeywords ↔ name ∈ capitalisedKeywords := by
  constructor
  · intro standard
    obtain ⟨first, rest, text, upper, -⟩ := validateRosTypeName_word name accepted
    exact capitalised_of_upper name standard (by simp [text, upper])
  · exact capitalised_standard name

theorem suffixed_not_standard (name : String) : name ++ "_" ∉ standardKeywords := by
  intro standard
  apply standardKeywords_end _ standard
  simp [String.toList_append]

theorem structPath_standard_iff (mode : NsMode) (node : Node)
    (middle : ∀ segment ∈ mode.middleSegments, segment ∉ standardKeywords) :
    (∀ identifier ∈ structPath schema mode node, identifier ∉ standardKeywords) ↔
      mode.idlTypeName (schema node).name ∉ standardKeywords := by
  constructor
  · intro free
    exact free _ (by simp [structPath])
  · intro typeFree identifier held
    simp only [structPath, moduleIdentifiers, List.mem_append, List.mem_cons, List.not_mem_nil,
      or_false] at held
    rcases held with (rfl | segment) | rfl
    · exact package_not_standard _ (schema node).packageAccepted
    · exact middle identifier segment
    · exact typeFree

/-- Field names add no keyword: a member's line has one only through the struct it refers to. -/
theorem memberIdentifiers_standard_iff (mode : NsMode) (field : FieldItem Node) :
    (∀ identifier ∈ memberIdentifiers schema mode field, identifier ∉ standardKeywords) ↔
      ∀ target, refTarget field.ty = some target →
        ∀ identifier ∈ structPath schema mode target, identifier ∉ standardKeywords := by
  have named := field_not_standard field.name field.nameAccepted
  rw [memberIdentifiers, refTarget]
  cases element field.ty with
  | primitive kind => simp [elemTarget, named]
  | struct target =>
      simp only [elemTarget, Option.some.injEq, forall_eq', List.mem_append, List.mem_singleton]
      constructor
      · intro free identifier held
        exact free identifier (.inl held)
      · rintro free identifier (held | rfl)
        · exact free identifier held
        · exact named

theorem emitted_standard_iff (mode : NsMode) (node : Node)
    (middle : ∀ segment ∈ mode.middleSegments, segment ∉ standardKeywords) :
    (∀ identifier ∈ emittedIdentifiers schema mode node, identifier ∉ standardKeywords) ↔
      ∀ named ∈ node :: references schema node,
        mode.idlTypeName (schema named).name ∉ standardKeywords := by
  have path := fun named => structPath_standard_iff schema mode named middle
  have members : (∀ identifier ∈ (schema node).fields.flatMap (memberIdentifiers schema mode),
      identifier ∉ standardKeywords) ↔ ∀ named ∈ references schema node,
        mode.idlTypeName (schema named).name ∉ standardKeywords := by
    simp only [references, List.mem_flatMap, List.mem_filterMap, forall_exists_index, and_imp]
    constructor
    · intro free named field held target
      refine (path named).mp ?_
      exact (memberIdentifiers_standard_iff schema mode field).mp
        (fun identifier => free identifier field held) named target
    · intro free identifier field held
      refine (memberIdentifiers_standard_iff schema mode field).mpr ?_ identifier
      intro target refers
      exact (path target).mpr (free target field held refers)
  rw [emittedIdentifiers, List.forall_mem_append, members, path node, List.forall_mem_cons]

/-- An accepted definition emits no keyword exactly when its type names get a suffix or none
of them, its own or a member's, is one of the capitalised keywords. -/
theorem no_keyword_emitted_iff (node : Node) (mode : NsMode)
    (known : mode ∈ [NsMode.raw, NsMode.ros2idl, NsMode.ros2dds]) :
    (∀ identifier ∈ emittedIdentifiers schema mode node, identifier ∉ standardKeywords) ↔
      mode = .ros2dds ∨ ∀ named ∈ node :: references schema node,
        (schema named).name ∉ ["TRUE", "FALSE", "Object", "ValueBase"] := by
  have accepted := fun named =>
    typeName_standard_iff (schema named).name (schema named).nameAccepted
  have segments : ∀ mode ∈ [NsMode.raw, NsMode.ros2idl, NsMode.ros2dds],
      ∀ segment ∈ mode.middleSegments, segment ∉ standardKeywords := by decide +kernel
  rw [emitted_standard_iff schema mode node (segments mode known)]
  simp only [List.mem_cons, List.not_mem_nil, or_false] at known
  rcases known with rfl | rfl | rfl
  · have name : ∀ named, NsMode.raw.idlTypeName (schema named).name = (schema named).name :=
      fun named => String.append_empty
    simp only [name, accepted]
    simp [NsMode.ros2dds, capitalisedKeywords]
  · have name : ∀ named, NsMode.ros2idl.idlTypeName (schema named).name = (schema named).name :=
      fun named => String.append_empty
    simp only [name, accepted]
    simp [NsMode.ros2dds, NsMode.ros2idl, capitalisedKeywords]
  · have free : ∀ named, NsMode.ros2dds.idlTypeName (schema named).name ∉ standardKeywords :=
      fun named => suffixed_not_standard (schema named).name
    simp [free]

/-- A scene whose target is a type that is called `Object` by its `cdds` attribute. -/
inductive SceneType where
  | scene
  | target

def sceneSchema : Schema SceneType
  | .scene =>
      { package := "scenes"
        name := "Scene"
        fields := [.unkeyed "target" (.elem (.struct .target)) rfl]
        packageAccepted := rfl
        nameAccepted := rfl
        nonempty := by simp }
  | .target =>
      { package := "objects"
        name := "Object"
        fields := [.unkeyed "id" (.elem (.primitive .i32)) rfl]
        packageAccepted := rfl
        nameAccepted := rfl
        nonempty := by simp }

/-- The keyword stands in the struct's own definition and in the scene's reference. -/
theorem object_emitted :
    (¬ ∀ identifier ∈ emittedIdentifiers sceneSchema .raw .target,
      identifier ∉ standardKeywords) ∧
    ¬ ∀ identifier ∈ emittedIdentifiers sceneSchema .raw .scene,
      identifier ∉ standardKeywords := by
  decide +kernel

theorem no_keyword_emitted_scene :
    (∀ identifier ∈ emittedIdentifiers sceneSchema .ros2dds .scene,
      identifier ∉ standardKeywords) ↔
      NsMode.ros2dds = .ros2dds ∨ ∀ named ∈ .scene :: references sceneSchema .scene,
        (sceneSchema named).name ∉ ["TRUE", "FALSE", "Object", "ValueBase"] :=
  no_keyword_emitted_iff sceneSchema .scene .ros2dds (by decide)

end CycloneddsRs.DeclaredIdentifiers
