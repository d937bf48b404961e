import CycloneddsRs.InterfaceGen
import CycloneddsRs.DelimitedText
import Mathlib.Data.List.Infix

/-!
interface_gen.rs: the names of one type on its two ways into an IDL text. A declaration
opens modules for the segments of the middle string, a reference holds the string as it
was given.
-/

namespace CycloneddsRs.TypeReferences
open Naming InterfaceGen NsMode DelimitedText

/-! Splitting at `::` -/

theorem splitPath_ne_nil (text : List Char) : splitPath text ≠ [] := by
  induction text using splitPath.induct with
  | case1 => simp [splitPath]
  | case2 rest ih => simp [splitPath]
  | case3 c rest plain empty ih => exact absurd empty ih
  | case4 c rest plain segment segments split ih =>
      rw [splitPath.eq_3 c rest plain, split]
      exact List.cons_ne_nil _ _

theorem splitPath_separator (rest : List Char) :
    splitPath (':' :: ':' :: rest) = [] :: splitPath rest := by
  rw [splitPath]

/-- A character that begins no separator belongs to the first segment. -/
theorem splitPath_plain (c : Char) (rest : List Char)
    (plain : ∀ later, c = ':' → rest = ':' :: later → False) :
    splitPath (c :: rest) = (splitPath rest).modifyHead (c :: ·) := by
  rw [splitPath.eq_3 c rest plain]
  cases split : splitPath rest with
  | nil => exact absurd split (splitPath_ne_nil rest)
  | cons segment segments => rfl

theorem splitPath_word (word rest : List Char) (inside : ':' ∉ word) :
    splitPath (word ++ rest) = (splitPath rest).modifyHead (word ++ ·) := by
  induction word with
  | nil =>
      cases split : splitPath rest with
      | nil => exact absurd split (splitPath_ne_nil rest)
      | cons segment segments => simp [split]
  | cons c word ih =>
      obtain ⟨other, inside⟩ := List.ne_and_not_mem_of_not_mem_cons inside
      rw [List.cons_append, splitPath_plain c _ (fun _ same _ => other same.symm), ih inside,
        List.modifyHead_modifyHead]
      rfl

theorem splitPath_word_separator (word rest : List Char) (inside : ':' ∉ word) :
    splitPath (word ++ ':' :: ':' :: rest) = word :: splitPath rest := by
  rw [splitPath_word word _ inside, splitPath_separator, List.modifyHead_cons, List.append_nil]

/-- A text is one segment when no separator stands in it. -/
theorem splitPath_singleton_iff (text : List Char) :
    splitPath text = [text] ↔ ¬ [':', ':'] <:+: text := by
  induction text using splitPath.induct with
  | case1 => simp [splitPath]
  | case2 rest ih =>
      have more := List.length_pos_iff.mpr (splitPath_ne_nil rest)
      rw [splitPath_separator]
      constructor
      · intro single
        have lengths := congrArg List.length single
        simp only [List.length_cons, List.length_nil] at lengths
        omega
      · intro absent
        exact absurd ⟨[], rest, rfl⟩ absent
  | case3 c rest plain empty ih => exact absurd empty (splitPath_ne_nil rest)
  | case4 c rest plain segment segments split ih =>
      rw [splitPath_plain c rest plain, List.infix_cons_iff, not_or, ← ih, split,
        List.modifyHead_cons]
      have begins : ¬ [':', ':'] <+: c :: rest := by
        rintro ⟨later, same⟩
        obtain ⟨first, second⟩ := List.cons.inj same
        exact plain later first.symm second.symm
      simp [begins]

theorem splitPath_nil_iff (text : List Char) : splitPath text = [[]] ↔ text = [] := by
  induction text using splitPath.induct with
  | case1 => simp [splitPath]
  | case2 rest ih => simp [splitPath_separator, splitPath_ne_nil]
  | case3 c rest plain empty ih => exact absurd empty (splitPath_ne_nil rest)
  | case4 c rest plain segment segments split ih => simp [splitPath_plain c rest plain, split]

/-- Only the last of several characters can run into a separator behind them. -/
theorem plain_append (c : Char) (rest tail : List Char) (nonempty : rest ≠ [])
    (plain : ∀ later, c = ':' → rest = ':' :: later → False) :
    ∀ later, c = ':' → rest ++ tail = ':' :: later → False := by
  intro later colon same
  cases rest with
  | nil => exact nonempty rfl
  | cons first rest =>
      obtain ⟨head, -⟩ := List.cons.inj same
      exact plain rest colon (by rw [head])

/-- A separator adds a segment, wherever the split places it. -/
theorem splitPath_append_length (text tail : List Char) :
    (splitPath text).length + 1 ≤ (splitPath (text ++ ':' :: ':' :: tail)).length := by
  have more : ∀ text, 0 < (splitPath text).length :=
    fun text => List.length_pos_iff.mpr (splitPath_ne_nil text)
  induction text using splitPath.induct with
  | case1 =>
      have := more tail
      simp only [List.nil_append, splitPath_separator]
      simp [splitPath]
      omega
  | case2 rest ih =>
      simp only [List.cons_append, splitPath_separator, List.length_cons]
      omega
  | case3 c rest plain empty ih => exact absurd empty (splitPath_ne_nil rest)
  | case4 c rest plain segment segments split ih =>
      by_cases nonempty : rest = []
      · subst nonempty
        by_cases colon : c = ':'
        · subst colon
          have := more (':' :: tail)
          simp only [List.cons_append, List.nil_append, splitPath_separator]
          simp [splitPath]
          omega
        · have apart : ':' ∉ [c] := by simp [Ne.symm colon]
          have := more tail
          rw [splitPath_word_separator [c] tail apart]
          simp [splitPath]
          omega
      · rw [List.cons_append, splitPath_plain c rest plain,
          splitPath_plain c _ (plain_append c rest _ nonempty plain)]
        simpa using ih

/-- Behind a character that is no colon, a separator stands where it was written. -/
theorem splitPath_append (text tail : List Char) (ends : text.getLast? ≠ some ':') :
    splitPath (text ++ ':' :: ':' :: tail) = splitPath text ++ splitPath tail := by
  induction text using splitPath.induct with
  | case1 => simp [splitPath]
  | case2 rest ih =>
      have later : rest.getLast? ≠ some ':' := by
        cases rest with
        | nil => simp at ends
        | cons first rest => simpa using ends
      rw [List.cons_append, List.cons_append, splitPath_separator, splitPath_separator, ih later,
        List.cons_append]
  | case3 c rest plain empty ih => exact absurd empty (splitPath_ne_nil rest)
  | case4 c rest plain segment segments split ih =>
      by_cases nonempty : rest = []
      · subst nonempty
        have other : c ≠ ':' := by simpa using ends
        have apart : ':' ∉ [c] := by simp [Ne.symm other]
        rw [splitPath_word_separator [c] tail apart]
        simp [splitPath]
      · have later : rest.getLast? ≠ some ':' := by
          cases rest with
          | nil => exact absurd rfl nonempty
          | cons first rest => simpa using ends
        rw [List.cons_append, splitPath_plain c rest plain,
          splitPath_plain c _ (plain_append c rest _ nonempty plain), ih later, split]
        rfl

/-- Behind a colon that ends a segment, the split takes that colon into the separator. -/
theorem splitPath_append_colon (text tail last : List Char) (ends : text.getLast? = some ':')
    (whole : (splitPath text).getLast? ≠ some []) :
    splitPath (text ++ ':' :: ':' :: tail) ≠ splitPath text ++ [last] := by
  induction text using splitPath.induct with
  | case1 => simp at ends
  | case2 rest ih =>
      have later : rest.getLast? = some ':' := by
        cases rest with
        | nil => simp [splitPath] at whole
        | cons first rest => simpa using ends
      have inside : (splitPath rest).getLast? ≠ some [] := by
        rw [splitPath_separator, List.getLast?_cons_of_ne_nil (splitPath_ne_nil rest)] at whole
        exact whole
      rw [List.cons_append, List.cons_append, splitPath_separator, splitPath_separator,
        List.cons_append]
      intro same
      exact ih later inside (List.cons.inj same).2
  | case3 c rest plain empty ih => exact absurd empty (splitPath_ne_nil rest)
  | case4 c rest plain segment segments split ih =>
      by_cases nonempty : rest = []
      · subst nonempty
        have colon : c = ':' := by simpa using ends
        subst colon
        simp [splitPath]
      · have later : rest.getLast? = some ':' := by
          cases rest with
          | nil => exact absurd rfl nonempty
          | cons first rest => simpa using ends
        have inside : (splitPath rest).getLast? ≠ some [] := by
          rw [splitPath_plain c rest plain, split] at whole
          rw [split]
          cases segments with
          | nil =>
              have held := mt (splitPath_nil_iff rest).mp nonempty
              rw [split] at held
              simpa using held
          | cons next segments => simpa using whole
        rw [List.cons_append, splitPath_plain c rest plain,
          splitPath_plain c _ (plain_append c rest _ nonempty plain), split]
        intro same
        apply ih later inside
        rw [split]
        cases extended : splitPath (rest ++ ':' :: ':' :: tail) with
        | nil => exact absurd extended (splitPath_ne_nil _)
        | cons first others =>
            rw [extended] at same
            simpa using same

/-! References against declarations -/

/-- The opening and closing of a list of modules. -/
def openModules (modules : List String) : String :=
  " ".intercalate (modules.map fun name => "module " ++ name ++ " \x7b") ++ "\n"

def closeModules (modules : List String) : String :=
  String.join (modules.map fun _ => "\x7d;") ++ "\n"

/-- The reference names the modules that the declaration opens, in their order, and the
declared type; each opened module is closed. -/
def Resolves (mode : NsMode) (package name : String) : Prop :=
  (splitPath (mode.idlTypeRef package name).toList).map String.ofList =
      package :: mode.middleSegments ++ [mode.idlTypeName name] ∧
    mode.idlModuleOpen package = openModules (package :: mode.middleSegments) ∧
    mode.idlModuleClose = closeModules (package :: mode.middleSegments)

instance (mode : NsMode) (package name : String) : Decidable (Resolves mode package name) :=
  inferInstanceAs (Decidable (_ ∧ _ ∧ _))

/-- No empty segment in the middle string, no colon at its end, no separator in the suffix. -/
def WellSegmented (mode : NsMode) : Prop :=
  (∀ mid, mode.middle = some mid → [] ∉ splitPath mid.toList ∧ mid.toList.getLast? ≠ some ':') ∧
    ¬ [':', ':'] <:+: mode.typeSuffix.toList

theorem intercalate_modules (first : String) (rest : List String) :
    " ".intercalate (first :: rest.map fun name => "module " ++ name ++ " \x7b") =
      first ++ String.join (rest.map fun name => " module " ++ name ++ " \x7b") := by
  induction rest generalizing first with
  | nil => simp
  | cons name rest ih =>
      have spaced : " module " = " " ++ "module " := rfl
      rw [List.map_cons, String.intercalate_cons_cons, ih, List.map_cons, String.join_cons, spaced]
      simp only [String.append_assoc]

theorem idlModuleOpen_modules (mode : NsMode) (package : String) :
    mode.idlModuleOpen package = openModules (package :: mode.middleSegments) := by
  rw [idlModuleOpen, openModules, List.map_cons, intercalate_modules]

theorem idlModuleClose_modules (mode : NsMode) (package : String) :
    mode.idlModuleClose = closeModules (package :: mode.middleSegments) := by
  rw [idlModuleClose, closeModules, List.map_const', List.length_cons, Nat.add_comm]

theorem splitPath_suffix_iff (name suffix : List Char) (inside : ':' ∉ name) :
    splitPath (name ++ suffix) = [name ++ suffix] ↔ ¬ [':', ':'] <:+: suffix := by
  rw [← splitPath_singleton_iff, splitPath_word name suffix inside]
  cases split : splitPath suffix with
  | nil => exact absurd split (splitPath_ne_nil suffix)
  | cons segment segments => simp

/-- Between a package and a type name the middle string keeps its segments exactly when
none is empty and its end is no colon. -/
theorem splitPath_middle_iff (package mid tail : List Char) (inside : ':' ∉ package) :
    splitPath (package ++ ':' :: ':' :: (mid ++ ':' :: ':' :: tail)) =
        package :: (splitPath mid).filter (· ≠ []) ++ [tail] ↔
      ([] ∉ splitPath mid ∧ mid.getLast? ≠ some ':') ∧ splitPath tail = [tail] := by
  rw [splitPath_word_separator package _ inside, List.cons_append]
  constructor
  · intro same
    have same := (List.cons.inj same).2
    have whole : [] ∉ splitPath mid := by
      have lengths := congrArg List.length same
      have longer := splitPath_append_length mid tail
      have kept := List.length_filter_le (· ≠ []) (splitPath mid)
      simp only [List.length_append, List.length_singleton] at lengths
      have all : ((splitPath mid).filter (· ≠ [])).length = (splitPath mid).length := by omega
      intro empty
      have := List.length_filter_eq_length_iff.mp all [] empty
      simp at this
    have unfiltered : (splitPath mid).filter (· ≠ []) = splitPath mid := by
      apply List.filter_eq_self.mpr
      intro segment held
      exact decide_eq_true fun empty => whole (empty ▸ held)
    rw [unfiltered] at same
    have ends : mid.getLast? ≠ some ':' := by
      intro colon
      refine splitPath_append_colon mid tail tail colon ?_ same
      intro last
      exact whole (List.mem_of_getLast? last)
    rw [splitPath_append mid tail ends] at same
    exact ⟨⟨whole, ends⟩, List.append_cancel_left same⟩
  · rintro ⟨⟨whole, ends⟩, single⟩
    have unfiltered : (splitPath mid).filter (· ≠ []) = splitPath mid := by
      apply List.filter_eq_self.mpr
      intro segment held
      exact decide_eq_true fun empty => whole (empty ▸ held)
    rw [splitPath_append mid tail ends, single, unfiltered]

theorem map_ofList_eq_iff (texts : List (List Char)) (names : List String) :
    texts.map String.ofList = names ↔ texts = names.map String.toList := by
  constructor
  · rintro rfl
    simp
  · rintro rfl
    simp

theorem reference_iff (mode : NsMode) (package name : String) (packageWord : ':' ∉ package.toList)
    (nameWord : ':' ∉ name.toList) :
    (splitPath (mode.idlTypeRef package name).toList).map String.ofList =
        package :: mode.middleSegments ++ [mode.idlTypeName name] ↔ WellSegmented mode := by
  have separator : ("::" : String).toList = [':', ':'] := rfl
  have suffixed := splitPath_suffix_iff name.toList mode.typeSuffix.toList nameWord
  rw [map_ofList_eq_iff]
  cases held : mode.middle with
  | none =>
      have raw : mode = .raw := by
        cases mode with
        | raw => rfl
        | withMiddle mid => cases held
        | withMiddleSuffix mid suffix => cases held
      subst raw
      have text : (NsMode.raw.idlTypeRef package name).toList =
          package.toList ++ ':' :: ':' :: name.toList := by
        simp [idlTypeRef, NsMode.middle, idlTypeName, typeSuffix, separator]
      have single : splitPath name.toList = [name.toList] := by
        simpa [typeSuffix] using suffixed
      rw [text, splitPath_word_separator _ _ packageWord, single]
      simp [middleSegments, NsMode.middle, idlTypeName, typeSuffix, WellSegmented]
  | some mid =>
      have text : (mode.idlTypeRef package name).toList = package.toList ++ ':' :: ':' ::
          (mid.toList ++ ':' :: ':' :: (name.toList ++ mode.typeSuffix.toList)) := by
        simp [idlTypeRef, held, idlTypeName, separator]
      have declared : (package :: mode.middleSegments ++ [mode.idlTypeName name]).map
          String.toList = package.toList :: (splitPath mid.toList).filter (· ≠ []) ++
            [name.toList ++ mode.typeSuffix.toList] := by
        simp [middleSegments, held, idlTypeName]
      rw [text, declared, splitPath_middle_iff _ _ _ packageWord, suffixed, WellSegmented, held]
      simp

/-- A reference resolves to its declaration exactly in the modes whose middle string and
suffix are well segmented. -/
theorem idlTypeRef_resolves_iff (mode : NsMode) (package name : String)
    (packageWord : ':' ∉ package.toList) (nameWord : ':' ∉ name.toList) :
    Resolves mode package name ↔ WellSegmented mode := by
  rw [Resolves, reference_iff mode package name packageWord nameWord]
  exact and_iff_left ⟨idlModuleOpen_modules mode package, idlModuleClose_modules mode package⟩

theorem idlTypeRef_resolves_ros2dds :
    Resolves NsMode.ros2dds "geometry_msgs" "Point" ↔ WellSegmented NsMode.ros2dds :=
  idlTypeRef_resolves_iff NsMode.ros2dds "geometry_msgs" "Point" (by decide) (by decide)

/-- The declaration skips an empty segment, the reference does not. -/
theorem idlTypeRef_empty_middle :
    ':' ∉ "pkg".toList ∧ ':' ∉ "Point".toList ∧ ¬ Resolves (.withMiddle "") "pkg" "Point" := by
  decide

/-! Names of distinct types -/

theorem reserved_head (keyword : String) (reserved : isReservedKeyword keyword = true) :
    keyword.toList.head? ≠ some '_' := by
  have heads : ∀ word ∈ idlKeywords ++ cCppKeywords ++ pythonKeywords,
      word.toList.head? ≠ some '_' := by decide +kernel
  apply heads
  simpa [isReservedKeyword, or_assoc] using reserved

theorem escaped_unreserved (package : String) :
    isReservedKeyword (escapeIdlIdentifier package) = false := by
  unfold escapeIdlIdentifier
  split
  · by_contra reserved
    have head := reserved_head ("_" ++ package) (by simpa using reserved)
    rw [String.toList_append] at head
    exact head rfl
  · rename_i free
    simpa using free

/-- An accepted package starts with a letter, an escaped one does not. -/
theorem escaped_ne_accepted (package other : String) (reserved : isReservedKeyword package = true)
    (accepted : validateRosPackageName other = .ok ()) : escapeIdlIdentifier package ≠ other := by
  intro same
  obtain ⟨first, rest, text, lower, -⟩ := validateLowerSnakeCase_word other accepted
  rw [escapeIdlIdentifier, if_pos reserved] at same
  rw [← same, String.toList_append] at text
  obtain ⟨head, -⟩ := List.cons.inj text
  rw [← head] at lower
  cases lower

/-- What stands between package and name depends on the mode only. -/
theorem idlTypeRef_between (mode : NsMode) :
    ∃ between : List Char, ∀ package name, (mode.idlTypeRef package name).toList =
      package.toList ++ ':' :: (between ++ (name.toList ++ mode.typeSuffix.toList)) := by
  have separator : ("::" : String).toList = [':', ':'] := rfl
  cases held : mode.middle with
  | none =>
      refine ⟨[':'], fun package name => ?_⟩
      simp [idlTypeRef, held, idlTypeName, separator]
  | some mid =>
      refine ⟨':' :: (mid.toList ++ [':', ':']), fun package name => ?_⟩
      simp [idlTypeRef, held, idlTypeName, separator]

/-- Accepted types that differ in package or name differ in their IDL names, in any mode. -/
theorem idl_names_distinct (mode : NsMode) :
    (∀ package name otherPackage otherName, validateRosPackageName package = .ok () →
      validateRosTypeName name = .ok () → validateRosPackageName otherPackage = .ok () →
      validateRosTypeName otherName = .ok () → (package, name) ≠ (otherPackage, otherName) →
      mode.idlTypeRef (escapeIdlIdentifier package) name ≠
        mode.idlTypeRef (escapeIdlIdentifier otherPackage) otherName) ∧
    (∀ package other, validateRosPackageName package = .ok () →
      isReservedKeyword package = true → validateRosPackageName other = .ok () →
      escapeIdlIdentifier package ≠ other ∧
      (other ≠ package → escapeIdlIdentifier package ≠ escapeIdlIdentifier other) ∧
      isReservedKeyword (escapeIdlIdentifier package) = false) := by
  constructor
  · intro package name otherPackage otherName accepted _ otherAccepted _ different same
    obtain ⟨between, texts⟩ := idlTypeRef_between mode
    have parts := congrArg String.toList same
    rw [texts, texts] at parts
    obtain ⟨packages, -, rests⟩ := word_unique wordChar _ _ ':' ':' _ _
      (escapeIdlIdentifier_word package accepted).2
      (escapeIdlIdentifier_word otherPackage otherAccepted).2 rfl rfl parts
    have names := List.append_cancel_right (List.append_cancel_left rests)
    have samePackage := escapeIdlIdentifier_injective package otherPackage accepted otherAccepted
      (String.toList_inj.mp packages)
    exact different (Prod.ext samePackage (String.toList_inj.mp names))
  · intro package other accepted reserved otherAccepted
    refine ⟨escaped_ne_accepted package other reserved otherAccepted, ?_,
      escaped_unreserved package⟩
    intro different same
    exact different (escapeIdlIdentifier_injective package other accepted otherAccepted same).symm

theorem idl_names_distinct_map :
    NsMode.ros2idl.idlTypeRef (escapeIdlIdentifier "map") "Cell" ≠
      NsMode.ros2idl.idlTypeRef (escapeIdlIdentifier "maps") "Cell" ∧
    escapeIdlIdentifier "map" ≠ "maps" :=
  ⟨(idl_names_distinct NsMode.ros2idl).1 "map" "Cell" "maps" "Cell" rfl rfl rfl rfl (by decide),
    ((idl_names_distinct NsMode.ros2idl).2 "map" "maps" rfl (by decide) rfl).1⟩

end CycloneddsRs.TypeReferences
