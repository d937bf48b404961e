import CycloneddsRs.KeyHolder
import Mathlib.Data.List.Perm.Basic

/-!
The `cdds` attributes of a struct, read by one parser for both derive macros. Attributes
come as `syn` reads them. An argument of a list is what stands between two commas, and `syn`
may find no path or no meta item in it.
-/

namespace CycloneddsRs.CddsAttributes
open KeyHolder

inductive Delimiter where
  | paren
  | brace
  | bracket
  deriving DecidableEq

structure LitStr where
  value : String
  deriving DecidableEq

inductive Expr where
  | litStr (lit : LitStr)
  | other (tokens : String)
  deriving DecidableEq

/-- `syn::Meta` in an argument: only its path matters for a nested list. -/
inductive Meta where
  | path (path : TypePath)
  | list (path : TypePath) (delimiter : Delimiter) (tokens : String)
  | nameValue (path : TypePath) (value : Expr)
  deriving DecidableEq

inductive ListArgument where
  | parsed (item : Meta)
  | noPath (tokens : String)
  | noMeta (tokens message : String)
  deriving DecidableEq

/-- An attribute with its path and the arguments of its list, if it has one. -/
inductive Attribute where
  | word (path : TypePath)
  | list (path : TypePath) (delimiter : Delimiter) (arguments : List ListArgument)
  | nameValue (path : TypePath) (value : Expr)
  deriving DecidableEq

def Attribute.path : Attribute → TypePath
  | .word path => path
  | .list path _ _ => path
  | .nameValue path _ => path

structure CddsAttrs where
  fixedSize : Bool
  package : Option LitStr
  name : Option LitStr
  deriving DecidableEq

def unknownCddsKeyMessage : String :=
  "unknown cdds attribute key (expected `fixed_size`, `package`, or `name`)"

def typenameAttrRemovedMessage : String :=
  "#[cdds(typename = \"...\")] is no longer supported; " ++
    "use #[cdds(package = \"...\", name = \"...\")] instead"

def expectedListMessage : String :=
  "#[cdds(...)] expects a parenthesized attribute list, e.g. #[cdds(package = \"...\")]"

def duplicateKeyMessage (key : String) : String :=
  "duplicate cdds attribute key `" ++ key ++ "`"

/-- `CddsArg::parse`. -/
def parseCddsArg : ListArgument → Except String Meta
  | .parsed item => .ok item
  | .noPath _ => .error unknownCddsKeyMessage
  | .noMeta _ message => .error message

def expectCddsLitStr (expr : Expr) (key : String) : Except String LitStr :=
  match expr with
  | .litStr lit => .ok lit
  | .other _ => .error ("#[cdds(" ++ key ++ " = ...)] expected a string literal")

/-- The inner loop's body. -/
def readCddsArg (held : CddsAttrs) : Meta → Except String CddsAttrs
  | .path path =>
      if path.isIdent "fixed_size" then
        if held.fixedSize then .error (duplicateKeyMessage "fixed_size")
        else .ok { held with fixedSize := true }
      else .error unknownCddsKeyMessage
  | .nameValue path value =>
      if path.isIdent "package" then
        if held.package.isSome then .error (duplicateKeyMessage "package")
        else (expectCddsLitStr value "package").map fun lit => { held with package := some lit }
      else if path.isIdent "name" then
        if held.name.isSome then .error (duplicateKeyMessage "name")
        else (expectCddsLitStr value "name").map fun lit => { held with name := some lit }
      else if path.isIdent "typename" then .error typenameAttrRemovedMessage
      else .error unknownCddsKeyMessage
  | .list _ _ _ => .error unknownCddsKeyMessage

/-- The outer loop's body. The whole list is parsed before its first argument is looked at;
its delimiter is not looked at. -/
def readCddsAttr (held : CddsAttrs) (attr : Attribute) : Except String CddsAttrs :=
  if attr.path.isIdent "cdds" then
    match attr with
    | .list _ _ arguments => do
        let nested ← arguments.mapM parseCddsArg
        nested.foldlM readCddsArg held
    | _ => .error expectedListMessage
  else .ok held

def noCddsAttrs : CddsAttrs := { fixedSize := false, package := none, name := none }

def parseCddsAttrs (attrs : List Attribute) : Except String CddsAttrs :=
  attrs.foldlM readCddsAttr noCddsAttrs

/-! What the attributes say -/

inductive CddsKey where
  | fixedSize
  | package
  | name
  deriving DecidableEq

inductive Setting where
  | fixedSize
  | package (lit : LitStr)
  | name (lit : LitStr)
  deriving DecidableEq

def Setting.key : Setting → CddsKey
  | .fixedSize => .fixedSize
  | .package _ => .package
  | .name _ => .name

/-- An argument that is well formed, and what it sets. -/
inductive Sets : ListArgument → Setting → Prop where
  | fixedSize (path : TypePath) : path.isIdent "fixed_size" →
      Sets (.parsed (.path path)) .fixedSize
  | package (path : TypePath) (lit : LitStr) : path.isIdent "package" →
      Sets (.parsed (.nameValue path (.litStr lit))) (.package lit)
  | name (path : TypePath) (lit : LitStr) : path.isIdent "name" →
      Sets (.parsed (.nameValue path (.litStr lit))) (.name lit)

def Attribute.isCdds (attr : Attribute) : Bool := attr.path.isIdent "cdds"

/-- The arguments of all `cdds` lists, in their order. -/
def cddsArguments (attrs : List Attribute) : List ListArgument :=
  (attrs.filter Attribute.isCdds).flatMap fun attr =>
    match attr with
    | .list _ _ arguments => arguments
    | _ => []

def AllLists (attrs : List Attribute) : Prop :=
  ∀ attr ∈ attrs, attr.isCdds = true → ∃ path delimiter arguments,
    attr = .list path delimiter arguments

def CddsAttrs.taken (held : CddsAttrs) : CddsKey → Bool
  | .fixedSize => held.fixedSize
  | .package => held.package.isSome
  | .name => held.name.isSome

def CddsAttrs.holds (held : CddsAttrs) : Setting → Prop
  | .fixedSize => held.fixedSize = true
  | .package lit => held.package = some lit
  | .name lit => held.name = some lit

def CddsAttrs.add (held : CddsAttrs) : Setting → CddsAttrs
  | .fixedSize => { held with fixedSize := true }
  | .package lit => { held with package := some lit }
  | .name lit => { held with name := some lit }

theorem isIdent_unique (path : TypePath) (first second : String) (isFirst : path.isIdent first)
    (isSecond : path.isIdent second) : first = second := by
  simp only [TypePath.isIdent, Bool.and_eq_true, beq_iff_eq] at isFirst isSecond
  rw [← isFirst.2, isSecond.2]

theorem Sets.unique (argument : ListArgument) (first second : Setting) (isFirst : Sets argument first)
    (isSecond : Sets argument second) : first = second := by
  cases isFirst with
  | fixedSize path named =>
      cases isSecond
      rfl
  | package path lit named =>
      cases isSecond with
      | package => rfl
      | name _ _ other => exact absurd (isIdent_unique path _ _ named other) (by decide)
  | name path lit named =>
      cases isSecond with
      | package _ _ other => exact absurd (isIdent_unique path _ _ named other) (by decide)
      | name => rfl

theorem add_taken (held : CddsAttrs) (setting : Setting) (key : CddsKey) :
    (held.add setting).taken key = (held.taken key || decide (key = setting.key)) := by
  cases setting <;> cases key <;> simp [CddsAttrs.add, CddsAttrs.taken, Setting.key]

theorem add_holds (held : CddsAttrs) (added setting : Setting)
    (free : held.taken added.key = false) :
    (held.add added).holds setting ↔ held.holds setting ∨ setting = added := by
  cases added with
  | fixedSize => cases setting <;> simp [CddsAttrs.add, CddsAttrs.holds]
  | package lit =>
      have unset : held.package = none := by
        simpa [CddsAttrs.taken, Setting.key] using free
      cases setting with
      | package other => simp [CddsAttrs.add, CddsAttrs.holds, unset, eq_comm]
      | fixedSize => simp [CddsAttrs.add, CddsAttrs.holds]
      | name other => simp [CddsAttrs.add, CddsAttrs.holds]
  | name lit =>
      have unset : held.name = none := by
        simpa [CddsAttrs.taken, Setting.key] using free
      cases setting with
      | name other => simp [CddsAttrs.add, CddsAttrs.holds, unset, eq_comm]
      | fixedSize => simp [CddsAttrs.add, CddsAttrs.holds]
      | package other => simp [CddsAttrs.add, CddsAttrs.holds]

theorem holds_ext (first second : CddsAttrs)
    (same : ∀ setting, first.holds setting ↔ second.holds setting) : first = second := by
  obtain ⟨firstFixed, firstPackage, firstName⟩ := first
  obtain ⟨secondFixed, secondPackage, secondName⟩ := second
  have fixedSize : firstFixed = secondFixed := Bool.eq_iff_iff.mpr (same .fixedSize)
  have package : firstPackage = secondPackage := Option.ext fun lit => same (.package lit)
  have name : firstName = secondName := Option.ext fun lit => same (.name lit)
  rw [fixedSize, package, name]

/-! The loops -/

theorem expectCddsLitStr_ok (expr : Expr) (key : String) (lit : LitStr) :
    expectCddsLitStr expr key = .ok lit ↔ expr = .litStr lit := by
  cases expr <;> simp [expectCddsLitStr]

/-- An arm of the inner loop whose key takes a string. -/
theorem litStr_arm_ok (taken : Bool) (expr : Expr) (key : String) (add : LitStr → CddsAttrs)
    (next : CddsAttrs) :
    (if taken then .error (duplicateKeyMessage key) else (expectCddsLitStr expr key).map add) =
        .ok next ↔
      taken = false ∧ ∃ lit, expr = .litStr lit ∧ next = add lit := by
  cases taken with
  | true => simp
  | false =>
      simp only [Bool.false_eq_true, if_false, true_and, ← expectCddsLitStr_ok expr key]
      cases expectCddsLitStr expr key <;> simp [Except.map, eq_comm]

/-- One argument is read exactly when it is well formed and its key is free. -/
theorem readCddsArg_ok (held next : CddsAttrs) (item : Meta) :
    readCddsArg held item = .ok next ↔
      ∃ setting, Sets (.parsed item) setting ∧ held.taken setting.key = false ∧
        next = held.add setting := by
  constructor
  · intro read
    cases item with
    | list path delimiter tokens => cases read
    | path path =>
        rw [readCddsArg] at read
        split at read
        case isFalse => cases read
        case isTrue named =>
            split at read
            case isTrue => cases read
            case isFalse free =>
                cases read
                exact ⟨.fixedSize, .fixedSize path named, eq_false_of_ne_true free, rfl⟩
    | nameValue path value =>
        rw [readCddsArg] at read
        by_cases package : path.isIdent "package" = true
        · rw [if_pos package, litStr_arm_ok] at read
          obtain ⟨free, lit, rfl, rfl⟩ := read
          exact ⟨.package lit, .package path lit package, free, rfl⟩
        · rw [if_neg package] at read
          by_cases name : path.isIdent "name" = true
          · rw [if_pos name, litStr_arm_ok] at read
            obtain ⟨free, lit, rfl, rfl⟩ := read
            exact ⟨.name lit, .name path lit name, free, rfl⟩
          · rw [if_neg name] at read
            split at read <;> cases read
  · rintro ⟨setting, sets, free, rfl⟩
    cases sets with
    | fixedSize path named =>
        have unset : held.fixedSize = false := free
        rw [readCddsArg, if_pos named, unset]
        rfl
    | package path lit named =>
        rw [readCddsArg, if_pos named, litStr_arm_ok]
        exact ⟨free, lit, rfl, rfl⟩
    | name path lit named =>
        have other : ¬ path.isIdent "package" = true := fun package =>
          absurd (isIdent_unique path _ _ package named) (by decide)
        rw [readCddsArg, if_neg other, if_pos named, litStr_arm_ok]
        exact ⟨free, lit, rfl, rfl⟩

/-- The arguments read one after another, each under a key that was free. -/
inductive Reading : CddsAttrs → List ListArgument → CddsAttrs → Prop where
  | nil (held : CddsAttrs) : Reading held [] held
  | cons (held result : CddsAttrs) (argument : ListArgument) (rest : List ListArgument)
      (setting : Setting) : Sets argument setting → held.taken setting.key = false →
      Reading (held.add setting) rest result → Reading held (argument :: rest) result

theorem Reading.append_iff (held result : CddsAttrs) (front back : List ListArgument) :
    Reading held (front ++ back) result ↔
      ∃ between, Reading held front between ∧ Reading between back result := by
  induction front generalizing held with
  | nil =>
      constructor
      · intro read
        exact ⟨held, .nil held, read⟩
      · rintro ⟨between, front, back⟩
        cases front
        exact back
  | cons argument front ih =>
      constructor
      · intro read
        cases read with
        | cons _ _ _ _ setting sets free later =>
            obtain ⟨between, first, second⟩ := (ih (held.add setting)).mp later
            exact ⟨between, .cons _ _ _ _ setting sets free first, second⟩
      · rintro ⟨between, first, second⟩
        cases first with
        | cons _ _ _ _ setting sets free later =>
            exact .cons _ _ _ _ setting sets free ((ih _).mpr ⟨between, later, second⟩)

theorem Reading.rest_read (held result : CddsAttrs) (argument : ListArgument)
    (rest : List ListArgument) (read : Reading held (argument :: rest) result) :
    ∃ setting, Sets argument setting ∧ held.taken setting.key = false ∧
      Reading (held.add setting) rest result := by
  cases read with
  | cons _ _ _ _ setting sets free later => exact ⟨setting, sets, free, later⟩

theorem bind_ok_iff {α β : Type} (first : Except String α) (next : α → Except String β)
    (result : β) :
    (first >>= next) = .ok result ↔ ∃ value, first = .ok value ∧ next value = .ok result := by
  cases first with
  | error message => simp [bind, Except.bind]
  | ok value => simp [bind, Except.bind]

theorem parseCddsArg_ok (argument : ListArgument) (item : Meta) :
    parseCddsArg argument = .ok item ↔ argument = .parsed item := by
  cases argument <;> simp [parseCddsArg]

/-- The two passes over a list, its parsing and its reading, take an argument at a time. -/
theorem readList_cons (held result : CddsAttrs) (argument : ListArgument)
    (rest : List ListArgument) :
    ((argument :: rest).mapM parseCddsArg >>= fun nested => nested.foldlM readCddsArg held) =
        .ok result ↔
      ∃ item next, argument = .parsed item ∧ readCddsArg held item = .ok next ∧
        (rest.mapM parseCddsArg >>= fun nested => nested.foldlM readCddsArg next) = .ok result := by
  simp only [List.mapM_cons, bind_ok_iff, parseCddsArg_ok]
  constructor
  · rintro ⟨_, ⟨item, parsed, nested, items, joined⟩, read⟩
    cases joined
    obtain ⟨next, first, later⟩ := (bind_ok_iff _ _ result).mp read
    exact ⟨item, next, parsed, first, nested, items, later⟩
  · rintro ⟨item, next, parsed, first, nested, items, later⟩
    exact ⟨item :: nested, ⟨item, parsed, nested, items, rfl⟩,
      (bind_ok_iff _ _ result).mpr ⟨next, first, later⟩⟩

theorem readList_ok (held result : CddsAttrs) (arguments : List ListArgument) :
    (arguments.mapM parseCddsArg >>= fun nested => nested.foldlM readCddsArg held) = .ok result ↔
      Reading held arguments result := by
  induction arguments generalizing held with
  | nil =>
      constructor
      · intro read
        cases read
        exact .nil _
      · intro read
        cases read
        rfl
  | cons argument rest ih =>
      rw [readList_cons]
      constructor
      · rintro ⟨item, next, rfl, first, later⟩
        obtain ⟨setting, sets, free, rfl⟩ := (readCddsArg_ok held next item).mp first
        exact .cons _ _ _ _ setting sets free ((ih _).mp later)
      · intro read
        obtain ⟨setting, sets, free, later⟩ := read.rest_read
        obtain ⟨item, parsed⟩ : ∃ item, argument = .parsed item := by
          cases sets <;> exact ⟨_, rfl⟩
        subst parsed
        have first := (readCddsArg_ok held _ item).mpr ⟨setting, sets, free, rfl⟩
        exact ⟨item, _, rfl, first, (ih _).mpr later⟩

/-- A `cdds` attribute that is no list ends the parsing. -/
theorem readCddsAttr_noList (held : CddsAttrs) (attr : Attribute) (cdds : attr.isCdds = true)
    (noList : ¬ ∃ path delimiter arguments, attr = .list path delimiter arguments) :
    readCddsAttr held attr = .error expectedListMessage := by
  cases attr with
  | word path => exact if_pos cdds
  | list path delimiter arguments => exact absurd ⟨path, delimiter, arguments, rfl⟩ noList
  | nameValue path value => exact if_pos cdds

/-- A `cdds` list hands what it has read to the attributes behind it. -/
theorem readCddsAttr_list (held next : CddsAttrs) (path : TypePath) (delimiter : Delimiter)
    (arguments : List ListArgument)
    (cdds : (Attribute.list path delimiter arguments).isCdds = true) :
    readCddsAttr held (.list path delimiter arguments) = .ok next ↔
      Reading held arguments next := by
  rw [← readList_ok]
  exact Eq.congr_left (if_pos cdds)

/-- All attributes together are read like one list of arguments. -/
theorem readAttrs_ok (held result : CddsAttrs) (attrs : List Attribute) :
    attrs.foldlM readCddsAttr held = .ok result ↔
      AllLists attrs ∧ Reading held (cddsArguments attrs) result := by
  induction attrs generalizing held with
  | nil =>
      constructor
      · intro read
        cases read
        exact ⟨by simp [AllLists], .nil _⟩
      · rintro ⟨-, read⟩
        cases read
        rfl
  | cons attr rest ih =>
      rw [List.foldlM_cons]
      by_cases cdds : attr.isCdds = true
      · by_cases isList : ∃ path delimiter arguments, attr = .list path delimiter arguments
        · obtain ⟨path, delimiter, arguments, rfl⟩ := isList
          have lists : AllLists (.list path delimiter arguments :: rest) ↔ AllLists rest := by
            simp [AllLists]
          have joined : cddsArguments (.list path delimiter arguments :: rest) =
              arguments ++ cddsArguments rest := by
            simp [cddsArguments, cdds]
          rw [lists, joined, Reading.append_iff, bind_ok_iff]
          simp only [ih, readCddsAttr_list held _ path delimiter arguments cdds]
          constructor
          · rintro ⟨between, front, later, tail⟩
            exact ⟨later, between, front, tail⟩
          · rintro ⟨later, between, front, tail⟩
            exact ⟨between, front, later, tail⟩
        · rw [readCddsAttr_noList held attr cdds isList]
          constructor
          · intro done
            cases done
          · rintro ⟨lists, -⟩
            exact absurd (lists attr List.mem_cons_self cdds) isList
      · have skipped : readCddsAttr held attr = .ok held := if_neg cdds
        have lists : AllLists (attr :: rest) ↔ AllLists rest := by
          simp [AllLists, cdds]
        have arguments : cddsArguments (attr :: rest) = cddsArguments rest := by
          simp [cddsArguments, cdds]
        rw [skipped, lists, arguments]
        exact ih held

/-! Order and grouping -/

/-- A key that is set leaves the other keys free. -/
theorem free_later (held : CddsAttrs) (setting : Setting) (settings : List Setting)
    (other : setting.key ∉ settings.map Setting.key)
    (free : ∀ later ∈ settings, held.taken later.key = false) :
    ∀ later ∈ settings, (held.add setting).taken later.key = false := by
  intro later inRest
  rw [add_taken, free later inRest, Bool.false_or]
  apply decide_eq_false
  intro same
  exact other (List.mem_map.mpr ⟨later, inRest, same⟩)

/-- Reading succeeds exactly when the arguments set distinct keys, all of them free, and
then adds what they set. -/
theorem reading_iff (held result : CddsAttrs) (arguments : List ListArgument) :
    Reading held arguments result ↔
      ∃ settings, List.Forall₂ Sets arguments settings ∧ (settings.map Setting.key).Nodup ∧
        (∀ setting ∈ settings, held.taken setting.key = false) ∧
        ∀ setting, result.holds setting ↔ held.holds setting ∨ setting ∈ settings := by
  induction arguments generalizing held with
  | nil =>
      constructor
      · intro read
        cases read
        exact ⟨[], .nil, by simp, by simp, by simp⟩
      · rintro ⟨settings, sets, -, -, holds⟩
        cases sets
        have same : result = held := holds_ext result held (by simpa using holds)
        rw [same]
        exact .nil held
  | cons argument rest ih =>
      constructor
      · intro read
        obtain ⟨setting, sets, free, later⟩ := read.rest_read
        obtain ⟨settings, restSets, distinct, restFree, holds⟩ := (ih _).mp later
        refine ⟨setting :: settings, .cons sets restSets, ?_, ?_, ?_⟩
        · rw [List.map_cons, List.nodup_cons]
          refine ⟨?_, distinct⟩
          intro again
          obtain ⟨other, held', same⟩ := List.mem_map.mp again
          have untaken := restFree other held'
          rw [add_taken, same] at untaken
          simp at untaken
        · intro other member
          rcases List.mem_cons.mp member with rfl | inRest
          · exact free
          · have untaken := restFree other inRest
            rw [add_taken] at untaken
            exact (Bool.or_eq_false_iff.mp untaken).1
        · intro other
          rw [holds, add_holds held setting other free, List.mem_cons, or_assoc]
      · rintro ⟨settings, sets, distinct, free, holds⟩
        cases sets with
        | cons first restSets =>
            rename_i setting settings
            rw [List.map_cons, List.nodup_cons] at distinct
            have settingFree := free setting List.mem_cons_self
            apply Reading.cons _ _ _ _ setting first settingFree
            refine (ih _).mpr ⟨settings, restSets, distinct.2, ?_, ?_⟩
            · exact free_later held setting settings distinct.1
                fun later inRest => free later (List.mem_cons_of_mem _ inRest)
            · intro other
              rw [holds, add_holds held setting other settingFree, List.mem_cons, or_assoc]

theorem parseCddsAttrs_ok (attrs : List Attribute) (result : CddsAttrs) :
    parseCddsAttrs attrs = .ok result ↔
      AllLists attrs ∧ ∃ settings, List.Forall₂ Sets (cddsArguments attrs) settings ∧
        (settings.map Setting.key).Nodup ∧ ∀ setting, result.holds setting ↔ setting ∈ settings := by
  have empty : ∀ setting, ¬ noCddsAttrs.holds setting := by
    intro setting
    cases setting <;> simp [noCddsAttrs, CddsAttrs.holds]
  have free : ∀ key, noCddsAttrs.taken key = false := by
    intro key
    cases key <;> rfl
  rw [parseCddsAttrs, readAttrs_ok, reading_iff]
  simp [empty, free]

theorem forall₂_setting_iff (arguments : List ListArgument) (settings : List Setting)
    (sets : List.Forall₂ Sets arguments settings) (setting : Setting) :
    setting ∈ settings ↔ ∃ argument ∈ arguments, Sets argument setting := by
  induction sets with
  | nil => simp
  | @cons argument first rest others head tail ih =>
      rw [List.mem_cons, ih, List.exists_mem_cons_iff]
      constructor
      · rintro (rfl | later)
        · exact .inl head
        · exact .inr later
      · rintro (again | later)
        · exact .inl (again.unique _ _ _ head)
        · exact .inr later

theorem adds_exist (held : CddsAttrs) (settings : List Setting)
    (distinct : (settings.map Setting.key).Nodup)
    (free : ∀ setting ∈ settings, held.taken setting.key = false) :
    ∃ result : CddsAttrs, ∀ setting,
      result.holds setting ↔ held.holds setting ∨ setting ∈ settings := by
  induction settings generalizing held with
  | nil => exact ⟨held, by simp⟩
  | cons first settings ih =>
      rw [List.map_cons, List.nodup_cons] at distinct
      obtain ⟨result, holds⟩ := ih (held.add first) distinct.2
        (free_later held first settings distinct.1
          fun later inRest => free later (List.mem_cons_of_mem _ inRest))
      refine ⟨result, fun setting => ?_⟩
      rw [holds, add_holds held first setting (free first List.mem_cons_self), List.mem_cons,
        or_assoc]

/-- Only the settings that are made decide, not their order. -/
theorem parseCddsAttrs_perm (attrs others : List Attribute) (result : CddsAttrs)
    (parsed : parseCddsAttrs attrs = .ok result) (lists : AllLists others)
    (same : (cddsArguments others).Perm (cddsArguments attrs)) :
    parseCddsAttrs others = .ok result := by
  obtain ⟨-, settings, sets, distinct, holds⟩ := (parseCddsAttrs_ok attrs result).mp parsed
  obtain ⟨reordered, otherSets, perm⟩ := List.perm_comp_forall₂ same sets
  refine (parseCddsAttrs_ok others result).mpr ⟨lists, reordered, otherSets, ?_, ?_⟩
  · exact ((perm.map Setting.key).nodup_iff).mpr distinct
  · intro setting
    rw [holds, perm.mem_iff]

/-- The `cdds` attributes are accepted exactly when each is a delimited list of well-formed
arguments with distinct keys. The result holds what the arguments set, however they are
ordered, grouped into lists or mixed with other attributes. -/
theorem parseCddsAttrs_exact :
    (∀ attrs, (∃ result, parseCddsAttrs attrs = .ok result) ↔
      AllLists attrs ∧ ∃ settings, List.Forall₂ Sets (cddsArguments attrs) settings ∧
        (settings.map Setting.key).Nodup) ∧
    (∀ attrs result, parseCddsAttrs attrs = .ok result → ∀ setting,
      (result.holds setting ↔ ∃ argument ∈ cddsArguments attrs, Sets argument setting)) ∧
    (∀ attrs others result, parseCddsAttrs attrs = .ok result → AllLists others →
      (cddsArguments others).Perm (cddsArguments attrs) →
      parseCddsAttrs others = .ok result) := by
  refine ⟨?_, ?_, parseCddsAttrs_perm⟩
  · intro attrs
    constructor
    · rintro ⟨result, parsed⟩
      obtain ⟨lists, settings, sets, distinct, -⟩ := (parseCddsAttrs_ok attrs result).mp parsed
      exact ⟨lists, settings, sets, distinct⟩
    · rintro ⟨lists, settings, sets, distinct⟩
      have free : ∀ setting ∈ settings, noCddsAttrs.taken setting.key = false := by
        intro setting _
        cases setting <;> rfl
      obtain ⟨result, holds⟩ := adds_exist noCddsAttrs settings distinct free
      have reading := (reading_iff noCddsAttrs result (cddsArguments attrs)).mpr
        ⟨settings, sets, distinct, free, holds⟩
      exact ⟨result, (readAttrs_ok noCddsAttrs result attrs).mpr ⟨lists, reading⟩⟩
  · intro attrs result parsed setting
    obtain ⟨-, settings, sets, -, holds⟩ := (parseCddsAttrs_ok attrs result).mp parsed
    rw [holds, forall₂_setting_iff _ _ sets]

def packageArgument : ListArgument := .parsed (.nameValue (.ident "package") (.litStr ⟨"pkg"⟩))

def nameArgument : ListArgument := .parsed (.nameValue (.ident "name") (.litStr ⟨"Renamed"⟩))

/-- Two lists in another order, with a `repr` attribute between them. -/
theorem parseCddsAttrs_regrouped :
    parseCddsAttrs [.list (.ident "cdds") .paren [nameArgument],
        .list (.ident "repr") .paren [.noPath "1"],
        .list (.ident "cdds") .paren [packageArgument]] =
      .ok { fixedSize := false, package := some ⟨"pkg"⟩, name := some ⟨"Renamed"⟩ } := by
  apply parseCddsAttrs_exact.2.2
    [.list (.ident "cdds") .paren [packageArgument, nameArgument]]
  · rfl
  · intro attr held _
    simp only [List.mem_cons, List.not_mem_nil, or_false] at held
    rcases held with rfl | rfl | rfl <;> exact ⟨_, _, _, rfl⟩
  · decide

def Parenthesised (attrs : List Attribute) : Prop :=
  ∀ attr ∈ attrs, attr.isCdds = true → ∃ path arguments, attr = .list path .paren arguments

/-- A list in brackets is accepted too. -/
theorem bracketed_list_accepted :
    (∃ result, parseCddsAttrs
      [.list (.ident "cdds") .bracket [.parsed (.path (.ident "fixed_size"))]] = .ok result) ∧
    ¬ Parenthesised [.list (.ident "cdds") .bracket [.parsed (.path (.ident "fixed_size"))]] := by
  constructor
  · exact ⟨_, rfl⟩
  · intro parenthesised
    obtain ⟨path, arguments, same⟩ := parenthesised _ List.mem_cons_self rfl
    cases same

end CycloneddsRs.CddsAttributes
