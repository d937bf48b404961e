import Mathlib.Data.List.Basic

/-!
Names accepted by the derive macros: ROS 2 package, type and field names. They are
plain ASCII words, so that a definition text can be read back at its delimiters.
-/

namespace CycloneddsRs.Naming

/-- The loop of `validate_lower_snake_case` behind the first character. -/
def checkSnakeChars : Bool → List Char → Except String Unit
  | _, [] => .ok ()
  | prevUnderscore, c :: chars =>
      if c = '_' then
        if prevUnderscore then .error "must not contain consecutive underscores (`__`)"
        else checkSnakeChars true chars
      else if c.isLower || c.isDigit then checkSnakeChars false chars
      else .error ("must contain only lowercase ASCII letters, digits, or `_`, found `" ++
        String.singleton c ++ "`")

def validateLowerSnakeCase (s : String) : Except String Unit :=
  match s.toList with
  | [] => .error "must not be empty"
  | first :: chars =>
      if !first.isLower then
        .error ("must start with a lowercase ASCII letter, found `" ++
          String.singleton first ++ "`")
      else
        match checkSnakeChars false chars with
        | .error reason => .error reason
        | .ok () =>
            if (first :: chars).getLast? = some '_' then
              .error "must not end with an underscore"
            else .ok ()

def checkTypeChars : List Char → Except String Unit
  | [] => .ok ()
  | c :: chars =>
      if c.isAlphanum then checkTypeChars chars
      else .error ("must contain only ASCII letters and digits (no `_` or `-`), found `" ++
        String.singleton c ++ "`")

def validateRosTypeName (name : String) : Except String Unit :=
  match name.toList with
  | [] => .error "must not be empty"
  | first :: chars =>
      if !first.isUpper then
        .error ("must start with an uppercase ASCII letter, found `" ++
          String.singleton first ++ "`")
      else checkTypeChars chars

def idlKeywords : List String :=
  ["abstract", "any", "alias", "attribute", "bitfield", "bitmask", "bitset", "boolean", "case",
   "char", "component", "connector", "const", "consumes", "context", "custom", "default",
   "double", "exception", "emits", "enum", "eventtype", "factory", "false", "finder", "fixed",
   "float", "getraises", "home", "import", "in", "inout", "interface", "local", "long",
   "manages", "map", "mirrorport", "module", "multiple", "native", "object", "octet", "oneway",
   "out", "primarykey", "private", "port", "porttype", "provides", "public", "publishes",
   "raises", "readonly", "setraises", "sequence", "short", "string", "struct", "supports",
   "switch", "true", "truncatable", "typedef", "typeid", "typename", "typeprefix", "unsigned",
   "union", "uses", "valuebase", "valuetype", "void", "wchar", "wstring", "int8", "uint8",
   "int16", "int32", "int64", "uint16", "uint32", "uint64"]

def cCppKeywords : List String :=
  ["auto", "break", "continue", "do", "else", "extern", "for", "goto", "if", "inline", "int",
   "register", "restrict", "return", "signed", "sizeof", "static", "volatile", "while",
   "alignas", "alignof", "and", "and_eq", "asm", "atomic_cancel", "atomic_commit",
   "atomic_noexcept", "audit", "axiom", "bitand", "bitor", "bool", "catch", "char8_t",
   "char16_t", "char32_t", "class", "co_await", "co_return", "co_yield", "compl", "concept",
   "const_cast", "consteval", "constexpr", "constinit", "decltype", "delete", "dynamic_cast",
   "explicit", "export", "friend", "mutable", "namespace", "new", "noexcept", "not", "not_eq",
   "nullptr", "operator", "or", "or_eq", "protected", "reflexpr", "reinterpret_cast",
   "requires", "template", "this", "thread_local", "throw", "try", "using", "virtual",
   "wchar_t", "xor", "xor_eq"]

def pythonKeywords : List String :=
  ["as", "assert", "async", "await", "def", "del", "elif", "except", "finally", "from",
   "global", "is", "lambda", "nonlocal", "none", "pass", "raise", "with", "yield"]

def isReservedKeyword (name : String) : Bool :=
  idlKeywords.contains name || cCppKeywords.contains name || pythonKeywords.contains name

def rejectReservedKeyword (name context : String) : Except String Unit :=
  if isReservedKeyword name then
    .error ("`" ++ name ++ "` is a reserved IDL/C/C++/Python keyword and cannot be used as " ++
      context)
  else .ok ()

def validateMsgFieldName (name : String) : Except String Unit :=
  match validateLowerSnakeCase name with
  | .error reason => .error reason
  | .ok () => rejectReservedKeyword name "a .msg/IDL field name"

def validateRosPackageName (name : String) : Except String Unit := validateLowerSnakeCase name

/-- Packages become `module` names: a reserved one is escaped, not refused. -/
def escapeIdlIdentifier (name : String) : String :=
  if isReservedKeyword name then "_" ++ name else name

/-! Accepted names as words -/

def wordChar (c : Char) : Bool := c.isAlphanum || c == '_'

/-- A word that starts with a character of its own kind. -/
def WordFrom (start : Char → Bool) (text : List Char) : Prop :=
  ∃ first rest, text = first :: rest ∧ start first = true ∧ ∀ c ∈ text, wordChar c = true

theorem wordChar_lower (c : Char) (lower : c.isLower = true) : wordChar c = true := by
  change (((c.isUpper || c.isLower) || c.isDigit) || c == '_') = true
  rw [lower, Bool.or_true, Bool.true_or, Bool.true_or]

theorem wordChar_upper (c : Char) (upper : c.isUpper = true) : wordChar c = true := by
  change (((c.isUpper || c.isLower) || c.isDigit) || c == '_') = true
  rw [upper, Bool.true_or, Bool.true_or, Bool.true_or]

theorem checkSnakeChars_word (prevUnderscore : Bool) (chars : List Char)
    (accepted : checkSnakeChars prevUnderscore chars = .ok ()) :
    ∀ c ∈ chars, wordChar c = true := by
  induction chars generalizing prevUnderscore with
  | nil => nofun
  | cons first chars ih =>
      intro c member
      rw [checkSnakeChars] at accepted
      split at accepted
      · rename_i underscore
        split at accepted
        · cases accepted
        · rcases List.mem_cons.mp member with rfl | later
          · simp [wordChar, underscore]
          · exact ih true accepted c later
      · split at accepted
        · rename_i letter
          rcases List.mem_cons.mp member with rfl | later
          · rcases Bool.or_eq_true_iff.mp letter with lower | digit
            · exact wordChar_lower c lower
            · simp [wordChar, Char.isAlphanum, digit]
          · exact ih false accepted c later
        · cases accepted

theorem validateLowerSnakeCase_word (s : String) (accepted : validateLowerSnakeCase s = .ok ()) :
    WordFrom Char.isLower s.toList := by
  unfold validateLowerSnakeCase at accepted
  split at accepted
  · cases accepted
  · rename_i first chars text
    split at accepted
    · cases accepted
    · rename_i lower
      have lower : first.isLower = true := by simpa using lower
      split at accepted
      · cases accepted
      · rename_i checked
        refine ⟨first, chars, text, lower, ?_⟩
        intro c member
        rw [text] at member
        rcases List.mem_cons.mp member with rfl | later
        · exact wordChar_lower c lower
        · exact checkSnakeChars_word false chars checked c later

theorem validateMsgFieldName_word (name : String) (accepted : validateMsgFieldName name = .ok ()) :
    WordFrom Char.isLower name.toList := by
  unfold validateMsgFieldName at accepted
  split at accepted
  · cases accepted
  · rename_i snake
    exact validateLowerSnakeCase_word name snake

theorem checkTypeChars_alphanum (chars : List Char) (accepted : checkTypeChars chars = .ok ()) :
    ∀ c ∈ chars, c.isAlphanum = true := by
  induction chars with
  | nil => nofun
  | cons first chars ih =>
      intro c member
      rw [checkTypeChars] at accepted
      split at accepted
      · rename_i letter
        rcases List.mem_cons.mp member with rfl | later
        · exact letter
        · exact ih accepted c later
      · cases accepted

theorem validateRosTypeName_word (name : String) (accepted : validateRosTypeName name = .ok ()) :
    WordFrom Char.isUpper name.toList := by
  unfold validateRosTypeName at accepted
  split at accepted
  · cases accepted
  · rename_i first chars text
    split at accepted
    · cases accepted
    · rename_i upper
      have upper : first.isUpper = true := by simpa using upper
      refine ⟨first, chars, text, upper, ?_⟩
      intro c member
      rw [text] at member
      rcases List.mem_cons.mp member with rfl | later
      · exact wordChar_upper c upper
      · simp [wordChar, checkTypeChars_alphanum chars accepted c later]

/-- An accepted package never starts with the underscore of an escaped one. -/
theorem escapeIdlIdentifier_injective (first second : String)
    (firstAccepted : validateRosPackageName first = .ok ())
    (secondAccepted : validateRosPackageName second = .ok ())
    (same : escapeIdlIdentifier first = escapeIdlIdentifier second) : first = second := by
  obtain ⟨firstHead, firstRest, firstText, firstLower, -⟩ :=
    validateLowerSnakeCase_word first firstAccepted
  obtain ⟨secondHead, secondRest, secondText, secondLower, -⟩ :=
    validateLowerSnakeCase_word second secondAccepted
  have texts := congrArg String.toList same
  unfold escapeIdlIdentifier at texts
  have underscore : ("_" : String).toList = ['_'] := rfl
  split at texts <;> split at texts
  · rw [String.toList_append, String.toList_append] at texts
    exact String.toList_inj.mp (List.append_cancel_left texts)
  · rw [String.toList_append, underscore, secondText] at texts
    rw [← (List.cons.inj texts).1] at secondLower
    cases secondLower
  · rw [String.toList_append, underscore, firstText] at texts
    rw [(List.cons.inj texts).1] at firstLower
    cases firstLower
  · exact String.toList_inj.mp texts

theorem escapeIdlIdentifier_word (package : String)
    (accepted : validateRosPackageName package = .ok ()) :
    (escapeIdlIdentifier package).toList ≠ [] ∧
      ∀ c ∈ (escapeIdlIdentifier package).toList, wordChar c = true := by
  obtain ⟨first, rest, text, -, word⟩ := validateLowerSnakeCase_word package accepted
  unfold escapeIdlIdentifier
  split
  · rw [String.toList_append]
    refine ⟨List.cons_ne_nil _ _, ?_⟩
    intro c member
    rcases List.mem_append.mp member with escape | inside
    · rw [List.mem_singleton.mp escape]
      rfl
    · exact word c inside
  · rw [text]
    refine ⟨List.cons_ne_nil first rest, ?_⟩
    rw [← text]
    exact word

end CycloneddsRs.Naming
