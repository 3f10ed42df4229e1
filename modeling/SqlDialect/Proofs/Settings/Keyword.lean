import SqlDialect.Proofs.Text.Numeral
import SqlDialect.Proofs.Text.Part
import SqlDialect.Settings.Connection

/-! Texts of keywords and values read back.

A text is read pair by pair, with white space between the pairs and around the equals signs. A value
runs to the next white space or, behind an apostrophe, to the next apostrophe, and in both a
backslash stands for the character after it. Nothing is asked of what is white space but that the
space is and no other printable ASCII character, so one reading serves for all readers. A quoted
value is read as it was given, whatever it holds, and so a connection is told as it was set.
-/

set_option autoImplicit false

namespace SqlDialect

def isGraphic (c : Char) : Bool := '!' ≤ c && c ≤ '~'

/-- The space is white space, and no other printable ASCII character is. -/
structure IsSpacing (isSpace : Char → Bool) : Prop where
  space : isSpace ' ' = true
  graphic : ∀ c, isGraphic c = true → isSpace c = false

theorem isGraphic_iff {c : Char} : isGraphic c = true ↔ 33 ≤ c.toNat ∧ c.toNat ≤ 126 := by
  simp only [isGraphic, Bool.and_eq_true, decide_eq_true_eq]
  exact and_congr UInt32.le_iff_toNat_le UInt32.le_iff_toNat_le

theorem isSpacing_isBlank : IsSpacing isBlank where
  space := by decide
  graphic c graphic := by
    have := isGraphic_iff.1 graphic
    unfold isBlank
    simp
    omega

theorem IsSpacing.ne_of_isSpace {isSpace : Char → Bool} (spacing : IsSpacing isSpace)
    {c d : Char} (space : isSpace c = true) (graphic : isGraphic d = true) : c ≠ d := by
  rintro rfl
  rw [spacing.graphic c graphic] at space
  cases space

namespace KeywordValue

/-! ## Reading -/

/-- The value behind an apostrophe up to the next one, and what follows. -/
def readQuoted? : Text → Option (Text × Text)
  | [] | ['\\'] => none
  | '\'' :: r => some ([], r)
  | '\\' :: c :: r | c :: r => (readQuoted? r).map fun (value, rest) => (c :: value, rest)

section

variable (isSpace : Char → Bool)

/-- The value up to the next white space, and what follows. -/
def readBare : Text → Text × Text
  | [] | ['\\'] => ([], [])
  | '\\' :: c :: r => (c :: (readBare r).1, (readBare r).2)
  | c :: r => if isSpace c then ([], c :: r) else (c :: (readBare r).1, (readBare r).2)

def inKeyword (c : Char) : Bool := c != '=' && !isSpace c

/-- The keyword and the value at the head of a text, and what follows. -/
def readPair? (s : Text) : Option ((Text × Text) × Text) :=
  let keyword := s.takeWhile (inKeyword isSpace)
  if keyword = [] then none
  else
    match (s.dropWhile (inKeyword isSpace)).dropWhile isSpace with
    | '=' :: r =>
      match r.dropWhile isSpace with
      | '\'' :: quoted => (readQuoted? quoted).map fun (value, rest) => ((keyword, value), rest)
      | bare => some ((keyword, (readBare isSpace bare).1), (readBare isSpace bare).2)
    | _ => none

/-! What is left to read is an end of the text, and a shorter one behind a pair. -/

theorem suffix_of_readQuoted? {s value rest : Text} (read : readQuoted? s = some (value, rest)) :
    rest <:+ s := by
  fun_induction readQuoted? s generalizing value with
  | case1 | case2 => cases read
  | case3 r =>
    cases read
    exact List.suffix_cons _ _
  | case4 c r ih =>
    obtain ⟨⟨value, rest⟩, later, ⟨⟩⟩ := Option.map_eq_some_iff.1 read
    exact (ih later).trans ((List.suffix_cons _ _).trans (List.suffix_cons _ _))
  | case5 c r _ _ _ ih =>
    obtain ⟨⟨value, rest⟩, later, ⟨⟩⟩ := Option.map_eq_some_iff.1 read
    exact (ih later).trans (List.suffix_cons _ _)

theorem readBare_suffix (s : Text) : (readBare isSpace s).2 <:+ s := by
  fun_induction readBare isSpace s with
  | case1 => exact List.suffix_rfl
  | case2 => exact List.nil_suffix
  | case3 c r ih => exact ih.trans ((List.suffix_cons _ _).trans (List.suffix_cons _ _))
  | case4 c r _ _ space => exact List.suffix_rfl
  | case5 c r _ _ other ih => exact ih.trans (List.suffix_cons _ _)

theorem length_lt_of_readPair? {s rest : Text} {pair : Text × Text}
    (read : readPair? isSpace s = some (pair, rest)) : rest.length < s.length := by
  unfold readPair? at read
  dsimp only at read
  split at read
  · cases read
  split at read
  next r sign =>
    have left : rest <:+ r := by
      split at read
      next quoted opened =>
        obtain ⟨⟨value, rest⟩, found, ⟨⟩⟩ := Option.map_eq_some_iff.1 read
        refine (suffix_of_readQuoted? found).trans ((List.suffix_cons '\'' quoted).trans ?_)
        rw [← opened]
        exact List.dropWhile_suffix _
      next =>
        cases read
        exact (readBare_suffix isSpace _).trans (List.dropWhile_suffix _)
    have whole : '=' :: r <:+ s := by
      rw [← sign]
      exact (List.dropWhile_suffix _).trans (List.dropWhile_suffix _)
    exact Nat.lt_of_le_of_lt left.length_le (Nat.lt_of_succ_le whole.length_le)
  next => cases read

-- The keywords and values of a text in order, if it has nothing else but white space.
def parse? (s : Text) : Option (List (Text × Text)) :=
  match _h : s.dropWhile isSpace with
  | [] => some []
  | c :: r =>
    match _read : readPair? isSpace (c :: r) with
    | none => none
    | some (pair, rest) => (parse? rest).map (pair :: ·)
termination_by s.length
decreasing_by
  have shorter := length_lt_of_readPair? isSpace _read
  rw [← _h] at shorter
  exact Nat.lt_of_lt_of_le shorter (List.dropWhile_suffix _).length_le

end

/-! ## Quoted values -/

-- A backslash that is written for an apostrophe is not seen by the pass that doubles backslashes.
theorem escape_cons (c : Char) (value : Text) :
    escape (c :: value) =
      if c = '\\' ∨ c = '\'' then '\\' :: c :: escape value else c :: escape value := by
  unfold escape
  rw [Text.replaceChar_cons]
  by_cases backslash : c = '\\'
  · subst backslash
    rfl
  · rw [if_neg backslash, List.singleton_append, Text.replaceChar_cons]
    by_cases apostrophe : c = '\''
    · rw [if_pos apostrophe, if_pos (.inr apostrophe), apostrophe]
      rfl
    · rw [if_neg apostrophe, if_neg (not_or.2 ⟨backslash, apostrophe⟩)]
      rfl

theorem readQuoted?_escape (value rest : Text) :
    readQuoted? (escape value ++ '\'' :: rest) = some (value, rest) := by
  induction value with
  | nil => rfl
  | cons c value ih =>
    rw [escape_cons]
    split
    next => rw [List.cons_append, List.cons_append, readQuoted?, ih, Option.map_some]
    next plain =>
      obtain ⟨notBackslash, notApostrophe⟩ := not_or.1 plain
      rw [List.cons_append, readQuoted?, ih, Option.map_some]
      · rintro rfl
        exact fun _ => notBackslash rfl
      · exact notApostrophe
      · exact fun _ _ same => absurd same notBackslash

/-! ## Pairs -/

def isKeywordChar (c : Char) : Bool := isGraphic c && c != '='

def isBareChar (c : Char) : Bool := isGraphic c && c != '\\' && c != '\''

/-- What is asked of a pair that is to be read as it is written: a keyword that ends at its equals
sign, and a value that is quoted unless it is a word without marks of its own. -/
structure Readable (pair : KeywordValue) : Prop where
  keyword_ne_nil : pair.keyword ≠ []
  keyword : pair.keyword.all isKeywordChar = true
  value_ne_nil : pair.isQuoted = false → pair.value ≠ []
  value : pair.isQuoted = false → pair.value.all isBareChar = true

theorem isKeywordChar_iff {c : Char} : isKeywordChar c = true ↔ isGraphic c = true ∧ c ≠ '=' := by
  simp [isKeywordChar]

theorem isBareChar_iff {c : Char} :
    isBareChar c = true ↔ isGraphic c = true ∧ c ≠ '\\' ∧ c ≠ '\'' := by
  simp [isBareChar, and_assoc]

section

variable {isSpace : Char → Bool} {pair : KeywordValue} {rest : Text}

theorem readBare_append (spacing : IsSpacing isSpace) {value : Text}
    (bare : value.all isBareChar = true) (stop : ∀ c ∈ rest.head?, isSpace c = true) :
    readBare isSpace (value ++ rest) = (value, rest) := by
  induction value with
  | nil =>
    cases rest with
    | nil => rfl
    | cons c r =>
      have space := stop c rfl
      have notBackslash : c ≠ '\\' := spacing.ne_of_isSpace space (by decide)
      rw [List.nil_append, readBare, if_pos space]
      · exact fun same _ => notBackslash same
      · exact fun _ _ same _ => notBackslash same
  | cons c value ih =>
    rw [List.all_cons, Bool.and_eq_true, isBareChar_iff] at bare
    obtain ⟨⟨graphic, notBackslash, -⟩, bare⟩ := bare
    rw [List.cons_append, readBare, if_neg (by simp [spacing.graphic c graphic]), ih bare]
    · exact fun same _ => notBackslash same
    · exact fun _ _ same _ => notBackslash same

theorem readPair?_toText (spacing : IsSpacing isSpace) (readable : pair.Readable)
    (stop : ∀ c ∈ rest.head?, isSpace c = true) :
    readPair? isSpace (pair.toText ++ rest) = some ((pair.keyword, pair.value), rest) := by
  obtain ⟨keyword, value, isQuoted⟩ := pair
  have inside : ∀ c ∈ keyword, inKeyword isSpace c = true := by
    intro c mem
    obtain ⟨graphic, notSign⟩ := isKeywordChar_iff.1 (List.all_eq_true.1 readable.keyword c mem)
    simp [inKeyword, notSign, spacing.graphic c graphic]
  have visible {c : Char} (graphic : isGraphic c = true) (r : Text) :
      (c :: r).dropWhile isSpace = c :: r :=
    List.dropWhile_cons_of_neg (by simp [spacing.graphic c graphic])
  have sign (r : Text) : ∀ c ∈ ('=' :: r).head?, inKeyword isSpace c = false := by
    simp [inKeyword]
  rw [toText, List.append_assoc, List.cons_append, readPair?]
  dsimp only
  rw [takeWhile_run inside (sign _), dropWhile_run inside (sign _), visible (by decide),
    if_neg readable.keyword_ne_nil]
  cases isQuoted with
  | true =>
    simp only [if_true, quote, List.cons_append, List.append_assoc, List.nil_append]
    simp only [visible (by decide : isGraphic '\'' = true), readQuoted?_escape, Option.map_some]
  | false =>
    have read := readBare_append spacing (readable.value rfl) stop
    obtain ⟨c, value, rfl⟩ := List.exists_cons_of_ne_nil (readable.value_ne_nil rfl)
    obtain ⟨graphic, -, notApostrophe⟩ :=
      isBareChar_iff.1 (List.all_eq_true.1 (readable.value rfl) c List.mem_cons_self)
    simp only [Bool.false_eq_true, if_false, List.cons_append, visible graphic]
    split
    next opened => exact absurd (List.cons.inj opened).1 notApostrophe
    next => rw [← List.cons_append, read]

theorem parse?_dropWhile (s : Text) : parse? isSpace (s.dropWhile isSpace) = parse? isSpace s := by
  have same : (s.dropWhile isSpace).dropWhile isSpace = s.dropWhile isSpace :=
    List.dropWhile_idempotent isSpace s
  rw [parse?, parse?, same]

theorem parse?_space (spacing : IsSpacing isSpace) (s : Text) :
    parse? isSpace (' ' :: s) = parse? isSpace s := by
  rw [← parse?_dropWhile, List.dropWhile_cons_of_pos spacing.space, parse?_dropWhile]

theorem parse?_toText_append (spacing : IsSpacing isSpace) (readable : pair.Readable)
    (stop : ∀ c ∈ rest.head?, isSpace c = true) :
    parse? isSpace (pair.toText ++ rest) =
      (parse? isSpace rest).map ((pair.keyword, pair.value) :: ·) := by
  have read := readPair?_toText spacing readable stop
  have kept : (pair.toText ++ rest).dropWhile isSpace = pair.toText ++ rest := by
    obtain ⟨c, keyword, begins⟩ := List.exists_cons_of_ne_nil readable.keyword_ne_nil
    have first := readable.keyword
    rw [begins, List.all_cons, Bool.and_eq_true, isKeywordChar_iff] at first
    obtain ⟨⟨graphic, -⟩, -⟩ := first
    rw [toText, begins]
    exact List.dropWhile_cons_of_neg (by simp [spacing.graphic c graphic])
  rw [parse?]
  split
  next empty =>
    rw [kept] at empty
    rw [empty] at read
    cases read
  next c r opened =>
    rw [← kept, opened] at read
    split
    next failed =>
      rw [failed] at read
      cases read
    next found =>
      rw [found] at read
      cases read
      rfl

theorem parse?_intercalate (spacing : IsSpacing isSpace) {pairs : List KeywordValue}
    (readable : ∀ pair ∈ pairs, pair.Readable) :
    parse? isSpace (List.intercalate [' '] (pairs.map toText)) =
      some (pairs.map fun pair => (pair.keyword, pair.value)) := by
  induction pairs with
  | nil => rw [List.map_nil, List.intercalate_nil, parse?]; rfl
  | cons pair pairs ih =>
    obtain ⟨first, readable⟩ := List.forall_mem_cons.1 readable
    have later := ih readable
    cases pairs with
    | nil =>
      have alone : parse? isSpace (pair.toText ++ []) = _ :=
        parse?_toText_append spacing first nofun
      rw [List.append_nil] at alone
      rw [List.map_singleton, List.intercalate_singleton, alone, parse?]
      rfl
    | cons other pairs =>
      rw [List.map_cons] at later ⊢
      rw [List.map_cons, List.intercalate_cons_cons, List.append_assoc,
        parse?_toText_append spacing first (by simp [spacing.space]), List.singleton_append,
        parse?_space spacing, later]
      rfl

end

end KeywordValue

/-! ## Connections -/

namespace ConnectionSettings

open KeywordValue (Readable isBareChar_iff isKeywordChar parse?)

theorem readable_quoted {keyword : Text} (nonempty : keyword ≠ [])
    (keywordChars : keyword.all isKeywordChar = true) (value : Text) :
    Readable ⟨keyword, value, true⟩ :=
  ⟨nonempty, keywordChars, nofun, nofun⟩

theorem readable_number {keyword : Text} (nonempty : keyword ≠ [])
    (keywordChars : keyword.all isKeywordChar = true) (n : Nat) :
    Readable ⟨keyword, Text.ofNat n, false⟩ where
  keyword_ne_nil := nonempty
  keyword := keywordChars
  value_ne_nil _ := (Text.digits_ofNat n).1
  value _ := by
    refine List.all_eq_true.2 fun c mem => ?_
    have range := toNat_of_isDigit (Text.isDigit_of_mem_ofNat mem)
    refine isBareChar_iff.2 ⟨isGraphic_iff.2 (by omega), ?_, ?_⟩ <;> rintro rfl <;> simp at range

theorem readable_mode (mode : SslMode) : Readable ⟨"sslmode", mode.name, false⟩ := by
  cases mode <;> exact ⟨by decide, by decide, by decide, by decide⟩

theorem readable_keywordValues (s : ConnectionSettings) :
    ∀ pair ∈ s.keywordValues, pair.Readable := by
  simp only [keywordValues, List.forall_mem_cons, List.not_mem_nil, false_imp_iff, implies_true,
    and_true]
  exact ⟨readable_quoted (by decide) (by decide) _, readable_number (by decide) (by decide) _,
    readable_quoted (by decide) (by decide) _, readable_quoted (by decide) (by decide) _,
    readable_quoted (by decide) (by decide) _, readable_mode _,
    readable_number (by decide) (by decide) _⟩

/-- A connection is told as it was set: whatever its texts hold, none ends early, loses a character
or is taken for a keyword. -/
theorem parse?_connectionString {isSpace : Char → Bool} (spacing : IsSpacing isSpace)
    (s : ConnectionSettings) :
    parse? isSpace s.connectionString = some ([
      ("host", s.host),
      ("port", Text.ofNat s.port.toNat),
      ("dbname", s.database),
      ("user", s.username),
      ("password", s.password),
      ("sslmode", s.sslMode.name),
      ("connect_timeout", Text.ofNat s.connectTimeout.toNat)] : List (Text × Text)) :=
  KeywordValue.parse?_intercalate spacing s.readable_keywordValues

-- A password that would end its quotes and name another host, and a user who ends in a backslash.
theorem parse?_connectionString_marks :
    IsSpacing isBlank ∧
    parse? isBlank (connectionString
      { default with username := "a\\", password := "' host='b\\\\'\n" }) = some ([
      ("host", "localhost"),
      ("port", "5432"),
      ("dbname", "postgres"),
      ("user", "a\\"),
      ("password", "' host='b\\\\'\n"),
      ("sslmode", "prefer"),
      ("connect_timeout", "10")] : List (Text × Text)) :=
  ⟨isSpacing_isBlank, parse?_connectionString isSpacing_isBlank _⟩

end ConnectionSettings

end SqlDialect
