import SqlDialect.Text.Basic

/-! Strings as a TOML document holds them: in the plainest of the four forms that needs no
escape, or else escaped. -/

set_option autoImplicit false

namespace SqlDialect.Toml

-- The length of the longest run of a character. The first number is that of the run at the head so
-- far.
def longestRunFrom (mark : Char) : Nat → Text → Nat
  | run, [] => run
  | run, c :: r =>
    if c = mark then longestRunFrom mark (run + 1) r else max run (longestRunFrom mark 0 r)

def longestRun (mark : Char) (s : Text) : Nat := longestRunFrom mark 0 s

def needsEscape (c : Char) : Bool :=
  (c.toNat < 0x20 && c != '\t' && c != '\n') || c.toNat == 0x7F

def escapeChar (c : Char) : Text :=
  if c = '"' then "\\\""
  else if c = '\\' then "\\\\"
  else if c = '\x08' then "\\b"
  else if c = '\t' then "\\t"
  else if c = '\n' then "\\n"
  else if c = '\x0c' then "\\f"
  else if c = '\r' then "\\r"
  else if needsEscape c then
    "\\u00" ++ [(Text.hexDigit (c.toNat / 16)).toUpper, (Text.hexDigit (c.toNat % 16)).toUpper]
  else [c]

-- The content of a string of many lines between quotation marks, of which two may stand side by
-- side. The number is that of those right before.
def escapeLines : Nat → Text → Text
  | _, [] => []
  | run, c :: r =>
    if c = '"' then
      if run < 2 then c :: escapeLines (run + 1) r else '\\' :: c :: escapeLines 0 r
    else if c = '\n' then c :: escapeLines 0 r
    else escapeChar c ++ escapeLines 0 r

/-- The content of a string of many lines begins on a new line if it has any line feed. -/
def ofLines (marks content : Text) (s : Text) : Text :=
  marks ++ (if '\n' ∈ s then ['\n'] else []) ++ content ++ marks

def quote (s : Text) : Text :=
  let marks := longestRun '"' s
  let apostrophes := longestRun '\'' s
  let escapes := s.any needsEscape
  if !escapes ∧ '\\' ∉ s ∧ marks = 0 ∧ '\n' ∉ s then '"' :: s.flatMap escapeChar ++ ['"']
  else if !escapes ∧ apostrophes = 0 ∧ '\n' ∉ s then '\'' :: s ++ ['\'']
  else if !escapes ∧ '\\' ∉ s ∧ marks ≤ 2 then ofLines "\"\"\"" (escapeLines 0 s) s
  else if !escapes ∧ apostrophes ≤ 2 then ofLines "'''" s s
  else if '\n' ∈ s then ofLines "\"\"\"" (escapeLines 0 s) s
  else '"' :: s.flatMap escapeChar ++ ['"']

end SqlDialect.Toml
