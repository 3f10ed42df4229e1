import SqlDialect.Toml.Scalar

/-! TOML documents read from text. -/

set_option autoImplicit false

namespace SqlDialect.Toml

def afterLine? (s : Text) : Option Text :=
  let r : Text :=
    match dropSpace s with
    | '#' :: r => r.dropWhile isPlain
    | r => r
  if r = [] then some [] else afterNewline? r

def dropGap : Bool → Text → Text
  | _, [] => []
  | _, '\n' :: r => dropGap false r
  | _, '\r' :: '\n' :: r => dropGap false r
  | inComment, c :: r =>
    if inComment then if isPlain c then dropGap true r else c :: r
    else if isSpace c then dropGap false r
    else if c = '#' then dropGap true r
    else c :: r

def isKeyChar (c : Char) : Bool := c.isAlphanum || c == '-' || c == '_'

def readSimpleKey (s : Text) : Option (Text × Text) :=
  match s with
  | '"' :: r => readBasic r
  | '\'' :: r => readLiteral r
  | s =>
    let key := s.takeWhile isKeyChar
    if key = [] then none else some (key, s.drop key.length)

/-- Keys with points between them, at most `count`: all but the last, and the last. -/
def readKeys : Nat → Text → Option ((List Text × Text) × Text)
  | 0, _ => none
  | count + 1, s => do
    let (key, r) ← readSimpleKey (dropSpace s)
    match dropSpace r with
    | '.' :: r =>
      let ((path, last), r) ← readKeys count r
      return ((key :: path, last), r)
    | r => return (([], key), r)

def readKey (s : Text) : Option ((List Text × Text) × Text) := readKeys 79 s

def readPair (item : Text → Option (Toml × Text)) (s : Text) : Option ((List Text × Text × Toml) × Text) := do
  let ((path, key), r) ← readKey s
  let r ← afterMark? '=' r
  let (value, r) ← item (dropSpace r)
  return ((path, key, value), r)

-- The items after an opening bracket, each read by `item`. Every item takes a character, so the
-- length of the text bounds their number.
def readItems (item : Text → Option (Toml × Text)) : Nat → Text → Option (List Toml × Text)
  | 0, _ => none
  | fuel + 1, s =>
    match dropGap false s with
    | ']' :: r => some ([], r)
    | s => do
      let (value, r) ← item s
      match dropGap false r with
      | ']' :: r => return ([value], r)
      | ',' :: r =>
        let (rest, r) ← readItems item fuel r
        return (value :: rest, r)
      | _ => none

def readPairs (item : Text → Option (Toml × Text)) : Nat → Text → Option (List (List Text × Text × Toml) × Text)
  | 0, _ => none
  | fuel + 1, s => do
    let (pair, r) ← readPair item s
    match dropSpace r with
    | '\x7d' :: r => return ([pair], r)
    | ',' :: r =>
      let (rest, r) ← readPairs item fuel r
      return (pair :: rest, r)
    | _ => none

-- A value. At most `depth` brackets and braces may be open, less one.
def readValue : Nat → Text → Option (Toml × Text)
  | 0, _ => none
  | depth + 1, s =>
    match s with
    | [] => none
    | '[' :: r =>
      if depth = 0 then none
      else (readItems (readValue depth) (r.length + 1) r).map fun (items, r) => (array items, r)
    | '\x7b' :: r =>
      if depth = 0 then none
      else
        match dropSpace r with
        | '\x7d' :: r => some (inlineTable [], r)
        | r => do
          let (pairs, r) ← readPairs (readValue depth) (r.length + 1) r
          let value ← ofPairs pairs
          return (value, r)
    | c :: r =>
      if c = '"' ∨ c = '\'' then (readString (c :: r)).map fun (s, r) => (string s, r)
      else
        match afterWord? "true" (c :: r), afterWord? "false" (c :: r) with
        | some r, _ => some (boolean true, r)
        | _, some r => some (boolean false, r)
        | none, none => (readDatetime (c :: r)).orElse fun _ => readNumber (c :: r)

def depthLimit : Nat := 80

/-- A document under way: its entries, and the path of the table that takes the next ones. -/
structure Draft where
  entries : Entries
  path : List Text

def Draft.insert (draft : Draft) (path : List Text) (key : Text) (value : Toml) : Option Draft :=
  (changeAt false (insertDotted path key value) draft.path .header draft.entries).map fun entries =>
    ⟨entries, draft.path⟩

def Draft.openAt (draft : Draft) (begin : Text → Entries → Option Entries) (path : List Text)
    (key : Text) : Option Draft :=
  (changeAt false (fun _ entries => begin key entries) path .header draft.entries).map fun entries =>
    ⟨entries, path ++ [key]⟩

def readLine (draft : Draft) (s : Text) : Option (Draft × Text) :=
  match s with
  | '[' :: '[' :: r => do
    let ((path, key), r) ← readKey r
    let r ← afterMark? ']' r
    let r ← afterMark? ']' r
    let draft ← draft.openAt openElement path key
    return (draft, r)
  | '[' :: r => do
    let ((path, key), r) ← readKey r
    let r ← afterMark? ']' r
    let draft ← draft.openAt openTable path key
    return (draft, r)
  | s => do
    let ((path, key, value), r) ← readPair (readValue depthLimit) s
    let draft ← draft.insert path key value
    return (draft, r)

-- The lines of a document. Every line takes a character, so the length of the text bounds their
-- number.
def readLines : Nat → Draft → Text → Option Entries
  | 0, _, _ => none
  | fuel + 1, draft, s =>
    if s = [] then some draft.entries
    else
      match afterLine? s with
      | some r => readLines fuel draft r
      | none => do
        let (draft, r) ← readLine draft (dropSpace s)
        let r ← afterLine? r
        readLines fuel draft r

-- The entries of a document. A byte order mark before it is passed over.
def parse (s : Text) : Option Entries :=
  let s : Text :=
    match s with
    | '\ufeff' :: r => r
    | s => s
  readLines (s.length + 1) ⟨[], []⟩ s

end SqlDialect.Toml
