import SqlDialect.Text.Basic

/-! White space: the characters with the property White_Space, and the ways a text is
cut at them. -/

set_option autoImplicit false

namespace SqlDialect

/-- The property White_Space. -/
def isBlank (c : Char) : Bool :=
  let n := c.toNat
  (9 ≤ n && n ≤ 13) || n == 0x20 || n == 0x85 || n == 0xA0 || n == 0x1680 ||
    (0x2000 ≤ n && n ≤ 0x200A) || n == 0x2028 || n == 0x2029 || n == 0x202F || n == 0x205F ||
    n == 0x3000

namespace Text

def dropBlank (s : Text) : Text := s.dropWhile isBlank

def takeBlank (s : Text) : Text := s.takeWhile isBlank

theorem takeBlank_append_dropBlank (s : Text) : s.takeBlank ++ s.dropBlank = s :=
  List.takeWhile_append_dropWhile

theorem length_dropBlank_le (s : Text) : s.dropBlank.length ≤ s.length :=
  (List.dropWhile_sublist _).length_le

def trimEnd (s : Text) : Text := (s.reverse.dropWhile isBlank).reverse

def trim (s : Text) : Text := s.dropBlank.trimEnd

theorem length_dropWhile_tail_lt {c : Char} {r s : Text} (p : Char → Bool) (h : s.dropBlank = c :: r) :
    (r.dropWhile p).length < s.length := by
  have h₁ : (r.dropWhile p).length ≤ r.length := (List.dropWhile_sublist _).length_le
  have h₂ := s.length_dropBlank_le
  simp only [h, List.length_cons] at h₂
  omega

def words (s : Text) : List Text :=
  match _h : s.dropBlank with
  | [] => []
  | c :: r => (c :: r.takeWhile (!isBlank ·)) :: words (r.dropWhile (!isBlank ·))
termination_by s.length
decreasing_by exact length_dropWhile_tail_lt _ _h

-- The lines of a text, without the line feed, or carriage return and line feed, that ends each;
-- nothing follows the last line feed.
def lines (s : Text) : List Text :=
  let pieces := s.fields '\n'
  let last := pieces.getLast?.getD []
  let closed := pieces.dropLast.map fun line =>
    if line.getLast? = some '\r' then line.dropLast else line
  if last = [] then closed else closed ++ [last]

end Text

end SqlDialect
