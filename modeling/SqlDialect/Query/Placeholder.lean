import SqlDialect.Text.Basic

/-! Placeholders: `%s` stands for a value, and `%%` for the sign itself. -/

set_option autoImplicit false

namespace SqlDialect

inductive PlaceholderStyle where
  | question
  | numbered
  deriving DecidableEq

def PlaceholderStyle.mark : PlaceholderStyle → Nat → Text
  | question, _ => "?"
  | numbered, n => '$' :: Text.ofNat n

-- The placeholders of a text written in another style, the first with number `n`. A sign that is
-- neither `%s` nor `%%` stays.
def convertFrom (style : PlaceholderStyle) : Nat → Text → Text
  | _, [] => []
  | n, '%' :: 's' :: r => style.mark n ++ convertFrom style (n + 1) r
  | n, '%' :: '%' :: r => '%' :: convertFrom style n r
  | n, c :: r => c :: convertFrom style n r

def convertPlaceholders (query : Text) (style : PlaceholderStyle) : Text :=
  convertFrom style 1 query

end SqlDialect
