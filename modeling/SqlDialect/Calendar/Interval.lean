import SqlDialect.Text.Basic

/-! Lengths of time, in nanoseconds. -/

set_option autoImplicit false

namespace SqlDialect

/-- The longest length of time: as many milliseconds as 63 bits count. -/
def longestInterval : Int := 9223372036854775807 * 1000000

structure Interval where
  nanoseconds : Int
  range : -longestInterval ≤ nanoseconds ∧ nanoseconds ≤ longestInterval
  deriving DecidableEq

namespace Interval

def ofNanoseconds? (n : Int) : Option Interval :=
  if h : -longestInterval ≤ n ∧ n ≤ longestInterval then some ⟨n, h⟩ else none

def ofSeconds? (n : Int) : Option Interval := ofNanoseconds? (n * 1000000000)

def seconds (i : Interval) : Int := i.nanoseconds.tdiv 1000000000

def zero : Interval := ⟨0, by decide⟩

def toText (i : Interval) : Text := Text.ofInt i.seconds ++ ['s']

end Interval

end SqlDialect
