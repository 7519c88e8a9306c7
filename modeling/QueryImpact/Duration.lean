/-!
# Durations

Durations are counted in milliseconds.  They are written in seconds from one second on, with as
many decimals as needed, else in milliseconds.
-/

namespace QueryImpact

/-- A span of time in milliseconds. -/
abbrev Milliseconds : Type :=
  Nat

namespace Duration

/-- The last point in time that the clock can tell: it counts seconds by signed integers of 64
bits. -/
def lastPoint : Milliseconds :=
  9223372036854775807999

/-- Three decimals without closing zeros, after a point; nothing when all are zero. -/
def decimals (thousandths : Nat) : List Char :=
  let digits := [thousandths / 100, thousandths / 10 % 10, thousandths % 10]
  let kept := (digits.reverse.dropWhile (· == 0)).reverse
  if kept.isEmpty then [] else '.' :: kept.map Nat.digitChar

/-- The text of a duration. -/
def text (span : Milliseconds) : String :=
  if span = 0 then "0ns"
  else if span < 1000 then toString span ++ "ms"
  else toString (span / 1000) ++ String.ofList (decimals (span % 1000)) ++ "s"

end Duration

end QueryImpact
