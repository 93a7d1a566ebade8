import Retention.Text.Numeral

/-!
Lengths of time as text: the largest of the units seconds, milliseconds, microseconds and nanoseconds
of which there is at least one, with as many decimal places as the length needs.
-/
namespace Retention

structure Span where
  nanos : Nat
deriving DecidableEq, Repr

namespace Span

def ofMillis (millis : Nat) : Span := ⟨millis * 1000000⟩

def inUnit (nanos places : Nat) (name : String) : String :=
  let fraction := nanos % Nat.pow 10 places
  let digits := (Text.padded places fraction).toList
  let shown := (digits.reverse.dropWhile (· = '0')).reverse
  toString (nanos / Nat.pow 10 places) ++ (if fraction = 0 then "" else "." ++ .ofList shown) ++ name

def text (span : Span) : String :=
  if span.nanos ≥ 1000000000 then inUnit span.nanos 9 "s"
  else if span.nanos ≥ 1000000 then inUnit span.nanos 6 "ms"
  else if span.nanos ≥ 1000 then inUnit span.nanos 3 "µs"
  else inUnit span.nanos 0 "ns"

end Span
end Retention
