/-!
# Durations

A span of time in whole nanoseconds and its text: the largest of the units
seconds, milliseconds, microseconds and nanoseconds that the span reaches, with
an exact decimal fraction and no trailing zeros.
-/

namespace StreamLoad

/-- A span of time. -/
structure Duration where
  nanoseconds : Nat
  deriving DecidableEq, Repr

namespace Duration

/-- No time at all. -/
def zero : Duration := ⟨0⟩

/-- A number of milliseconds. -/
def ofMilliseconds (count : Nat) : Duration := ⟨count * 1000000⟩

/-- One span after another. -/
def add (left right : Duration) : Duration :=
  ⟨left.nanoseconds + right.nanoseconds⟩

/-- The first span is no longer than the second. -/
def Within (span limit : Duration) : Prop :=
  span.nanoseconds ≤ limit.nanoseconds

instance (span limit : Duration) : Decidable (span.Within limit) :=
  inferInstanceAs (Decidable (_ ≤ _))

/-- The decimal digits of a fraction, `places` many, without trailing zeros. -/
def fractionDigits : Nat -> Nat -> List Char
  | 0, _ => []
  | places + 1, fraction =>
      if fraction = 0 then
        []
      else
        Nat.digitChar (fraction / Nat.pow 10 places) ::
          fractionDigits places (fraction % Nat.pow 10 places)

/-- A number of units of `10 ^ places` nanoseconds each. -/
def decimalText (nanoseconds places : Nat) : String :=
  let whole := toString (nanoseconds / Nat.pow 10 places)
  match fractionDigits places (nanoseconds % Nat.pow 10 places) with
  | [] => whole
  | digits => whole ++ "." ++ String.ofList digits

/-- The span in its largest fitting unit. -/
def text (span : Duration) : String :=
  if 1000000000 ≤ span.nanoseconds then
    decimalText span.nanoseconds 9 ++ "s"
  else if 1000000 ≤ span.nanoseconds then
    decimalText span.nanoseconds 6 ++ "ms"
  else if 1000 ≤ span.nanoseconds then
    decimalText span.nanoseconds 3 ++ "µs"
  else
    decimalText span.nanoseconds 0 ++ "ns"

end Duration
end StreamLoad
