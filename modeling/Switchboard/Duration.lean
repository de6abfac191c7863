/-!
# Durations

Lengths of time in whole milliseconds. Below a second they read in milliseconds, from there on in
seconds with the digits of the fraction that count.
-/

namespace Switchboard

/-- A length of time. -/
structure Duration where
  milliseconds : Nat
  deriving DecidableEq, Repr

namespace Duration

/-- Three digits of a number below a thousand without the zeros at their end. -/
def fraction (n : Nat) : List Char :=
  let digits := [n / 100, n / 10 % 10, n % 10].map Nat.digitChar
  (digits.reverse.dropWhile (· == '0')).reverse

/-- The duration as messages show it. -/
def describe (d : Duration) : String :=
  if d.milliseconds < 1000 then toString d.milliseconds ++ "ms"
  else
    let whole := toString (d.milliseconds / 1000)
    match fraction (d.milliseconds % 1000) with
    | [] => whole ++ "s"
    | digits => whole ++ "." ++ String.ofList digits ++ "s"

end Duration

end Switchboard
