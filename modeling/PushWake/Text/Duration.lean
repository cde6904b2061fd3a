/-!
# Spans of time in words

A span of whole milliseconds is written in the largest unit that is not above it: milliseconds below
one second, seconds from there on, with as many decimals as are needed and no more.
-/

namespace PushWake.Text

/-- Three digits with the zeros at the end cut off. -/
def trimmedThousandths (n : Nat) : List Char :=
  let digits := [n / 100 % 10, n / 10 % 10, n % 10].map Nat.digitChar
  (digits.reverse.dropWhile (· = '0')).reverse

/-- A span of so many milliseconds. -/
def duration (milliseconds : Nat) : String :=
  if milliseconds = 0 then "0ns"
  else if milliseconds < 1000 then toString milliseconds ++ "ms"
  else
    let whole := toString (milliseconds / 1000)
    match trimmedThousandths (milliseconds % 1000) with
    | [] => whole ++ "s"
    | decimals => whole ++ "." ++ String.ofList decimals ++ "s"

end PushWake.Text
