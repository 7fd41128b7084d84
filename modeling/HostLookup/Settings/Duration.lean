import HostLookup.Text.Numeral

/-! Spans of time, in nanoseconds, and their two texts: seconds with nine places, and the largest unit
that gives a whole part, with no more places than it needs. -/
namespace HostLookup
open Text

structure Duration where
  nanoseconds : Nat
deriving DecidableEq, Repr

namespace Duration

def second : Nat := 1000000000
def millisecond : Nat := 1000000
def microsecond : Nat := 1000

def padded (places n : Nat) : List Char :=
  let digits := Numeral.decimal n
  List.replicate (places - digits.length) '0' ++ digits

def secondsText (d : Duration) : String :=
  String.ofList (Numeral.decimal (d.nanoseconds / second) ++
    '.' :: padded 9 (d.nanoseconds % second))

def inUnit (places n : Nat) : List Char :=
  let fraction := (padded places (n % Nat.pow 10 places)).reverse.dropWhile (· == '0')
  Numeral.decimal (n / Nat.pow 10 places) ++ if fraction.isEmpty then [] else '.' :: fraction.reverse

def text (d : Duration) : String :=
  let n := d.nanoseconds
  if second ≤ n then String.ofList (inUnit 9 n) ++ "s"
  else if millisecond ≤ n then String.ofList (inUnit 6 n) ++ "ms"
  else if microsecond ≤ n then String.ofList (inUnit 3 n) ++ "µs"
  else String.ofList (Numeral.decimal n) ++ "ns"

end Duration

end HostLookup
