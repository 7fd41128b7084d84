/-! Punycode: text as ASCII letters and digits. The ASCII characters come first; the others follow, in
the order of their code points, as distances between the places at which they are put in. -/
namespace HostLookup.Idna.Punycode

def base : Nat := 36
def leastThreshold : Nat := 1
def mostThreshold : Nat := 26
def firstBias : Nat := 72
def firstPoint : Nat := 0x80

def digit (n : Nat) : Char :=
  Char.ofNat (if n < 26 then 97 + n else 22 + n)

def digitValue? (c : Char) : Option Nat :=
  if 'a' ≤ c && c ≤ 'z' then some (c.toNat - 97)
  else if 'A' ≤ c && c ≤ 'Z' then some (c.toNat - 65)
  else if '0' ≤ c && c ≤ '9' then some (c.toNat - 22)
  else none

def threshold (bias place : Nat) : Nat :=
  max leastThreshold (min mostThreshold (place - bias))

theorem threshold_pos (bias place : Nat) : 0 < threshold bias place :=
  Nat.lt_of_lt_of_le (by decide) (Nat.le_max_left leastThreshold _)

theorem threshold_lt_base (bias place : Nat) : threshold bias place < base :=
  Nat.max_lt.mpr ⟨by decide, Nat.lt_of_le_of_lt (Nat.min_le_left _ _) (by decide)⟩

/-- Divides a distance down until its first digit says enough, and counts the digits it took. -/
def settle (distance steps : Nat) : Nat :=
  if (base - leastThreshold) * mostThreshold / 2 < distance then
    settle (distance / (base - leastThreshold)) (steps + base)
  else steps + base * distance / (distance + 38)
termination_by distance
decreasing_by
  have : (base - leastThreshold) * mostThreshold / 2 = 455 := rfl
  exact Nat.div_lt_self (by omega) (by decide)

def adapt (distance points : Nat) (isFirst : Bool) : Nat :=
  let distance := if isFirst then distance / 700 else distance / 2
  settle (distance + distance / points) 0

def distanceDigits (bias place distance : Nat) : List Char :=
  let t := threshold bias place
  if distance < t then [digit distance]
  else digit (t + (distance - t) % (base - t)) ::
    distanceDigits bias (place + base) ((distance - t) / (base - t))
termination_by distance
decreasing_by
  have := threshold_pos bias place
  exact Nat.lt_of_le_of_lt (Nat.div_le_self _ _) (by omega)

structure Encoder where
  distance : Nat
  bias : Nat
  written : Nat
  output : List Char

/-- Passes `text` once for the code point `point`: each smaller character moves the place on, each equal
one is written. -/
def Encoder.pass (ascii point : Nat) (e : Encoder) (text : List Char) : Encoder :=
  text.foldl (fun e c =>
    if c.toNat < point then { e with distance := e.distance + 1 }
    else if c.toNat = point then
      { distance := 0
        bias := adapt e.distance (e.written + 1) (e.written = ascii)
        written := e.written + 1
        output := e.output ++ distanceDigits e.bias base e.distance }
    else e) e

def dedupSorted : List Nat → List Nat
  | a :: b :: rest => if a = b then dedupSorted (b :: rest) else a :: dedupSorted (b :: rest)
  | points => points

def points (text : List Char) : List Nat :=
  dedupSorted (((text.map Char.toNat).filter (firstPoint ≤ ·)).mergeSort)

def encode (text : List Char) : List Char :=
  let ascii := text.filter (·.toNat < firstPoint)
  let start : Encoder × Nat := (⟨0, firstBias, ascii.length, []⟩, firstPoint)
  let finish := (points text).foldl (fun (e, next) point =>
    let reached := { e with distance := e.distance + (point - next) * (e.written + 1) }
    let passed := Encoder.pass ascii.length point reached text
    ({ passed with distance := passed.distance + 1 }, point + 1)) start
  ascii ++ (if ascii.isEmpty then [] else ['-']) ++ finish.1.output

def readDistance (bias place weight sum : Nat) : List Char → Option (Nat × List Char)
  | [] => none
  | c :: rest =>
    (digitValue? c).bind fun d =>
      let t := threshold bias place
      if d < t then some (sum + d * weight, rest)
      else readDistance bias (place + base) (weight * (base - t)) (sum + d * weight) rest

theorem readDistance_length {bias place weight sum distance : Nat} {cs rest : List Char}
    (h : readDistance bias place weight sum cs = some (distance, rest)) : rest.length < cs.length := by
  induction cs generalizing place weight sum with
  | nil => simp [readDistance] at h
  | cons c cs ih =>
    simp only [readDistance, Option.bind_eq_some_iff] at h
    obtain ⟨d, _, h⟩ := h
    split at h
    · simp only [Option.some.injEq, Prod.mk.injEq] at h
      simp [← h.2]
    · exact Nat.lt_succ_of_lt (ih h)

/-- Puts the characters that the rest of the digits describe into `text`. `place` is where the last one
was put in plus one, and `point` its code point. -/
def insertAll (text : List Char) (point place bias : Nat) (isFirst : Bool) (cs : List Char) :
    Option (List Char) :=
  if cs.isEmpty then some text
  else
    match h : readDistance bias base 1 0 cs with
    | none => none
    | some (distance, rest) =>
      let size := text.length + 1
      let point := point + (place + distance) / size
      let place := (place + distance) % size
      if point.isValidChar then
        insertAll (text.take place ++ Char.ofNat point :: text.drop place) point (place + 1)
          (adapt distance size isFirst) false rest
      else none
termination_by cs.length
decreasing_by exact readDistance_length h

/-- The text of a Punycode form. The last hyphen ends the ASCII characters; one that nothing precedes
ends none of them and is no digit either. -/
def decode (cs : List Char) : Option (List Char) :=
  let digits := (cs.reverse.takeWhile (· != '-')).reverse
  let ascii := cs.take (cs.length - digits.length - 1)
  if ascii.all (·.toNat < firstPoint) then
    insertAll ascii firstPoint 0 firstBias true (if ascii.isEmpty then cs else digits)
  else none

end HostLookup.Idna.Punycode
