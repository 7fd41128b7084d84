/-! Decimal numerals over lists of characters: one written form, and readers with and without a sign. -/
namespace HostLookup.Text.Numeral

def digit (n : Nat) : Char :=
  Char.ofNat (48 + n)

def decimal (n : Nat) : List Char :=
  if n < 10 then [digit n] else decimal (n / 10) ++ [digit (n % 10)]
termination_by n
decreasing_by omega

def signedDecimal : Int → List Char
  | .ofNat n => decimal n
  | .negSucc n => '-' :: decimal (n + 1)

def digitValue (c : Char) : Option Nat :=
  if '0' ≤ c && c ≤ '9' then some (c.toNat - 48) else none

def valueFrom (read : Nat) : List Char → Option Nat
  | [] => some read
  | c :: rest => (digitValue c).bind fun d => valueFrom (read * 10 + d) rest

/-- One or more digits; leading zeros are allowed. -/
def natural? : List Char → Option Nat
  | [] => none
  | cs => valueFrom 0 cs

def unsigned? (most : Nat) (cs : List Char) : Option Nat :=
  (natural? (match cs with | '+' :: rest => rest | _ => cs)).filter (· ≤ most)

def signed? (least most : Int) (cs : List Char) : Option Int :=
  let value : Option Int := match cs with
    | '-' :: rest => (natural? rest).map fun n => -(n : Int)
    | '+' :: rest => (natural? rest).map fun n => (n : Int)
    | _ => (natural? cs).map fun n => (n : Int)
  value.filter fun n => least ≤ n && n ≤ most

def hexDigit (n : Nat) : Char :=
  Char.ofNat (if n < 10 then 48 + n else 87 + n)

def ofNat (n : Nat) : String :=
  String.ofList (decimal n)

def ofInt (n : Int) : String :=
  String.ofList (signedDecimal n)

/-- The hexadecimal digits of `n`, in lower case and without leading zeros. -/
def hexadecimal (n : Nat) : List Char :=
  if n < 16 then [hexDigit n] else hexadecimal (n / 16) ++ [hexDigit (n % 16)]
termination_by n
decreasing_by omega

def hexValue (c : Char) : Option Nat :=
  if '0' ≤ c && c ≤ '9' then some (c.toNat - 48)
  else if 'a' ≤ c && c ≤ 'f' then some (c.toNat - 87)
  else if 'A' ≤ c && c ≤ 'F' then some (c.toNat - 55)
  else none

end HostLookup.Text.Numeral
