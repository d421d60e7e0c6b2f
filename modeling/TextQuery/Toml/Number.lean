import TextQuery.Toml.Quoted

/-!
# TOML numbers

Integers are decimal, or hexadecimal, octal or binary without a sign.  Floats are decimal, with a fraction, an
exponent, or both, or one of the words `inf` and `nan`.  Single underscores may separate digits.

An integer is recognised by how it begins, and its digits are looked at when its value is asked for: `0x` and `1_a` are
integers without a value.
-/

namespace TextQuery.Toml

/-- The digits of a base up to sixteen. -/
def isDigitOf (base : Nat) (c : Char) : Bool := (hexDigit? c).any (Nat.blt · base)

/-- The number that digits write in a base.  Other characters count for nothing. -/
def digitValue (base : Nat) (t : Text) : Nat :=
  (t.filterMap hexDigit?).foldl (fun n d => base * n + d) 0

/-- Whether every underscore stands between two digits.  `allowed` tells whether the text may begin with one. -/
def separatesDigits (isDigit : Char → Bool) (allowed : Bool) : Text → Bool
  | [] => true
  | c :: rest =>
    if c = '_' then allowed && rest.head?.any isDigit && separatesDigits isDigit false rest
    else separatesDigits isDigit (isDigit c) rest

/-- Splits off the sign of a number. -/
def splitSign : Text → Option Char × Text
  | '-' :: rest => (some '-', rest)
  | '+' :: rest => (some '+', rest)
  | t => (none, t)

/-- An integer as it is written, but without underscores. -/
structure Numeral where
  base : Nat
  negative : Bool
  digits : Text
  deriving DecidableEq, Repr

/-- An integer without underscores. -/
def Numeral.ofDigits (base : Nat) (negative : Bool) (t : Text) : Numeral := ⟨base, negative, t.filter (· != '_')⟩

/-- The value of an integer.  There is none without digits, or with others than those of the base. -/
def Numeral.value? (n : Numeral) : Option Int :=
  if !n.digits.isEmpty && n.digits.all (isDigitOf n.base) then
    some (if n.negative then -(digitValue n.base n.digits : Int) else (digitValue n.base n.digits : Int))
  else none

/-- Reads what follows the letter for a base other than ten.  There may be nothing. -/
def basedNumeral? (base : Nat) (t : Text) : Option Numeral :=
  if t.all (fun c => isDigitOf base c || c == '_') && separatesDigits (isDigitOf 16) false t then
    some (.ofDigits base false t)
  else none

/-- Whether a text marks a float, or a second value, when it stands behind the first digits of a number. -/
def leavesInteger (t : Text) : Bool := t.any fun c => c == '.' || c == 'e' || c == 'E' || c == ' '

/-- Reads a decimal integer.  Behind its first underscore anything may stand that does not mark a float, and a zero
stands alone.  An underscore between the sign and the digits is passed over like those between digits. -/
def decimalNumeral? (t : Text) : Option Numeral :=
  let (sign, t) := splitSign t
  let behind := t.dropWhile (isDigitOf 10)
  let isInteger := behind.isEmpty || (behind.head? == some '_' && !leavesInteger behind)
  let startsWell := !t.isEmpty && (t.length == 1 || t.head? != some '0')
  if isInteger && startsWell && separatesDigits (isDigitOf 16) sign.isSome t then
    some (.ofDigits 10 (sign == some '-') t)
  else none

/-- Reads an integer. -/
def numeral? : Text → Option Numeral
  | '0' :: 'x' :: rest => basedNumeral? 16 rest
  | '0' :: 'o' :: rest => basedNumeral? 8 rest
  | '0' :: 'b' :: rest => basedNumeral? 2 rest
  | t => decimalNumeral? t

/-- A float as it is written. -/
inductive Decimal where
  /-- The mantissa times a power of ten, without the sign. -/
  | finite (mantissa : Nat) (exponent : Int)
  | infinite
  | notANumber
  deriving DecidableEq, Repr

/-- The decimal digits and underscores that a text begins with, one digit at least, and the text behind them. -/
def digits? (t : Text) : Option (Text × Text) :=
  let digits := t.takeWhile fun c => isDigitOf 10 c || c == '_'
  if digits.any (isDigitOf 10) then some (digits, t.drop digits.length) else none

/-- Reads the fraction that a text may begin with. -/
def fraction? : Text → Option (Text × Text)
  | '.' :: rest => digits? rest
  | t => some ([], t)

/-- Reads the exponent that a text may be. -/
def exponent? : Text → Option Int
  | [] => some 0
  | e :: rest => do
    if !(e == 'e' || e == 'E') then none
    let (sign, rest) := splitSign rest
    let (digits, rest) ← digits? rest
    if !rest.isEmpty then none
    return if sign = some '-' then -(digitValue 10 digits : Int) else (digitValue 10 digits : Int)

/-- Reads a float of digits.  `signed` tells whether it stands behind a sign. -/
def finite? (signed : Bool) (t : Text) : Option Decimal := do
  let (whole, rest) ← digits? t
  let (fraction, rest') ← fraction? rest
  let exponent ← exponent? rest'
  let startsBadly := whole.head? == some '0' && Nat.blt 1 (whole.filter (isDigitOf 10)).length
  if rest.isEmpty || startsBadly || !separatesDigits (isDigitOf 10) signed t then none
  return .finite (digitValue 10 (whole ++ fraction)) (exponent - ((fraction.filter (isDigitOf 10)).length : Int))

/-- Reads a float. -/
def float? (t : Text) : Option Decimal :=
  let (sign, t) := splitSign t
  if t = "inf".toList then some .infinite
  else if t = "nan".toList then some .notANumber
  else finite? sign.isSome t

/-- The numbers that at least one of the integer types with 128 bits can hold. -/
def isHeldInteger : Int → Bool
  | .ofNat n => Nat.blt n (Nat.pow 2 128)
  | .negSucc n => Nat.blt n (Nat.pow 2 127)

/-- The least number that is rounded to infinity in double precision: half a step above the greatest double. -/
def overflowBound : Nat := Nat.pow 2 1024 - Nat.pow 2 970

/-- Whether a float is rounded to a finite double, or is none.  Exponents far off the range of doubles decide without
computing the power. -/
def Decimal.isHeld : Decimal → Bool
  | finite 0 _ => true
  | finite mantissa exponent =>
    let magnitude := ((Nat.toDigits 10 mantissa).length : Int) + exponent
    if magnitude > 310 then false
    else if magnitude < 300 then true
    else if 0 ≤ exponent then Nat.blt (mantissa * Nat.pow 10 exponent.toNat) overflowBound
    else Nat.blt mantissa (overflowBound * Nat.pow 10 (-exponent).toNat)
  | infinite => true
  | notANumber => true

end TextQuery.Toml
