import Bulletin.Number.Double

/-!
# Decimal numerals

A decimal numeral is a sign, a whole coefficient and a power of ten. Reading one gives the double
nearest to it, whatever the number of digits, and writing a double gives the fewest digits that it
is the nearest one to, and among numerals of that length the closest. Every length is tried in exact
arithmetic: of the two neighbours on the grid of that length, one is taken if it reads back. A
layout says from which power of ten on a number is written with an exponent, whether a whole number
keeps a point, and how wide an exponent is. The language has two: the one of numbers in JSON text
and messages, and the one of numbers in rendered text.
-/

namespace Bulletin

/-! ### Reading -/

structure Decimal where
  negative : Bool
  coefficient : Nat
  exponent : Int
  deriving DecidableEq, Repr

def digitValue (c : Char) : Nat := c.toNat - '0'.toNat

/-- The number that a run of decimal digits denotes; an empty run is zero. -/
def digitsValue (digits : List Char) : Nat :=
  digits.foldl (fun value c => 10 * value + digitValue c) 0

def takeDigits (text : List Char) : List Char × List Char :=
  (text.takeWhile Char.isDigit, text.dropWhile Char.isDigit)

theorem takeDigits_append (text : List Char) :
    (takeDigits text).1 ++ (takeDigits text).2 = text := by
  simp [takeDigits]

theorem isDigit_of_mem_takeDigits {text : List Char} {c : Char} (h : c ∈ (takeDigits text).1) :
    c.isDigit := by
  have all : (takeDigits text).1.all Char.isDigit := List.all_takeWhile
  exact List.all_eq_true.mp all c h

namespace Decimal

/-- `coefficient * 10 ^ exponent` as a quotient in units of the smallest double. -/
def ratio (coefficient : Nat) (exponent : Int) : Nat × Nat :=
  if 0 ≤ exponent then (coefficient * Nat.pow 10 exponent.toNat * unitsPerOne, 1)
  else (coefficient * unitsPerOne, Nat.pow 10 (-exponent).toNat)

/-- The double nearest to a decimal numeral. A numeral that lies beyond `10 ^ 400`, or below
`10 ^ -400`, is settled by its exponent alone. -/
def toDouble (d : Decimal) : Double :=
  if d.coefficient = 0 then .zero d.negative
  else if 400 < d.exponent then .infinite d.negative
  else if d.exponent < -((d.coefficient.log2 : Int) + 401) then .zero d.negative
  else
    let q := ratio d.coefficient d.exponent
    .rounded d.negative q.1 q.2

def takeSign : List Char → Bool × List Char
  | '-' :: rest => (true, rest)
  | '+' :: rest => (false, rest)
  | rest => (false, rest)

def takeFraction : List Char → List Char × List Char
  | '.' :: rest => takeDigits rest
  | rest => ([], rest)

/-- What may stand after the digits of a numeral: nothing, or an exponent. -/
def readExponent? : List Char → Option Int
  | [] => some 0
  | e :: rest =>
    if e = 'e' || e = 'E' then
      let (negative, body) := takeSign rest
      match takeDigits body with
      | ([], _) => none
      | (digits, []) => some (Double.signed negative (digitsValue digits))
      | (_, _ :: _) => none
    else none

/-- Reads a decimal numeral: an optional sign, digits with at most one point among or around
them, and an optional exponent. -/
def read? (text : List Char) : Option Decimal :=
  let (negative, body) := takeSign text
  let (whole, afterWhole) := takeDigits body
  let (fraction, afterFraction) := takeFraction afterWhole
  if whole.isEmpty && fraction.isEmpty then none
  else
    (readExponent? afterFraction).map fun exponent =>
      ⟨negative, digitsValue (whole ++ fraction), exponent - fraction.length⟩

/-- Reads a plain numeral: an optional minus, digits, and optionally a point with digits after
it. -/
def readPlain? (text : List Char) : Option Decimal :=
  let negative := text.head? == some '-'
  let body := if negative then text.tail else text
  let (whole, afterWhole) := takeDigits body
  if whole.isEmpty then none
  else
    match afterWhole with
    | [] => some ⟨negative, digitsValue whole, 0⟩
    | '.' :: rest =>
      match takeDigits rest with
      | ([], _) => none
      | (fraction, []) =>
        some ⟨negative, digitsValue (whole ++ fraction), -(fraction.length : Int)⟩
      | (_, _ :: _) => none
    | _ :: _ => none

end Decimal

def radixDigit? (base : Nat) (c : Char) : Option Nat :=
  let value :=
    if c.isDigit then digitValue c
    else if 'a' ≤ c && c ≤ 'f' then c.toNat - 'a'.toNat + 10
    else if 'A' ≤ c && c ≤ 'F' then c.toNat - 'A'.toNat + 10
    else 16
  if value < base then some value else none

/-- The number that a run of digits denotes in a base; none for a foreign character. -/
def radixValue? (base : Nat) (digits : List Char) : Option Nat :=
  digits.foldlM (fun value c => (radixDigit? base c).map (base * value + ·)) 0

def radixBase? (c : Char) : Option Nat :=
  if c = 'x' || c = 'X' then some 16
  else if c = 'o' || c = 'O' then some 8
  else if c = 'b' || c = 'B' then some 2
  else none

/-- Reads a numeral in base sixteen, eight or two: `0x`, `0o` or `0b` and at least one digit. -/
def readRadix? : List Char → Option Nat
  | '0' :: mark :: digits =>
    if digits.isEmpty then none
    else (radixBase? mark).bind fun base => radixValue? base digits
  | _ => none

/-! ### The fewest digits that read back -/

/-- Significant digits of a positive number. Its value is `0.digits` times `10 ^ point`; the
last digit is not a zero. -/
structure Digits where
  digits : List Char
  point : Int
  deriving DecidableEq, Repr

def decimalDigits (n : Nat) : List Char := Nat.toDigits 10 n

namespace Digits

def ofCoefficient (coefficient : Nat) (exponent : Int) : Digits :=
  let digits := decimalDigits coefficient
  ⟨(digits.reverse.dropWhile (· = '0')).reverse, digits.length + exponent⟩

/-- A numeral's magnitude rounds to the given number of units. -/
def readsBack (units coefficient : Nat) (exponent : Int) : Bool :=
  let q := Decimal.ratio coefficient exponent
  roundBits q.1 q.2 == units

/-- The power of ten of a positive magnitude's first digit. -/
def leadingExponent (units : Nat) : Int :=
  (decimalDigits (units * Nat.pow 10 324 / unitsPerOne)).length - 325

/-- The exponent of the last of `count` digits, the first of which stands at `leading`. -/
def lastExponent (leading : Int) (count : Nat) : Int := leading - count + 1

def scaled (units : Nat) (exponent : Int) : Nat × Nat :=
  if 0 ≤ exponent then (units, unitsPerOne * Nat.pow 10 exponent.toNat)
  else (units * Nat.pow 10 (-exponent).toNat, unitsPerOne)

/-- The neighbour of the magnitude on the grid of `count` digits that reads back. If both do, it
is the nearer one, and of two equally near ones the even one. -/
def ofLength? (units : Nat) (leading : Int) (count : Nat) : Option Digits :=
  let exponent := lastExponent leading count
  let q := scaled units exponent
  let below := q.1 / q.2
  let low := readsBack units below exponent
  let high := readsBack units (below + 1) exponent
  if low && high then some (ofCoefficient (roundHalfEven q.1 q.2) exponent)
  else if low then some (ofCoefficient below exponent)
  else if high then some (ofCoefficient (below + 1) exponent)
  else none

/-- The exact digits of a magnitude: a unit is `5 ^ 1074 * 10 ^ -1074`. -/
def exact (units : Nat) : Digits := ofCoefficient (units * Nat.pow 5 1074) (-1074)

/-- The fewest digits that read back. Seventeen always suffice, so the exact digits are the end
of a search that never gets there. -/
def shortest (units : Nat) : Digits :=
  let leading := leadingExponent units
  ((List.range' 1 17).findSome? (ofLength? units leading)).getD (exact units)

end Digits

/-! ### Writing -/

structure Layout where
  /-- The least power of ten of a first digit that is written without an exponent. -/
  lowest : Int
  /-- The first power of ten above that is written with an exponent. -/
  highest : Int
  /-- A whole number ends in a point and a zero. -/
  wholePoint : Bool
  /-- The least number of digits of an exponent. -/
  exponentWidth : Nat

namespace Layout

/-- Numbers in JSON text and in messages: `2.0`, `0.0001`, `1e-05`, `1e+16`. -/
def full : Layout := ⟨-4, 16, true, 2⟩

/-- Numbers in rendered text: `2`, `0.000001`, `1e-7`, `1e+21`. -/
def plain : Layout := ⟨-6, 21, false, 1⟩

def padZeros (width : Nat) (text : List Char) : List Char :=
  List.replicate (width - text.length) '0' ++ text

def positional (layout : Layout) (d : Digits) : List Char :=
  if d.point ≤ 0 then '0' :: '.' :: (List.replicate (-d.point).toNat '0' ++ d.digits)
  else
    let whole := d.point.toNat
    if whole < d.digits.length then d.digits.take whole ++ '.' :: d.digits.drop whole
    else
      d.digits ++ List.replicate (whole - d.digits.length) '0'
        ++ (if layout.wholePoint then ['.', '0'] else [])

/-- One digit, the others after a point, and an exponent with a sign. -/
def scientific (layout : Layout) (d : Digits) : List Char :=
  let exponent := d.point - 1
  d.digits.take 1
    ++ (if d.digits.length ≤ 1 then [] else '.' :: d.digits.drop 1)
    ++ 'e' :: (if exponent < 0 then '-' else '+')
    :: padZeros layout.exponentWidth (decimalDigits exponent.natAbs)

def write (layout : Layout) (d : Digits) : List Char :=
  let exponent := d.point - 1
  if layout.lowest ≤ exponent && exponent < layout.highest then layout.positional d
  else layout.scientific d

end Layout

def intText (n : Int) : List Char :=
  if n < 0 then '-' :: decimalDigits n.natAbs else decimalDigits n.natAbs

namespace Double

def signText (negative : Bool) : List Char := if negative then ['-'] else []

/-- The form of a double in messages, and of a finite one in JSON text: the fewest digits that
read back, with a point or an exponent. -/
def fullText : Double → List Char
  | .nan => ['n', 'a', 'n']
  | .infinite negative => signText negative ++ ['i', 'n', 'f']
  | .finite negative units _ =>
    signText negative
      ++ (if units = 0 then ['0', '.', '0'] else Layout.full.write (Digits.shortest units))

/-- The form of a double in rendered text: a whole number below `10 ^ 21` in all its digits, any
other with the fewest digits that read back, and an exponent only below `10 ^ -6` or from
`10 ^ 21` on. Both zeros are written `0`. -/
def plainText (x : Double) : List Char :=
  match x with
  | .nan => ['N', 'a', 'N']
  | .infinite negative => signText negative ++ ['I', 'n', 'f', 'i', 'n', 'i', 't', 'y']
  | .finite negative units _ =>
    match x.toSmallInt? with
    | some n => intText n
    | none => signText negative ++ Layout.plain.write (Digits.shortest units)

end Double

end Bulletin
