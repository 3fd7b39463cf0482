/-!
Doubles as decimals: the fewest digits that read back as the same double, a fixed number of places,
and reading a decimal.
-/

namespace LanguageDetection.Decimal

/-- A double taken apart. A finite one is `mantissa * 2 ^ exponent`, up to its sign. -/
inductive Parts
  | nan
  | infinite (isNegative : Bool)
  | finite (isNegative : Bool) (mantissa : Nat) (exponent : Int)
  deriving Repr, DecidableEq

def Parts.ofBits (bits : UInt64) : Parts :=
  let isNegative := bits >>> 63 == 1
  let biased := ((bits >>> 52) &&& 0x7FF).toNat
  let fraction := (bits &&& 0xFFFFFFFFFFFFF).toNat
  if biased == 0x7FF then if fraction == 0 then .infinite isNegative else .nan
  else if biased == 0 then .finite isNegative fraction (-1074)
  else .finite isNegative (fraction + Nat.pow 2 52) (biased - 1075)

structure Scaled where
  digits : Nat
  exponent : Int
  deriving Repr, DecidableEq

structure Ratio where
  numerator : Nat
  denominator : Nat
  deriving Repr, DecidableEq

def Ratio.ofBinary (n : Nat) (e : Int) : Ratio :=
  if 0 ≤ e then ⟨n * Nat.pow 2 e.toNat, 1⟩ else ⟨n, Nat.pow 2 (-e).toNat⟩

def Ratio.shift (r : Ratio) (e : Int) : Ratio :=
  if 0 ≤ e then ⟨r.numerator, r.denominator * Nat.pow 10 e.toNat⟩
  else ⟨r.numerator * Nat.pow 10 (-e).toNat, r.denominator⟩

def Ratio.lt (a b : Ratio) : Bool :=
  a.numerator * b.denominator < b.numerator * a.denominator

def digitCount (n : Nat) : Nat := (Nat.toDigits 10 n).length

/-- The exponent of the first decimal digit of a positive fraction, looked for among the first
`fuel` places if it is less than one. -/
def Ratio.magnitude (r : Ratio) (fuel : Nat) : Int :=
  if r.denominator ≤ r.numerator then (digitCount (r.numerator / r.denominator) : Int) - 1
  else go fuel 1 (r.numerator * 10)
where
  go : Nat → Nat → Nat → Int
    | 0, place, _ => -(place : Int)
    | fuel + 1, place, n =>
        if r.denominator ≤ n then -(place : Int) else go fuel (place + 1) (n * 10)

/-- The numbers that round to a double: everything between two ends, which count if the mantissa is
even. -/
structure Rounding where
  value : Ratio
  low : Ratio
  high : Ratio
  isClosed : Bool

/-- Just below a power of two the doubles lie twice as dense. -/
def Rounding.ofFinite (mantissa : Nat) (exponent : Int) : Rounding :=
  let below := if mantissa == Nat.pow 2 52 && exponent != -1074 then 1 else 2
  { value := .ofBinary (4 * mantissa) (exponent - 2)
    low := .ofBinary (4 * mantissa - below) (exponent - 2)
    high := .ofBinary (4 * mantissa + 2) (exponent - 2)
    isClosed := mantissa % 2 == 0 }

def Rounding.contains (r : Rounding) (x : Ratio) : Bool :=
  if r.isClosed then !x.lt r.low && !r.high.lt x else r.low.lt x && x.lt r.high

/-- The neighbour of the value on a decimal grid that rounds to it; of two the nearer, and of two
equally near the even one. -/
def Rounding.onGrid? (r : Rounding) (exponent : Int) : Option Nat :=
  let scaled := r.value.shift exponent
  let down := scaled.numerator / scaled.denominator
  let remainder := scaled.numerator % scaled.denominator
  let point (n : Nat) : Ratio := Ratio.shift ⟨n, 1⟩ (-exponent)
  let downFits := r.contains (point down)
  let upFits := r.contains (point (down + 1))
  let nearer :=
    if 2 * remainder < scaled.denominator then down
    else if scaled.denominator < 2 * remainder then down + 1
    else if down % 2 == 0 then down else down + 1
  if downFits && upFits then some nearer
  else if downFits then some down
  else if upFits then some (down + 1)
  else none

def Scaled.trim (s : Scaled) (fuel : Nat) : Scaled :=
  match fuel with
  | 0 => s
  | fuel + 1 =>
      if s.digits != 0 && s.digits % 10 == 0 then Scaled.trim ⟨s.digits / 10, s.exponent + 1⟩ fuel
      else s

/-- The first grid, from coarse to fine, with a point that rounds to the value. -/
def Rounding.search (r : Rounding) (magnitude : Int) : Nat → Nat → Scaled
  | 0, count => ⟨(r.onGrid? (magnitude - count)).getD 0, magnitude - count⟩
  | fuel + 1, count =>
      match r.onGrid? (magnitude - count) with
      | some digits => Scaled.trim ⟨digits, magnitude - count⟩ 20
      | none => r.search magnitude fuel (count + 1)

def shortest (mantissa : Nat) (exponent : Int) : Scaled :=
  let r := Rounding.ofFinite mantissa exponent
  r.search (r.value.magnitude 400) 17 0

/-- How decimals are written: whether an integral one ends in `.0`, and from which to which position
of the point digits are written out in full. Elsewhere an exponent is written. -/
structure Style where
  pointZero : Bool
  positional : Option (Int × Int)
  nan : String
  infinite : String
  deriving Repr, DecidableEq

def zeros (n : Nat) : String := String.ofList (List.replicate n '0')

def Style.positionalText (style : Style) (digits : String) (point : Int) : String :=
  if point ≤ 0 then "0." ++ zeros (-point).toNat ++ digits
  else if digits.length ≤ point.toNat then
    digits ++ zeros (point.toNat - digits.length) ++ (if style.pointZero then ".0" else "")
  else
    String.ofList (digits.toList.take point.toNat) ++ "."
      ++ String.ofList (digits.toList.drop point.toNat)

def exponentText (digits : String) (exponent : Int) : String :=
  let mantissa := match digits.toList with
    | [d] => String.ofList [d]
    | d :: rest => String.ofList (d :: '.' :: rest)
    | [] => ""
  mantissa ++ "e" ++ toString exponent

def Style.writeSize (style : Style) (mantissa : Nat) (exponent : Int) : String :=
  if mantissa == 0 then if style.pointZero then "0.0" else "0"
  else
    let s := shortest mantissa exponent
    let digits := toString s.digits
    let point := s.exponent + digits.length
    let inFull := match style.positional with
      | none => true
      | some (low, high) => decide (low ≤ point) && decide (point ≤ high)
    if inFull then style.positionalText digits point else exponentText digits (point - 1)

def Style.write (style : Style) (x : Float) : String :=
  match Parts.ofBits x.toBits with
  | .nan => style.nan
  | .infinite isNegative => (if isNegative then "-" else "") ++ style.infinite
  | .finite isNegative mantissa exponent =>
      (if isNegative then "-" else "") ++ style.writeSize mantissa exponent

/-- A quotient rounded to the nearest number, a half to the even one. -/
def roundQuotient (numerator denominator : Nat) : Nat :=
  let q := numerator / denominator
  let r := numerator % denominator
  if 2 * r < denominator then q
  else if denominator < 2 * r then q + 1
  else if q % 2 == 0 then q else q + 1

def fixed (places : Nat) (x : Float) : String :=
  match Parts.ofBits x.toBits with
  | .nan => "NaN"
  | .infinite isNegative => if isNegative then "-inf" else "inf"
  | .finite isNegative mantissa exponent =>
      let r := Ratio.ofBinary mantissa exponent
      let n := roundQuotient (r.numerator * Nat.pow 10 places) r.denominator
      let digits := toString n
      let padded := zeros (places + 1 - digits.length) ++ digits
      let whole := padded.length - places
      (if isNegative then "-" else "") ++ String.ofList (padded.toList.take whole)
        ++ (if places == 0 then "" else ".") ++ String.ofList (padded.toList.drop whole)

private def digitsValue (digits : List Char) : Nat :=
  digits.foldl (fun n c => n * 10 + (c.toNat - 48)) 0

def readExponent? : List Char → Option Int
  | [] => none
  | '-' :: digits => (natural? digits).map fun n => -(n : Int)
  | '+' :: digits => (natural? digits).map fun n => (n : Int)
  | digits => (natural? digits).map fun n => (n : Int)
where
  natural? (digits : List Char) : Option Nat :=
    if !digits.isEmpty && digits.all Char.isDigit then some (digitsValue digits) else none

/-- A double from its digits: exponents beyond all doubles give zero or infinity. -/
def ofDigits (digits : List Char) (exponent : Int) : Float :=
  let significant := digits.dropWhile (· == '0')
  let magnitude := exponent + significant.length
  if significant.isEmpty then 0
  else if magnitude < -400 then 0
  else if 400 < magnitude then 1.0 / 0.0
  else
    let n := digitsValue significant
    if exponent < 0 then Float.ofScientific n true (-exponent).toNat
    else Float.ofScientific n false exponent.toNat

def readUnsigned? (chars : List Char) : Option Float :=
  let whole := chars.takeWhile Char.isDigit
  let rest := chars.drop whole.length
  let (places, rest) : List Char × List Char := match rest with
    | '.' :: rest =>
        let places := rest.takeWhile Char.isDigit
        (places, rest.drop places.length)
    | _ => ([], rest)
  if whole.isEmpty && places.isEmpty then none
  else
    let exponent? : Option Int := match rest with
      | [] => some 0
      | c :: rest => if c == 'e' || c == 'E' then readExponent? rest else none
    exponent?.map fun e => ofDigits (whole ++ places) (e - places.length)

def read? (text : String) : Option Float :=
  let (isNegative, body) : Bool × List Char := match text.toList with
    | '-' :: rest => (true, rest)
    | '+' :: rest => (false, rest)
    | chars => (false, chars)
  let name := String.ofList (body.map Char.toLower)
  let value? :=
    if name == "nan" then some (0.0 / 0.0)
    else if name == "inf" || name == "infinity" then some (1.0 / 0.0)
    else readUnsigned? body
  value?.map fun x => if isNegative then -x else x

end LanguageDetection.Decimal
