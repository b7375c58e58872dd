/-!
# Decimal text of binary fractions

A positive number `m · 2 ^ q` stands for all reals that round to it. Its shortest decimal text has
the fewest digits with which one of them can be written; among texts of that length the nearest one
is taken. The search is exact: both ends of the interval and both neighbours on each decimal grid
are quotients of natural numbers.

* `Rounded.shortest` — the digits and the exponent of the shortest text.
* `decimalText` — the text of a float: positional from `0.00001` up to sixteen digits before the
  point, with an exponent otherwise.
-/

namespace HandlerDocs.Json

/-- The positive reals that round to a number: the number and the ends of the interval, as
numerators over one denominator. -/
structure Rounded where
  /-- The lower end. -/
  low : Nat
  /-- The number itself. -/
  value : Nat
  /-- The upper end. -/
  high : Nat
  /-- The common denominator. -/
  denominator : Nat
  /-- Whether the ends belong to the interval. -/
  closed : Bool
  deriving DecidableEq, Repr

namespace Rounded

/-- The interval of the float with fraction bits `fraction` and a biased exponent. -/
def ofParts (fraction exponent : Nat) : Rounded :=
  let mantissa := if exponent = 0 then fraction else fraction + 0x10000000000000
  let shift := if exponent = 0 then 1 else exponent
  let isBoundary := fraction = 0 ∧ 1 < exponent
  let low := 4 * mantissa - if isBoundary then 1 else 2
  let closed := mantissa % 2 = 0
  if 1077 ≤ shift then
    let scale := Nat.pow 2 (shift - 1077)
    ⟨low * scale, 4 * mantissa * scale, (4 * mantissa + 2) * scale, 1, closed⟩
  else ⟨low, 4 * mantissa, 4 * mantissa + 2, Nat.pow 2 (1077 - shift), closed⟩

/-- Whether a decimal number `digits · 10 ^ exponent` lies in the interval. -/
def contains (r : Rounded) (digits : Nat) (exponent : Int) : Bool :=
  let scaled := digits * Nat.pow 10 exponent.toNat * r.denominator
  let scale := Nat.pow 10 (-exponent).toNat
  if r.closed then r.low * scale ≤ scaled && scaled ≤ r.high * scale
  else r.low * scale < scaled && scaled < r.high * scale

/-- How far a decimal number is from the number, as a numerator over a denominator that depends on
the exponent alone. -/
def distance (r : Rounded) (digits : Nat) (exponent : Int) : Nat :=
  let scaled := digits * Nat.pow 10 exponent.toNat * r.denominator
  let value := r.value * Nat.pow 10 (-exponent).toNat
  (scaled - value) + (value - scaled)

/-- The nearer one of the two decimal numbers with an exponent that enclose the number, if it lies
in the interval. -/
def nearest? (r : Rounded) (exponent : Int) : Option (Nat × Int) :=
  let below := r.value * Nat.pow 10 (-exponent).toNat / (Nat.pow 10 exponent.toNat * r.denominator)
  let nearer := compare (r.distance below exponent) (r.distance (below + 1) exponent)
  let best := if nearer = .lt ∨ (nearer = .eq ∧ below % 2 = 0) then below else below + 1
  let other := if best = below then below + 1 else below
  if r.contains best exponent then some (best, exponent)
  else if r.contains other exponent then some (other, exponent)
  else none

/-- The greatest power of ten that is not greater than a number. -/
def magnitude (r : Rounded) : Int :=
  if r.denominator ≤ r.value then (Nat.toDigits 10 (r.value / r.denominator)).length - 1
  else
    match (List.range 330).find? fun j => r.denominator ≤ r.value * Nat.pow 10 (j + 1) with
    | some j => -(Int.ofNat j + 1)
    | none => 0

/-- The digits and the exponent of the shortest text. -/
def shortest (r : Rounded) : Nat × Int :=
  let tries := (List.range 17).findSome? fun n => r.nearest? (r.magnitude - Int.ofNat n)
  tries.getD (0, 0)

end Rounded

/-- Zeros. -/
def zeros (n : Nat) : List Char :=
  List.replicate n '0'

/-- The decimal text of digits without zeros at their end, and an exponent. -/
def layout (digits : List Char) (exponent : Int) : List Char :=
  let length : Int := digits.length
  let point := length + exponent
  if 0 ≤ exponent ∧ point ≤ 16 then digits ++ zeros exponent.toNat ++ ['.', '0']
  else if 0 < point ∧ point ≤ 16 then
    digits.take point.toNat ++ '.' :: digits.drop point.toNat
  else if -5 < point ∧ point ≤ 0 then '0' :: '.' :: zeros (-point).toNat ++ digits
  else
    let scientific := 'e' :: (if 0 < point then '+' else '-') :: Nat.toDigits 10 (point - 1).natAbs
    match digits with
    | [d] => d :: scientific
    | d :: rest => d :: '.' :: rest ++ scientific
    | [] => scientific

/-- The decimal text of a finite float. -/
def decimalText (x : Float) : String :=
  let bits := x.toBits.toNat
  let sign := if bits / 0x8000000000000000 = 1 then ['-'] else []
  let exponent := bits / 0x10000000000000 % 0x800
  let fraction := bits % 0x10000000000000
  let body :=
    if exponent = 0 ∧ fraction = 0 then ['0', '.', '0']
    else
      let (digits, exponent) := (Rounded.ofParts fraction exponent).shortest
      let all := Nat.toDigits 10 digits
      let kept := (all.reverse.dropWhile (· == '0')).reverse
      layout kept (exponent + (all.length - kept.length))
  String.ofList (sign ++ body)

end HandlerDocs.Json
