/-!
The shortest decimal that reads back as a given double: of all decimals in the interval of reals
that round to the double, those with the fewest digits, and of these the nearest. The search runs
in exact arithmetic on natural numbers.
-/

namespace ApiClient.Decimal

/-- `digits · 10 ^ exponent`. -/
structure Scientific where
  digits : Nat
  exponent : Int
  deriving DecidableEq, Repr

/-- A positive double as `significand · 2 ^ exponent`; the gap below it is half the gap above when
`narrowBelow`. -/
structure Binary where
  significand : Nat
  exponent : Int
  narrowBelow : Bool

/-- The parts of the bits of a double without their sign. -/
def Binary.ofBits (bits : Nat) : Binary :=
  let fraction := bits % Nat.pow 2 52
  let biased : Nat := bits / Nat.pow 2 52 % Nat.pow 2 11
  if biased = 0 then ⟨fraction, -1074, false⟩
  else ⟨Nat.pow 2 52 + fraction, Int.ofNat biased - 1075, fraction = 0 && 1 < biased⟩

/-- Whether `d / scale` units lie between the bounds, which count only when `closed`. -/
def within (closed : Bool) (lo d hi : Nat) : Bool :=
  if closed then lo ≤ d && d ≤ hi else lo < d && d < hi

/-- The decimals `d · 10 ^ k` next to `v / s`, of those that lie between `lo / s` and `hi / s` the
nearer one; an even one of two equally near. -/
def gridPoint? (v lo hi s : Nat) (closed : Bool) (k : Int) : Option Nat :=
  let up := Nat.pow 10 (-k).toNat
  let unit := s * Nat.pow 10 k.toNat
  let below := v * up / unit
  let above := below + 1
  let fits (d : Nat) := within closed (lo * up) (d * unit) (hi * up)
  match fits below, fits above with
  | false, false => none
  | true, false => some below
  | false, true => some above
  | true, true =>
    let down := v * up - below * unit
    let rest := above * unit - v * up
    if down < rest then some below
    else if rest < down then some above
    else some (if below % 2 = 0 then below else above)

def search (v lo hi s : Nat) (closed : Bool) : Nat → Int → Scientific
  | 0, k => ⟨v * Nat.pow 10 (-k).toNat / (s * Nat.pow 10 k.toNat), k⟩
  | fuel + 1, k =>
    match gridPoint? v lo hi s closed k with
    | some d => ⟨d, k⟩
    | none => search v lo hi s closed fuel (k - 1)

/-- The shortest decimal of a positive double. -/
def Binary.shortest (b : Binary) : Scientific :=
  let scaleUp := Nat.pow 2 b.exponent.toNat
  let s := 4 * Nat.pow 2 (-b.exponent).toNat
  let v := 4 * b.significand * scaleUp
  let lo := (4 * b.significand - if b.narrowBelow then 1 else 2) * scaleUp
  let hi := (4 * b.significand + 2) * scaleUp
  let top : Int := (Nat.toDigits 10 v).length - (Nat.toDigits 10 s).length + 1
  search v lo hi s (b.significand % 2 = 0) 24 top

def Scientific.text (d : Scientific) : String :=
  let ds := Nat.toDigits 10 d.digits
  let n := ds.length
  let pointAt : Int := n + d.exponent
  let text : List Char :=
    if 0 ≤ d.exponent ∧ pointAt ≤ 16 then ds ++ List.replicate d.exponent.toNat '0' ++ ['.', '0']
    else if 0 < pointAt ∧ pointAt ≤ 16 then
      ds.take pointAt.toNat ++ ['.'] ++ ds.drop pointAt.toNat
    else if -5 < pointAt ∧ pointAt ≤ 0 then
      ['0', '.'] ++ List.replicate (-pointAt).toNat '0' ++ ds
    else
      let e := pointAt - 1
      ds.take 1 ++ (if n = 1 then [] else '.' :: ds.drop 1) ++ ['e', if e < 0 then '-' else '+']
        ++ Nat.toDigits 10 e.natAbs
  String.ofList text

def ofFloat (f : Float) : String :=
  let bits := f.toBits.toNat
  let magnitude := bits % Nat.pow 2 63
  let sign := if bits < Nat.pow 2 63 then "" else "-"
  sign ++ if magnitude = 0 then "0.0" else (Binary.ofBits magnitude).shortest.text

end ApiClient.Decimal
