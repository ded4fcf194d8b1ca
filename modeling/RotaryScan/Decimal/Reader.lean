import RotaryScan.Decimal.Printer

namespace RotaryScan.Decimal

inductive Literal
  | nan
  | infinite (negative : Bool)
  | finite (negative : Bool) (value : Numeral)
  deriving DecidableEq, Repr

def digitsValue (digits : List Char) : Nat := Nat.ofDigitChars 10 digits 0

def splitSign : List Char → Bool × List Char
  | '-' :: rest => (true, rest)
  | '+' :: rest => (false, rest)
  | rest => (false, rest)

def readDigits? (cs : List Char) : Option Nat :=
  if cs ≠ [] ∧ cs.all Char.isDigit then some (digitsValue cs) else none

def readNat? : List Char → Option Nat
  | '+' :: rest => readDigits? rest
  | rest => readDigits? rest

def readExponent? : List Char → Option Int
  | [] => some 0
  | c :: rest =>
    if c = 'e' ∨ c = 'E' then
      let (negative, digits) := splitSign rest
      (readDigits? digits).map fun n => if negative then -(n : Int) else n
    else none

def readNumeral? (cs : List Char) : Option Numeral :=
  let whole := cs.takeWhile Char.isDigit
  let rest := cs.dropWhile Char.isDigit
  let fraction := match rest with
    | '.' :: after => after.takeWhile Char.isDigit
    | _ => []
  let tail := match rest with
    | '.' :: after => after.dropWhile Char.isDigit
    | _ => rest
  if whole = [] ∧ fraction = [] then none
  else (readExponent? tail).map fun exponent =>
    ⟨digitsValue (whole ++ fraction), exponent - fraction.length⟩

/-- Numbers are decimals, infinities and NaN, the latter two in any letter case. -/
def readLiteral? (cs : List Char) : Option Literal :=
  let (negative, body) := splitSign cs
  let word := String.ofList (body.map Char.toLower)
  if word = "nan" then some .nan
  else if word = "inf" ∨ word = "infinity" then some (.infinite negative)
  else (readNumeral? body).map (.finite negative)

/-- The double nearest to a numeral. Beyond four hundred places it is zero or infinite, which spares
the huge power of ten. -/
def Numeral.toFloat (n : Numeral) : Float :=
  let magnitude := n.power + (Nat.toDigits 10 n.digits).length
  if n.digits = 0 ∨ magnitude < -400 then 0
  else if 400 < magnitude then 1 / 0
  else Float.ofScientific n.digits (n.power < 0) n.power.natAbs

def Literal.toFloat : Literal → Float
  | .nan => 0 / 0
  | .infinite negative => if negative then -(1 / 0) else 1 / 0
  | .finite negative value => if negative then -value.toFloat else value.toFloat

def read? (s : String) : Option Float := (readLiteral? s.toList).map Literal.toFloat

end RotaryScan.Decimal
