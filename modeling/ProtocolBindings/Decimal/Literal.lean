import ProtocolBindings.Decimal.Shortest

/-!
# Number literals

Fractions are written by their shortest decimal, positionally when the first
digit stands at most four places after the point or sixteen before it, with an
exponent of at least two digits otherwise.
-/

namespace ProtocolBindings.Decimal

/-- The decimal digits of a natural number. -/
def digits (value : Nat) : List Char := Nat.toDigits 10 value

/-- The literal of a whole number. -/
def integerLiteral : Int → String
  | .ofNat value => String.ofList (digits value)
  | .negSucc value => String.ofList ('-' :: digits (value + 1))

/-- The longest whole number that is converted from decimal digits. -/
def maxWholeDigits : Nat := 4300

/-- An exponent with its sign and at least two digits. -/
def exponentDigits (exponent : Int) : List Char :=
  let sign := if exponent < 0 then '-' else '+'
  let written := digits exponent.natAbs
  sign :: (if written.length < 2 then '0' :: written else written)

/-- The digits of a decimal whose point stands after `point` of them. -/
def positional (written : List Char) (point : Int) : List Char :=
  match point with
  | .ofNat places =>
      if places = 0 then '0' :: '.' :: written
      else if written.length ≤ places then
        written ++ List.replicate (places - written.length) '0' ++ ['.', '0']
      else written.take places ++ '.' :: written.drop places
  | .negSucc places => '0' :: '.' :: (List.replicate (places + 1) '0' ++ written)

/-- The digits of a decimal with one digit before the point and an exponent. -/
def scientific (written : List Char) (point : Int) : List Char :=
  let mantissa := match written with
    | first :: second :: rest => first :: '.' :: second :: rest
    | short => short
  mantissa ++ 'e' :: exponentDigits (point - 1)

/-- The digits of a positive decimal. -/
def ShortDecimal.literal (decimal : ShortDecimal) : List Char :=
  let written := digits decimal.coefficient
  let point := (written.length : Int) + decimal.scale
  if -4 < point ∧ point ≤ 16 then positional written point
  else scientific written point

/-- The literal of a finite number; zero keeps its sign. -/
def Binary64.finiteLiteral (negative : Bool) (significand : Nat) (exponent : Int) : String :=
  let body := if significand = 0 then ['0', '.', '0']
    else (shortest significand exponent).literal
  String.ofList (if negative then '-' :: body else body)

/-- The literal of a number, with short names for those that are not finite. -/
def Binary64.literal : Binary64 → String
  | .finite negative significand exponent => finiteLiteral negative significand exponent
  | .infinite negative => if negative then "-inf" else "inf"
  | .notANumber => "nan"

end ProtocolBindings.Decimal
