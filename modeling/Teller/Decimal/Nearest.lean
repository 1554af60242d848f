/-!
# The double nearest to a decimal

* `nearest`: the double nearest to a number of digits times a power of ten.
-/

namespace Teller.Decimal

/-- The double nearest to `digits * 10 ^ exponent`. Beyond four hundred places on either side of the
point nothing but infinity or zero is left. -/
def nearest (digits : Nat) (exponent : Int) : Float :=
  let leading := exponent + (Nat.toDigits 10 digits).length
  if digits = 0 ∨ leading < -400 then 0.0
  else if 400 < leading then Float.ofScientific 1 false 400
  else if 0 ≤ exponent then Float.ofScientific digits false exponent.toNat
  else Float.ofScientific digits true (-exponent).toNat

end Teller.Decimal
