import ScrapeTelemetry.Number.Decimal
import ScrapeTelemetry.Text.Affix

/-!
# Addresses with a port

The port of an address is what follows its last colon.
-/

set_option autoImplicit false

namespace ScrapeTelemetry

def readUnsigned? (limit : Nat) (cs : List Char) : Option Nat :=
  let digits :=
    match cs with
    | '+' :: ds => ds
    | ds => ds
  if digits.isEmpty || !digits.all Char.isDigit then none
  else
    let n := Decimal.natOfDigits digits
    if n ≤ limit then some n else none

def portLimit : Nat := 65535

def portIn? (address : String) : Option Nat :=
  (splitAtLast? ':' address.toList).bind fun p => readUnsigned? portLimit p.2

def withoutPort (address : String) : String :=
  match splitAtLast? ':' address.toList with
  | some (host, port) => if port.all Char.isDigit then String.ofList host else address
  | none => address

end ScrapeTelemetry
