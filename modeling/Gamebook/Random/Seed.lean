import Gamebook.Fault
import Gamebook.Text.Spelling
import Gamebook.Value.Basic

/-!
Seeds of random numbers: whole numbers and texts. A real counts as its residue modulo a prime, which
for whole reals is what the whole number counts as.
-/
namespace Gamebook

inductive Seed where
  | number (value : Int)
  /-- A text as it stands in files. -/
  | text (value : String)
  deriving DecidableEq

namespace Seed

/-- The residue of a real; minus one is left out of the residues. -/
def residue : Double → Int
  | .nan _ => 0
  | .infinite negative => Double.withSign negative 314159
  | .finite negative units _ =>
    let value := Double.withSign negative (units * 2 ^ 24 % (2 ^ 61 - 1))
    if value = -1 then -2 else value

def ofText (value : String) : Except Fault Seed :=
  match Text.chars? value with
  | some chars => .ok (.text (String.ofList chars))
  | none => .error .unencodable

def ofValue : Value → Except Fault Seed
  | .text value => ofText value
  | .int value => .ok (.number value)
  | .bool flag => .ok (.number (if flag then 1 else 0))
  | .real x => .ok (.number (residue x % 2 ^ 64))
  | _ => .error .wrongKind

end Seed
end Gamebook
