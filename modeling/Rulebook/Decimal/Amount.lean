import Rulebook.Decimal.Layout
import Rulebook.Decimal.Reading

/-!
Amounts that keep whether they were given as a whole number or as a decimal fraction.
-/

namespace Rulebook.Decimal

inductive Amount where
  | whole (value : Int)
  | decimal (value : Float)
  deriving Inhabited

namespace Amount

def text : Amount → String
  | whole value => toString value
  | decimal value => shortestText value

/-- The nearest double, infinite beyond the range of doubles. -/
def toFloat : Amount → Float
  | whole value => if value < 0 then -(nearest value.natAbs 0) else nearest value.natAbs 0
  | decimal value => value

end Amount

end Rulebook.Decimal
