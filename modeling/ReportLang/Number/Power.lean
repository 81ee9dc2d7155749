/-!
# Powers of two and ten

The scales of binary and decimal numbers.
-/

namespace ReportLang.Number

/-- The power `2 ^ n`. -/
def twoTo (n : Nat) : Nat := Nat.pow 2 n

/-- The power `10 ^ n`. -/
def tenTo (n : Nat) : Nat := Nat.pow 10 n

end ReportLang.Number
