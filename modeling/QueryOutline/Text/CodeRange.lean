namespace QueryOutline.Text

/-- Consecutive code points, given by the first and the last of them. -/
abbrev CodeRange := Nat × Nat

/-- Whether the code point lies in the range, both ends included. -/
def CodeRange.contains (range : CodeRange) (code : Nat) : Bool :=
  decide (range.1 ≤ code) && decide (code ≤ range.2)

def inRanges (table : List CodeRange) (c : Char) : Bool :=
  table.any fun range => range.contains c.toNat

/-- Whether the character is one of the 128 characters of ASCII. The tables of this library start
behind them, so that the classes of ASCII characters are decided by comparison alone. -/
def isAscii (c : Char) : Bool :=
  decide (c.toNat < 128)

end QueryOutline.Text
