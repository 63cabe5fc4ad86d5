namespace QueryOutline.Number

/-- Where a value goes that lies exactly halfway between two neighbours. -/
inductive Tie where
  | toEven
  | up
deriving DecidableEq, Repr

/-- The whole number nearest to `num / den`. -/
def roundQuotient (tie : Tie) (num den : Nat) : Nat :=
  let whole := num / den
  let twice := 2 * (num % den)
  if twice < den then whole
  else if den < twice then whole + 1
  else match tie with
    | .toEven => whole + whole % 2
    | .up => whole + 1

end QueryOutline.Number
