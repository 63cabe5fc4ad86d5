import QueryOutline.Outline.Equality
import QueryOutline.Outline.Json
import QueryOutline.Proofs.Json.Unambiguous
import QueryOutline.Proofs.Outline.Induction

/-! The JSON text of an outline says which outline it is. If all its numbers are integers of 64
bits, two outlines have the same text exactly if they are equal by value. -/

namespace QueryOutline

open Number

namespace Number.Decimal

def IsWhole (d : Decimal) (whole : Int) : Prop :=
  d.unscaled = whole * tenPow d.scale

def IsInt64 (d : Decimal) : Prop :=
  ∃ whole, d.IsWhole whole ∧ -twoPow 63 ≤ whole ∧ whole < twoPow 63

theorem tenPow_pos (scale : Nat) : 0 < tenPow scale :=
  Nat.pow_pos (by decide)

/-- The integer is found whatever number of places it is written with. -/
theorem toInt64?_of_isWhole {d : Decimal} {whole : Int} (hWhole : d.IsWhole whole)
    (hLow : -twoPow 63 ≤ whole) (hHigh : whole < twoPow 63) : d.toInt64? = some whole := by
  have hPower : (tenPow d.scale : Int) ≠ 0 := by
    have hPositive := tenPow_pos d.scale
    omega
  unfold IsWhole at hWhole
  simp [toInt64?, hWhole, Int.mul_ediv_cancel _ hPower, hLow, hHigh]

/-- Decimals that are equal to integers have the same value exactly if the integers are the same. -/
theorem same_iff_of_isWhole {left right : Decimal} {whole other : Int} (hLeft : left.IsWhole whole)
    (hRight : right.IsWhole other) : left.same right = true ↔ whole = other := by
  have hPower : (tenPow left.scale * tenPow right.scale : Int) ≠ 0 := by
    have hPositive := Nat.mul_pos (tenPow_pos left.scale) (tenPow_pos right.scale)
    omega
  unfold IsWhole at hLeft hRight
  rw [same, beq_iff_eq, hLeft, hRight, Int.mul_assoc, Int.mul_assoc,
    Int.mul_comm (tenPow right.scale : Int)]
  exact ⟨Int.eq_of_mul_eq_mul_right hPower, fun hSame => by rw [hSame]⟩

theorem toJson_of_isInt64 {d : Decimal} (hWhole : d.IsInt64) :
    ∃ whole, d.IsWhole whole ∧ d.toJson = .integer whole := by
  obtain ⟨whole, hValue, hLow, hHigh⟩ := hWhole
  exact ⟨whole, hValue, by rw [toJson, toInt64?_of_isWhole hValue hLow hHigh]⟩

/-- Decimals of one value have one form, however many zeros they end in. -/
theorem toJson_eq_iff {left right : Decimal} (hLeft : left.IsInt64) (hRight : right.IsInt64) :
    left.toJson = right.toJson ↔ left.same right = true := by
  obtain ⟨whole, hWhole, hJson⟩ := toJson_of_isInt64 hLeft
  obtain ⟨other, hOther, hOtherJson⟩ := toJson_of_isInt64 hRight
  rw [hJson, hOtherJson, same_iff_of_isWhole hWhole hOther, Json.integer.injEq]

end Number.Decimal

section Leaves

/-- The literal is no float, and if it is a number, then an integer of 64 bits. -/
def Literal.InRange : Literal → Prop
  | .number value => value.IsInt64
  | .float _ => False
  | .string _ | .boolean _ | .null => True

def Bound.InRange : Bound → Prop
  | .number value => value.IsInt64
  | .expression _ => True

def Expr.InRange : Expr → Prop
  | .literal value => value.InRange
  | _ => True

def Statement.InRange : Statement → Prop
  | .limit offset count => offset.InRange ∧ count.InRange
  | _ => True

/-- There are no floats in the query, and all numbers in it, be they literals or bounds, are
integers of 64 bits. -/
def Query.InRange (query : Query) : Prop :=
  query.Everywhere Expr.InRange Statement.InRange

/-- The form names the kind of a literal, so that literals of two kinds have two forms. -/
theorem Literal.toJson_eq_iff {left right : Literal} (hLeft : left.InRange)
    (hRight : right.InRange) : left.toJson = right.toJson ↔ left.same right = true := by
  cases left with
  | float value => cases hLeft
  | number value =>
      obtain ⟨whole, hWhole, hJson⟩ := Decimal.toJson_of_isInt64 hLeft
      cases right with
      | float value' => cases hRight
      | number value' => exact Decimal.toJson_eq_iff hLeft hRight
      | _ => simp [Literal.toJson, Literal.same, hJson]
  | _ =>
      cases right with
      | float value' => cases hRight
      | number value' =>
          obtain ⟨whole, hWhole, hJson⟩ := Decimal.toJson_of_isInt64 hRight
          simp [Literal.toJson, Literal.same, hJson]
      | _ => simp [Literal.toJson, Literal.same]

theorem Operator.spelling_inj {left right : Operator} :
    left.spelling = right.spelling ↔ left = right := by
  constructor
  · cases left <;> cases right <;> simp [Operator.spelling]
  · rintro rfl
    rfl

theorem Direction.spelling_inj {left right : Direction} :
    left.spelling = right.spelling ↔ left = right := by
  constructor
  · cases left <;> cases right <;> simp [Direction.spelling]
  · rintro rfl
    rfl

/-- An expression is always written as an object, so that it is neither a number nor the mark of an
omitted part. -/
theorem Expr.toJson_kind (value : Expr) : value.toJson.kind = .object := by
  cases value <;> simp [Expr.toJson, Json.kind]

/-- No condition has the form of one that is omitted. -/
theorem Expr.toJson_ne_omitted (value : Expr) : value.toJson ≠ omitted := by
  intro hSame
  have hKind := congrArg Json.kind hSame
  rw [value.toJson_kind] at hKind
  cases hKind

/-- A number within an expression is written with its kind. So an expression is not taken for a
bound that is a number by itself. -/
theorem Expr.toJson_ne_number (value : Expr) {number : Decimal} (hNumber : number.IsInt64) :
    value.toJson ≠ number.toJson := by
  intro hSame
  obtain ⟨whole, -, hJson⟩ := Decimal.toJson_of_isInt64 hNumber
  have hKind := congrArg Json.kind hSame
  rw [value.toJson_kind, hJson] at hKind
  cases hKind

end Leaves

section Lists

variable {α : Type} {toJson : α → Json} {same : α → α → Bool}

/-- Lists have the same forms exactly if they are equal item by item. -/
theorem map_toJson_eq_iff {lefts rights : List α}
    (hItems : ∀ left ∈ lefts, ∀ right ∈ rights,
      toJson left = toJson right ↔ same left right = true) :
    lefts.map toJson = rights.map toJson ↔ lefts.isEqv rights same = true := by
  induction lefts generalizing rights with
  | nil => cases rights <;> simp [List.isEqv]
  | cons left lefts ih =>
      cases rights with
      | nil => simp [List.isEqv]
      | cons right rights =>
          have hFirst := hItems left List.mem_cons_self right List.mem_cons_self
          have hOthers := @ih rights fun left hLeft right hRight =>
            hItems left (List.mem_cons_of_mem _ hLeft) right (List.mem_cons_of_mem _ hRight)
          simp [List.isEqv, hFirst, hOthers]

theorem argumentsToJson_eq_map (arguments : List Expr) :
    argumentsToJson arguments = arguments.map Expr.toJson := by
  induction arguments with
  | nil => rfl
  | cons argument arguments ih => simp [argumentsToJson, ih]

theorem criteriaToJson_eq_map (criteria : List Criterion) :
    criteriaToJson criteria = criteria.map Criterion.toJson := by
  induction criteria with
  | nil => rfl
  | cons criterion criteria ih => simp [criteriaToJson, ih]

theorem bodyToJson_eq_map (body : List Statement) :
    bodyToJson body = body.map Statement.toJson := by
  induction body with
  | nil => rfl
  | cons statement body ih => simp [bodyToJson, ih]

theorem sameArguments_eq_isEqv (lefts rights : List Expr) :
    sameArguments lefts rights = lefts.isEqv rights Expr.same := by
  induction lefts generalizing rights with
  | nil => cases rights <;> rfl
  | cons left lefts ih => cases rights <;> simp [sameArguments, List.isEqv, ih]

theorem sameCriteria_eq_isEqv (lefts rights : List Criterion) :
    sameCriteria lefts rights = lefts.isEqv rights Criterion.same := by
  induction lefts generalizing rights with
  | nil => cases rights <;> rfl
  | cons left lefts ih => cases rights <;> simp [sameCriteria, List.isEqv, ih]

theorem sameBody_eq_isEqv (lefts rights : List Statement) :
    sameBody lefts rights = lefts.isEqv rights Statement.same := by
  induction lefts generalizing rights with
  | nil => cases rights <;> rfl
  | cons left lefts ih => cases rights <;> simp [sameBody, List.isEqv, ih]

end Lists

/-- The form of the expression is that of another one in range exactly if they are equal by
value. -/
def Expr.FormDecides (left : Expr) : Prop :=
  left.Everywhere Expr.InRange Statement.InRange → ∀ right,
    right.Everywhere Expr.InRange Statement.InRange →
      (left.toJson = right.toJson ↔ left.same right = true)

/-- The form of the statement is that of another one in range exactly if they are equal by value. -/
def Statement.FormDecides (left : Statement) : Prop :=
  left.Everywhere Expr.InRange Statement.InRange → ∀ right,
    right.Everywhere Expr.InRange Statement.InRange →
      (left.toJson = right.toJson ↔ left.same right = true)

/-- A bound is told apart by its form, be it a number by itself or an expression. -/
theorem Bound.toJson_eq_iff {left right : Bound} (hLeft : left.InRange) (hRight : right.InRange)
    (hDecides : ∀ value, left = .expression value → value.FormDecides)
    (hLeftInside : left.Everywhere Expr.InRange Statement.InRange)
    (hRightInside : right.Everywhere Expr.InRange Statement.InRange) :
    left.toJson = right.toJson ↔ left.same right = true := by
  cases left with
  | number value =>
      cases right with
      | number value' => simpa [Bound.toJson, Bound.same] using Decimal.toJson_eq_iff hLeft hRight
      | expression value' =>
          simpa [Bound.toJson, Bound.same] using (value'.toJson_ne_number hLeft).symm
  | expression value =>
      cases right with
      | number value' => simpa [Bound.toJson, Bound.same] using value.toJson_ne_number hRight
      | expression value' =>
          simpa [Bound.toJson, Bound.same] using hDecides value rfl hLeftInside value' hRightInside

/-- Bodies are compared statement by statement, and so are their forms. -/
theorem bodyToJson_eq_iff {lefts rights : List Statement}
    (hDecides : ∀ statement ∈ lefts, statement.FormDecides)
    (hLeft : BodyEverywhere Expr.InRange Statement.InRange lefts)
    (hRight : BodyEverywhere Expr.InRange Statement.InRange rights) :
    bodyToJson lefts = bodyToJson rights ↔ sameBody lefts rights = true := by
  rw [bodyToJson_eq_map, bodyToJson_eq_map, sameBody_eq_isEqv]
  apply map_toJson_eq_iff
  intro left hMember right hMember'
  exact hDecides left hMember (bodyEverywhere_iff.mp hLeft left hMember) right
    (bodyEverywhere_iff.mp hRight right hMember')

theorem argumentsToJson_eq_iff {lefts rights : List Expr}
    (hDecides : ∀ argument ∈ lefts, argument.FormDecides)
    (hLeft : ArgumentsEverywhere Expr.InRange Statement.InRange lefts)
    (hRight : ArgumentsEverywhere Expr.InRange Statement.InRange rights) :
    argumentsToJson lefts = argumentsToJson rights ↔ sameArguments lefts rights = true := by
  rw [argumentsToJson_eq_map, argumentsToJson_eq_map, sameArguments_eq_isEqv]
  apply map_toJson_eq_iff
  intro left hMember right hMember'
  exact hDecides left hMember (argumentsEverywhere_iff.mp hLeft left hMember) right
    (argumentsEverywhere_iff.mp hRight right hMember')

theorem criteriaToJson_eq_iff {lefts rights : List Criterion}
    (hDecides : ∀ key order, .mk key order ∈ lefts → key.FormDecides)
    (hLeft : CriteriaEverywhere Expr.InRange Statement.InRange lefts)
    (hRight : CriteriaEverywhere Expr.InRange Statement.InRange rights) :
    criteriaToJson lefts = criteriaToJson rights ↔ sameCriteria lefts rights = true := by
  rw [criteriaToJson_eq_map, criteriaToJson_eq_map, sameCriteria_eq_isEqv]
  apply map_toJson_eq_iff
  rintro ⟨key, order⟩ hMember ⟨key', order'⟩ hMember'
  have hKeys := hDecides key order hMember (criteriaEverywhere_iff.mp hLeft key order hMember) key'
    (criteriaEverywhere_iff.mp hRight key' order' hMember')
  simp [Criterion.toJson, Criterion.same, Direction.spelling_inj, hKeys, and_comm]

/-- At every node, the form tells what the node is and what is below it. -/
theorem formDecides : HoldsUpwards Expr.FormDecides Statement.FormDecides where
  literal value hLeft right hRight := by
    cases right with
    | literal value' => simpa [Expr.toJson, Expr.same] using Literal.toJson_eq_iff hLeft hRight
    | _ => simp [Expr.toJson, Expr.same]
  identifier name _ right _ := by
    cases right <;> simp [Expr.toJson, Expr.same]
  member object property hObject hLeft right hRight := by
    cases right with
    | member object' property' =>
        simp [Expr.toJson, Expr.same, hObject hLeft.2 object' hRight.2]
    | _ => simp [Expr.toJson, Expr.same]
  call name arguments hArguments hLeft right hRight := by
    cases right with
    | call name' arguments' =>
        simp [Expr.toJson, Expr.same, argumentsToJson_eq_iff hArguments hLeft.2 hRight.2, and_comm]
    | _ => simp [Expr.toJson, Expr.same]
  binary operator left right hFirst hSecond hLeft other hRight := by
    cases other with
    | binary operator' left' right' =>
        simp [Expr.toJson, Expr.same, hFirst hLeft.2.1 left' hRight.2.1,
          hSecond hLeft.2.2 right' hRight.2.2, Operator.spelling_inj, and_left_comm, and_assoc]
    | _ => simp [Expr.toJson, Expr.same]
  subquery body hBody hLeft right hRight := by
    cases right with
    | subquery body' => simp [Expr.toJson, Expr.same, bodyToJson_eq_iff hBody hLeft.2 hRight.2]
    | _ => simp [Expr.toJson, Expr.same]
  forIn name collection _ right _ := by
    cases right <;> simp [Statement.toJson, Statement.same, and_comm]
  filter condition hCondition hLeft right hRight := by
    cases right with
    | filter condition' =>
        simp [Statement.toJson, Statement.same, hCondition hLeft.2 condition' hRight.2]
    | omittedFilter => simp [Statement.toJson, Statement.same, condition.toJson_ne_omitted]
    | _ => simp [Statement.toJson, Statement.same]
  omittedFilter _ right _ := by
    cases right with
    | filter condition' =>
        simp [Statement.toJson, Statement.same, condition'.toJson_ne_omitted.symm]
    | _ => simp [Statement.toJson, Statement.same]
  sort criteria hCriteria hLeft right hRight := by
    cases right with
    | sort criteria' =>
        simp [Statement.toJson, Statement.same,
          criteriaToJson_eq_iff hCriteria hLeft.2 hRight.2]
    | _ => simp [Statement.toJson, Statement.same, omitted]
  omittedSort _ right _ := by
    cases right <;> simp [Statement.toJson, Statement.same, omitted]
  limit offset count hOffset hCount hLeft right hRight := by
    cases right with
    | limit offset' count' =>
        simp [Statement.toJson, Statement.same, and_comm,
          Bound.toJson_eq_iff hLeft.1.1 hRight.1.1 hOffset hLeft.2.1 hRight.2.1,
          Bound.toJson_eq_iff hLeft.1.2 hRight.1.2 hCount hLeft.2.2 hRight.2.2]
    | _ => simp [Statement.toJson, Statement.same]
  letBe name value hValue hLeft right hRight := by
    cases right with
    | letBe name' value' =>
        simp [Statement.toJson, Statement.same, hValue hLeft.2 value' hRight.2, and_comm]
    | _ => simp [Statement.toJson, Statement.same]

section Floats

theorem Literal.toJson_floatFree {value : Literal} (hRange : value.InRange) :
    value.toJson.FloatFree := by
  cases value with
  | float value => cases hRange
  | number value =>
      obtain ⟨whole, -, hJson⟩ := Decimal.toJson_of_isInt64 hRange
      rw [Literal.toJson, hJson]
      trivial
  | _ => trivial

theorem Bound.toJson_floatFree {bound : Bound} (hRange : bound.InRange)
    (hInside : ∀ value, bound = .expression value → value.toJson.FloatFree) :
    bound.toJson.FloatFree := by
  cases bound with
  | number value =>
      obtain ⟨whole, -, hJson⟩ := Decimal.toJson_of_isInt64 hRange
      rw [Bound.toJson, hJson]
      trivial
  | expression value => exact hInside value rfl

/-- Only a number out of range is written as a float. -/
theorem toJson_floatFree : HoldsUpwards
    (fun value => value.Everywhere Expr.InRange Statement.InRange → value.toJson.FloatFree)
    (fun statement =>
      statement.Everywhere Expr.InRange Statement.InRange → statement.toJson.FloatFree) where
  literal value hRange := ⟨trivial, Literal.toJson_floatFree hRange, trivial⟩
  identifier _ _ := ⟨trivial, trivial, trivial⟩
  member _ _ hObject hRange := ⟨hObject hRange.2, trivial, trivial, trivial⟩
  call name arguments hArguments hRange := by
    refine ⟨?_, trivial, trivial, trivial⟩
    rw [Json.FloatFree, argumentsToJson_eq_map, Json.itemsFloatFree_iff, List.forall_mem_map]
    intro argument hMember
    exact hArguments argument hMember (argumentsEverywhere_iff.mp hRange.2 argument hMember)
  binary _ _ _ hLeft hRight hRange :=
    ⟨hLeft hRange.2.1, trivial, hRight hRange.2.2, trivial, trivial⟩
  subquery body hBody hRange := by
    refine ⟨?_, trivial, trivial⟩
    rw [Json.FloatFree, bodyToJson_eq_map, Json.itemsFloatFree_iff, List.forall_mem_map]
    intro statement hMember
    exact hBody statement hMember (bodyEverywhere_iff.mp hRange.2 statement hMember)
  forIn _ _ _ := ⟨trivial, trivial, trivial, trivial⟩
  filter _ hCondition hRange := ⟨hCondition hRange.2, trivial, trivial⟩
  omittedFilter _ := ⟨trivial, trivial, trivial⟩
  sort criteria hCriteria hRange := by
    refine ⟨?_, trivial, trivial⟩
    rw [Json.FloatFree, criteriaToJson_eq_map, Json.itemsFloatFree_iff, List.forall_mem_map]
    rintro ⟨key, order⟩ hMember
    have hKey := criteriaEverywhere_iff.mp hRange.2 key order hMember
    exact ⟨trivial, hCriteria key order hMember hKey, trivial⟩
  omittedSort _ := ⟨trivial, trivial, trivial⟩
  limit offset count hOffset hCount hRange := by
    obtain ⟨⟨hOffsetRange, hCountRange⟩, hOffsetInside, hCountInside⟩ := hRange
    refine ⟨Bound.toJson_floatFree hCountRange ?_, Bound.toJson_floatFree hOffsetRange ?_, trivial,
      trivial⟩
    · intro value hSame
      exact hCount value hSame (Bound.everywhere_iff.mp hCountInside value hSame)
    · intro value hSame
      exact hOffset value hSame (Bound.everywhere_iff.mp hOffsetInside value hSame)
  letBe _ _ hValue hRange := ⟨hValue hRange.2, trivial, trivial, trivial⟩

/-- Without floats in the query there are none in its document, so that its text says which document
it is. -/
theorem Query.toJson_floatFree {query : Query} (hRange : query.InRange) :
    query.toJson.FloatFree :=
  QueryOutline.toJson_floatFree.subquery query.body
    (fun statement _ => QueryOutline.toJson_floatFree.statement statement) ⟨trivial, hRange⟩

end Floats

/-- Queries have the same form exactly if they are equal by value. -/
theorem Query.toJson_eq_iff {left right : Query} (hLeft : left.InRange) (hRight : right.InRange) :
    left.toJson = right.toJson ↔ left.same right = true := by
  have hBodies := bodyToJson_eq_iff (fun statement _ => formDecides.statement statement) hLeft
    hRight
  simpa [Query.toJson, Query.same] using hBodies

/-- The text of a query whose numbers are integers of 64 bits says which query it is: two texts are
the same exactly if the queries are equal by value. A bound is so never taken for a literal, nor an
omitted part for one that was read, nor a string for what it looks like. -/
theorem Query.json_eq_iff_same {left right : Query} (hLeft : left.InRange)
    (hRight : right.InRange) : left.json = right.json ↔ left.same right = true := by
  rw [Query.json, Query.json, Json.text_compact_inj (Query.toJson_floatFree hLeft)
    (Query.toJson_floatFree hRight), Query.toJson_eq_iff hLeft hRight]

/-- A limit of `5.0` is written like a limit of `5`, but not like a limit by the literal `5`. -/
theorem Query.json_eq_iff_same_limit :
    (Query.mk [.limit (.number .zero) (.number ⟨50, 1, by decide, by decide⟩)]).json =
        (Query.mk [.limit (.number .zero) (.number ⟨5, 0, by decide, by decide⟩)]).json ∧
      (Query.mk [.limit (.number .zero) (.number ⟨5, 0, by decide, by decide⟩)]).json ≠
        (Query.mk [.limit (.number .zero)
          (.expression (.literal (.number ⟨5, 0, by decide, by decide⟩)))]).json := by
  have hZero : Decimal.zero.IsInt64 := ⟨0, rfl, by decide, by decide⟩
  have hFive : Decimal.IsInt64 ⟨5, 0, by decide, by decide⟩ := ⟨5, rfl, by decide, by decide⟩
  have hPlace : Decimal.IsInt64 ⟨50, 1, by decide, by decide⟩ := ⟨5, rfl, by decide, by decide⟩
  have hCount : Query.InRange
      ⟨[.limit (.number .zero) (.number ⟨5, 0, by decide, by decide⟩)]⟩ :=
    ⟨⟨⟨hZero, hFive⟩, trivial, trivial⟩, trivial⟩
  have hPlaceCount : Query.InRange
      ⟨[.limit (.number .zero) (.number ⟨50, 1, by decide, by decide⟩)]⟩ :=
    ⟨⟨⟨hZero, hPlace⟩, trivial, trivial⟩, trivial⟩
  have hLiteral : Query.InRange ⟨[.limit (.number .zero)
      (.expression (.literal (.number ⟨5, 0, by decide, by decide⟩)))]⟩ :=
    ⟨⟨⟨hZero, trivial⟩, trivial, hFive⟩, trivial⟩
  constructor
  · exact (Query.json_eq_iff_same hPlaceCount hCount).mpr rfl
  · intro hText
    have hSame := (Query.json_eq_iff_same hCount hLiteral).mp hText
    cases hSame

end QueryOutline
