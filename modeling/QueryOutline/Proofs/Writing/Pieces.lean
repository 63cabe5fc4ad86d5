import QueryOutline.Outline.Basic
import QueryOutline.Proofs.Outline.Induction
import QueryOutline.Token.Basic

/-! How an outline is written: as a sequence of pieces, each of one word or two, with a single space
between all words. An omitted condition or sort is written as its keyword alone. -/

namespace QueryOutline

def escaped (c : Char) : List Char :=
  if c = '"' ∨ c = '\\' then ['\\', c] else [c]

def Literal.chars : Literal → List Char
  | .string value => '"' :: value.toList.flatMap escaped ++ ['"']
  | .number value => value.chars
  | .float value => value.text.toList
  | .boolean true => "true".toList
  | .boolean false => "false".toList
  | .null => "null".toList

/-- The smallest units of a written outline. -/
inductive Piece where
  | keyword (word : Keyword)
  | mark (sign : Mark)
  | literal (value : Literal)
  /-- The name of a variable where it is bound. -/
  | variableName (name : String)
  /-- The name of a variable or a parameter where it is used. -/
  | reference (name : String)
  /-- A property, with the dot in front of it. -/
  | property (name : String)
  | function (name : String)
  | collection (name : String)

def Piece.words : Piece → List (List Char)
  | .keyword word => [word.spelling.toList]
  | .mark sign => [sign.spelling]
  | .literal value => [value.chars]
  | .property name => [Mark.dot.spelling, name.toList]
  | .variableName name | .reference name | .function name | .collection name => [name.toList]

def Operator.piece : Operator → Piece
  | .and => .keyword .and
  | .or => .keyword .or
  | .equal => .mark .equal
  | .notEqual => .mark .notEqual
  | .greaterEqual => .mark .greaterEqual
  | .lessEqual => .mark .lessEqual
  | .greater => .mark .greater
  | .less => .mark .less
  | .like => .keyword .like
  | .isIn => .keyword .isIn

def Direction.piece : Direction → Piece
  | .asc => .keyword .asc
  | .desc => .keyword .desc

def commaed (items : List (List Piece)) : List Piece :=
  [.mark .comma].intercalate items

mutual

/-- The pieces of an expression. Operators stand between their operands, without parentheses. -/
def Expr.pieces : Expr → List Piece
  | .literal value => [.literal value]
  | .identifier name => [.reference name]
  | .member object property => object.pieces ++ [.property property]
  | .call name arguments =>
      [.function name, .mark .openParen] ++ commaed (argumentsPieces arguments) ++
        [.mark .closeParen]
  | .binary operator left right => left.pieces ++ [operator.piece] ++ right.pieces
  | .subquery body => [.mark .openParen] ++ bodyPieces body ++ [.mark .closeParen]

def argumentsPieces : List Expr → List (List Piece)
  | [] => []
  | argument :: arguments => argument.pieces :: argumentsPieces arguments

/-- The pieces of a sort key with its direction, which is always written. -/
def Criterion.pieces : Criterion → List Piece
  | .mk expression direction => expression.pieces ++ [direction.piece]

def criteriaPieces : List Criterion → List (List Piece)
  | [] => []
  | criterion :: criteria => criterion.pieces :: criteriaPieces criteria

def Bound.pieces : Bound → List Piece
  | .number value => [.literal (.number value)]
  | .expression value => value.pieces

/-- The pieces of a statement. An offset that is a number by itself is not written. -/
def Statement.pieces : Statement → List Piece
  | .forIn name collection =>
      [.keyword .forIn, .variableName name, .keyword .isIn, .collection collection]
  | .filter condition => [.keyword .filter] ++ condition.pieces
  | .omittedFilter => [.keyword .filter]
  | .sort criteria => [.keyword .sort] ++ commaed (criteriaPieces criteria)
  | .omittedSort => [.keyword .sort]
  | .limit (.number _) count => [.keyword .limit] ++ count.pieces
  | .limit (.expression offset) count =>
      [.keyword .limit] ++ offset.pieces ++ [.mark .comma] ++ count.pieces
  | .letBe name value => [.keyword .letBe, .variableName name, .mark .assign] ++ value.pieces

def bodyPieces : List Statement → List Piece
  | [] => []
  | statement :: body => statement.pieces ++ bodyPieces body

end

def spaced (words : List (List Char)) : List Char :=
  [' '].intercalate words

def Query.text (query : Query) : String :=
  String.ofList (spaced ((bodyPieces query.body).flatMap Piece.words))

section

variable (P : Piece → Prop)

/-- The property holds for all pieces that need no name: operators, parentheses, commas, the
keywords of clauses other than a binding, and numbers. -/
structure HoldsForFixed : Prop where
  keyword : ∀ word, word ≠ .letBe → P (.keyword word)
  mark : ∀ sign, sign ≠ .dot → P (.mark sign)
  number : ∀ value, P (.literal (.number value))

/-- The property holds for the value or the name that the outermost form of an expression brings. -/
def Expr.OwnPiece : Expr → Prop
  | .literal value => P (.literal value)
  | .identifier name => P (.reference name)
  | .member _ property => P (.property property)
  | .call name _ => P (.function name)
  | .binary _ _ _ | .subquery _ => True

/-- The property holds for the names that the outermost form of a statement brings. -/
def Statement.OwnPieces : Statement → Prop
  | .forIn name collection => P (.variableName name) ∧ P (.collection collection)
  | .letBe name _ => P (.keyword .letBe) ∧ P (.variableName name)
  | .filter _ | .omittedFilter | .sort _ | .omittedSort | .limit _ _ => True

end

section

variable {P : Piece → Prop}

theorem HoldsForFixed.operator (hFixed : HoldsForFixed P) (operator : Operator) :
    P operator.piece := by
  cases operator with
  | and | or | like | isIn => exact hFixed.keyword _ (by decide)
  | equal | notEqual | greaterEqual | lessEqual | greater | less => exact hFixed.mark _ (by decide)

theorem HoldsForFixed.direction (hFixed : HoldsForFixed P) (direction : Direction) :
    P direction.piece := by
  cases direction <;> exact hFixed.keyword _ (by decide)

theorem commaed_singleton (item : List Piece) : commaed [item] = item := by
  simp [commaed, List.intercalate]

theorem commaed_cons_cons (first second : List Piece) (items : List (List Piece)) :
    commaed (first :: second :: items) = first ++ .mark .comma :: commaed (second :: items) := by
  simp [commaed, List.intercalate]

/-- The commas between the items add nothing to what is asked of the pieces but themselves. -/
theorem forall_commaed_iff (hComma : P (.mark .comma)) {items : List (List Piece)} :
    (∀ piece ∈ commaed items, P piece) ↔ ∀ pieces ∈ items, ∀ piece ∈ pieces, P piece := by
  induction items with
  | nil => simp [commaed, List.intercalate]
  | cons first items ih =>
      cases items with
      | nil => simp [commaed, List.intercalate]
      | cons second items =>
          rw [commaed_cons_cons, List.forall_mem_append, List.forall_mem_cons, ih,
            List.forall_mem_cons (l := second :: items)]
          simp [hComma]

theorem argumentsPieces_eq_map (arguments : List Expr) :
    argumentsPieces arguments = arguments.map Expr.pieces := by
  induction arguments with
  | nil => rfl
  | cons argument arguments ih => rw [argumentsPieces, ih, List.map_cons]

theorem criteriaPieces_eq_map (criteria : List Criterion) :
    criteriaPieces criteria = criteria.map Criterion.pieces := by
  induction criteria with
  | nil => rfl
  | cons criterion criteria ih => rw [criteriaPieces, ih, List.map_cons]

theorem bodyPieces_eq_flatMap (body : List Statement) :
    bodyPieces body = body.flatMap Statement.pieces := by
  induction body with
  | nil => rfl
  | cons statement body ih => rw [bodyPieces, ih, List.flatMap_cons]

theorem HoldsForFixed.bound_iff (hFixed : HoldsForFixed P) {bound : Bound}
    (hValue : ∀ value, bound = .expression value → ((∀ piece ∈ value.pieces, P piece) ↔
      value.Everywhere (Expr.OwnPiece P) (Statement.OwnPieces P))) :
    (∀ piece ∈ bound.pieces, P piece) ↔
      bound.Everywhere (Expr.OwnPiece P) (Statement.OwnPieces P) := by
  cases bound with
  | number value => simp [Bound.pieces, Bound.Everywhere, hFixed.number value]
  | expression value => simpa [Bound.pieces, Bound.Everywhere] using hValue value rfl

/-- A property holds for all pieces of an expression or a statement if it holds for what each node
brings. -/
theorem HoldsForFixed.pieces_iff (hFixed : HoldsForFixed P) :
    HoldsUpwards
      (fun value => (∀ piece ∈ value.pieces, P piece) ↔
        value.Everywhere (Expr.OwnPiece P) (Statement.OwnPieces P))
      (fun statement => (∀ piece ∈ statement.pieces, P piece) ↔
        statement.Everywhere (Expr.OwnPiece P) (Statement.OwnPieces P)) where
  literal value := by simp [Expr.pieces, Expr.Everywhere, Expr.OwnPiece]
  identifier name := by simp [Expr.pieces, Expr.Everywhere, Expr.OwnPiece]
  member object property hObject := by
    simp [Expr.pieces, Expr.Everywhere, Expr.OwnPiece, or_imp, forall_and, hObject, and_comm]
  call name arguments hArguments := by
    have hOpen := hFixed.mark .openParen (by decide)
    have hClose := hFixed.mark .closeParen (by decide)
    have hComma := hFixed.mark .comma (by decide)
    have hPieces : (∀ piece ∈ commaed (argumentsPieces arguments), P piece) ↔
        ArgumentsEverywhere (Expr.OwnPiece P) (Statement.OwnPieces P) arguments := by
      rw [forall_commaed_iff hComma, argumentsPieces_eq_map, List.forall_mem_map,
        argumentsEverywhere_iff]
      exact forall₂_congr hArguments
    simp only [Expr.pieces, Expr.Everywhere, Expr.OwnPiece, List.forall_mem_append, hPieces]
    simp [hOpen, hClose]
  binary operator left right hLeft hRight := by
    simp [Expr.pieces, Expr.Everywhere, Expr.OwnPiece, or_imp, forall_and, hLeft, hRight,
      hFixed.operator operator]
  subquery body hBody := by
    have hOpen := hFixed.mark .openParen (by decide)
    have hClose := hFixed.mark .closeParen (by decide)
    have hPieces : (∀ piece ∈ bodyPieces body, P piece) ↔
        BodyEverywhere (Expr.OwnPiece P) (Statement.OwnPieces P) body := by
      rw [bodyPieces_eq_flatMap, List.forall_mem_flatMap, bodyEverywhere_iff]
      exact forall₂_congr hBody
    simp only [Expr.pieces, Expr.Everywhere, Expr.OwnPiece, List.forall_mem_append, hPieces]
    simp [hOpen, hClose]
  forIn name collection := by
    simp [Statement.pieces, Statement.Everywhere, Statement.OwnPieces, hFixed.keyword]
  filter condition hCondition := by
    simp [Statement.pieces, Statement.Everywhere, Statement.OwnPieces, hFixed.keyword, hCondition]
  omittedFilter := by
    simp [Statement.pieces, Statement.Everywhere, Statement.OwnPieces, hFixed.keyword]
  sort criteria hCriteria := by
    have hComma := hFixed.mark .comma (by decide)
    have hPieces : (∀ piece ∈ commaed (criteriaPieces criteria), P piece) ↔
        CriteriaEverywhere (Expr.OwnPiece P) (Statement.OwnPieces P) criteria := by
      rw [forall_commaed_iff hComma, criteriaPieces_eq_map, List.forall_mem_map,
        criteriaEverywhere_iff]
      constructor
      · intro hPieces key order hMember
        exact (hCriteria key order hMember).mp (List.forall_mem_append.mp (hPieces _ hMember)).1
      · rintro hKeys ⟨key, order⟩ hMember
        refine List.forall_mem_append.mpr ⟨?_, by simpa using hFixed.direction order⟩
        exact (hCriteria key order hMember).mpr (hKeys key order hMember)
    simp only [Statement.pieces, Statement.Everywhere, Statement.OwnPieces, List.forall_mem_append,
      hPieces]
    simp [hFixed.keyword]
  omittedSort := by
    simp [Statement.pieces, Statement.Everywhere, Statement.OwnPieces, hFixed.keyword]
  limit offset count hOffset hCount := by
    have hCountPieces := hFixed.bound_iff hCount
    cases offset with
    | number value =>
        simp [Statement.pieces, Statement.Everywhere, Statement.OwnPieces, Bound.Everywhere,
          hFixed.keyword, hCountPieces]
    | expression value =>
        have hComma := hFixed.mark .comma (by decide)
        simp [Statement.pieces, Statement.Everywhere, Statement.OwnPieces, Bound.Everywhere,
          or_imp, forall_and, hFixed.keyword, hComma, hOffset value rfl, hCountPieces]
  letBe name value hValue := by
    have hAssign := hFixed.mark .assign (by decide)
    simp [Statement.pieces, Statement.Everywhere, Statement.OwnPieces, hAssign, hValue, and_assoc]

/-- What is asked of all pieces of a query comes down to what is asked of the names and values at
its nodes. -/
theorem HoldsForFixed.query_iff (hFixed : HoldsForFixed P) (query : Query) :
    (∀ piece ∈ bodyPieces query.body, P piece) ↔
      query.Everywhere (Expr.OwnPiece P) (Statement.OwnPieces P) := by
  rw [bodyPieces_eq_flatMap, List.forall_mem_flatMap, Query.Everywhere, bodyEverywhere_iff]
  exact forall₂_congr fun statement _ => hFixed.pieces_iff.statement statement

end

end QueryOutline
