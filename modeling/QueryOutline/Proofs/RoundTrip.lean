import QueryOutline.Proofs.OmittedBodies
import QueryOutline.Proofs.Writing.Derivation

/-! Reading is complete: every well-formed outline is what is read from its own text. -/

namespace QueryOutline

open Reading Grammar

/-- An expression is read back in each of the places where its form may stand. -/
structure Expr.ReadsBack (value : Expr) : Prop where
  operand : value.IsOperand → ReadBack (.operand · value ·) EndsOperand value.pieces
  comparison : ¬value.IsLogical → ReadBack (.comparison · value ·) EndsComparison value.pieces
  chain : ChainReadBack value

namespace Expr.ReadsBack

variable {value : Expr}

/-- An operand can stand in all places, since a comparison and a chain may consist of it alone. -/
theorem of_operand (hOperand : ReadBack (.operand · value ·) EndsOperand value.pieces) :
    value.ReadsBack where
  operand _ := hOperand
  comparison _ := readBack_single hOperand
  chain := chainReadBack_single (readBack_single hOperand)

/-- The form of the operator decides where the expression may stand: logical operators in a chain
only, with a comparison on the right. -/
theorem binary {operator : Operator} {left right : Expr}
    (hFormed : (Expr.binary operator left right).WellFormed) (hLeft : left.ReadsBack)
    (hRight : right.ReadsBack) : (Expr.binary operator left right).ReadsBack := by
  cases hLogical : operator.isLogical with
  | true =>
      have hRightFormed : ¬right.IsLogical := by simpa [WellFormed, hLogical] using hFormed
      exact {
        operand := fun hOperand => hOperand.elim
        comparison := fun hCompares => absurd hLogical hCompares
        chain := chainReadBack_link hLogical hLeft.chain (hRight.comparison hRightFormed) }
  | false =>
      have hOperands : left.IsOperand ∧ right.IsOperand := by
        simpa [WellFormed, hLogical] using hFormed
      have hCompare := readBack_compare hLogical (hLeft.operand hOperands.1)
        (hRight.operand hOperands.2)
      exact {
        operand := fun hOperand => hOperand.elim
        comparison := fun _ => hCompare
        chain := chainReadBack_single hCompare }

theorem expression (hValue : value.ReadsBack) :
    ReadBack (.expression · value ·) EndsExpression value.pieces :=
  readBack_expression hValue.chain

end Expr.ReadsBack

/-- The three forms of a limit are written differently and read apart. -/
theorem readsBack_limit {offset count : Bound} (hShaped : LimitShaped offset count)
    (hOffset : ∀ value, offset = .expression value → value.ReadsBack)
    (hCount : ∀ value, count = .expression value → value.ReadsBack) :
    (Statement.limit offset count).ReadsBack := by
  rcases hShaped with ⟨rfl, value, rfl⟩ | ⟨rfl, value, rfl, hOperand, hNumber⟩ |
    ⟨first, second, rfl, rfl, hFirst, hSecond⟩
  · exact readsBack_limitCount rfl rfl (readBack_literal (.number value))
  · exact readsBack_limitCount (Bound.ofExpr_of_not_isNumber hNumber).symm rfl
      ((hCount value rfl).operand hOperand)
  · exact readsBack_limitBoth ((hOffset first rfl).operand hFirst)
      ((hCount second rfl).operand hSecond)

/-- Everything that is well formed is read back. -/
theorem readsBack_holdsUpwards :
    HoldsUpwards
      (fun value => value.Everywhere Expr.WellFormed Statement.WellFormed → value.ReadsBack)
      (fun statement =>
        statement.Everywhere Expr.WellFormed Statement.WellFormed → statement.ReadsBack) where
  literal value _ := .of_operand (readBack_literal value)
  identifier _ hValue := .of_operand (readBack_path trivial hValue)
  member _ _ _ hValue := .of_operand (readBack_path trivial hValue)
  call _ _ hArguments hValue := by
    refine .of_operand (readBack_call fun argument hMember => ?_)
    exact (hArguments argument hMember (argumentsEverywhere_iff.mp hValue.2 _ hMember)).expression
  binary _ _ _ hLeft hRight hValue := .binary hValue.1 (hLeft hValue.2.1) (hRight hValue.2.2)
  subquery body hBody hValue := by
    have hConforms : ∀ statement ∈ body, Conforms true statement := hValue.1
    refine .of_operand (readBack_group fun lexemes hSpelled => ?_)
    refine derives_body (fun statement hMember => ?_) hConforms hSpelled
    exact hBody statement hMember (bodyEverywhere_iff.mp hValue.2 statement hMember)
  forIn name collection _ := readsBack_forIn name collection
  filter _ hCondition hValue := readsBack_filter (hCondition hValue.2).expression
  omittedFilter _ := readsBack_omitted trivial rfl fun _ _ => .omittedFilter
  sort _ hCriteria hValue := by
    refine readsBack_sort (readBack_criteria hValue.1 fun key order hMember => ?_)
    exact (hCriteria key order hMember
      (criteriaEverywhere_iff.mp hValue.2 key order hMember)).expression
  omittedSort _ := readsBack_omitted trivial rfl fun _ _ => .omittedSort
  limit _ _ hOffset hCount hValue :=
    readsBack_limit hValue.1
      (fun value hSame => hOffset value hSame (Bound.everywhere_iff.mp hValue.2.1 value hSame))
      (fun value hSame => hCount value hSame (Bound.everywhere_iff.mp hValue.2.2 value hSame))
  letBe _ _ hBound hValue := readsBack_letBe (hBound hValue.2).expression

/-- An expression that does not call a function by the name of the keyword of bindings. -/
def Expr.IsNoLetCall : Expr → Prop
  | .call name _ => name ≠ Keyword.letBe.spelling
  | _ => True

/-- The keyword of bindings is written somewhere in the query, in a binding or as the name of a
function. -/
def Query.MentionsLet (query : Query) : Prop :=
  ¬query.Everywhere Expr.IsNoLetCall Statement.IsNoLet

/-- A query is well formed, in a place where variables are bound or not: all its nodes are, and the
conditions and sort keys outside of groups are kept exactly if no variables are bound around it and
the keyword of bindings is not in it. -/
structure Query.WellFormed (letContext : Bool) (query : Query) : Prop where
  nodes : query.Everywhere Expr.WellFormed Statement.WellFormed
  kept : letContext = false → ¬query.MentionsLet → ∀ statement ∈ query.body, ¬statement.IsOmitted
  omitted : letContext = true ∨ query.MentionsLet → ∀ statement ∈ query.body, ¬statement.HasBody

namespace Query

/-- The names in a query are asked to be what their pieces are scanned as, node by node. -/
theorem wellFormed_pieces {query : Query}
    (hNodes : query.Everywhere Expr.WellFormed Statement.WellFormed) :
    ∀ piece ∈ bodyPieces query.body, piece.WellFormed := by
  have hFixed : HoldsForFixed Piece.WellFormed := {
    keyword := fun _ _ => trivial
    mark := fun _ hDot => hDot
    number := fun _ _ => by simp }
  refine (hFixed.query_iff query).mpr (hNodes.imp ?_ ?_)
  · intro value hValue
    cases value with
    | member object property => exact hValue.2
    | binary _ _ _ | subquery _ => trivial
    | literal _ | identifier _ | call _ _ => exact hValue
  · intro statement hStatement
    cases statement with
    | letBe name value => exact ⟨trivial, hStatement⟩
    | forIn name collection => exact hStatement
    | filter _ | omittedFilter | sort _ | omittedSort | limit _ _ => trivial

/-- The keyword of bindings is written by bindings and by calls of a function with its name, and by
nothing else. -/
theorem exists_isLet_iff (query : Query) :
    (∃ piece ∈ bodyPieces query.body, piece.IsLet) ↔ query.MentionsLet := by
  have hFixed : HoldsForFixed fun piece => ¬piece.IsLet := {
    keyword := fun word hOther => by simpa [Piece.IsLet] using hOther
    mark := fun _ _ => by simp [Piece.IsLet]
    number := fun _ => by simp [Piece.IsLet] }
  have hExpr : Expr.OwnPiece (fun piece => ¬piece.IsLet) = Expr.IsNoLetCall := by
    funext value
    cases value <;> simp [Expr.OwnPiece, Expr.IsNoLetCall, Piece.IsLet]
  have hStatement : Statement.OwnPieces (fun piece => ¬piece.IsLet) = Statement.IsNoLet := by
    funext statement
    cases statement <;> simp [Statement.OwnPieces, Statement.IsNoLet, Piece.IsLet]
  have hNone := hFixed.query_iff query
  rw [hExpr, hStatement] at hNone
  rw [MentionsLet, ← hNone]
  simp

/-- The statements outside of groups are as the reading of the text asks. -/
theorem WellFormed.conforms {options : Options} {query : Query}
    (hQuery : query.WellFormed options.letContext) :
    ∀ statement ∈ query.body, Conforms (options.letBound (lexemes query.text)) statement := by
  have hSpelled := spelled_lexemes (wellFormed_pieces hQuery.nodes)
  have hBound : options.letBound (lexemes query.text) = true ↔
      options.letContext = true ∨ query.MentionsLet := by
    rw [letBound_iff, BindsVariables, hSpelled.exists_letBe_iff, query.exists_isLet_iff]
  cases hLet : options.letBound (lexemes query.text) with
  | true => exact hQuery.omitted (hBound.mp hLet)
  | false =>
      have hNeither := mt hBound.mpr (by simp [hLet])
      rw [not_or, Bool.not_eq_true] at hNeither
      exact hQuery.kept hNeither.1 hNeither.2

/-- The grammar gives back a well-formed query for the lexemes of its own text. Nesting plays no
part in this. -/
theorem WellFormed.derives {options : Options} {query : Query}
    (hQuery : query.WellFormed options.letContext) :
    Derives (.body (options.letBound (lexemes query.text)) (lexemes query.text) query.body) := by
  refine derives_body ?_ hQuery.conforms (spelled_lexemes (wellFormed_pieces hQuery.nodes))
  intro statement hMember
  exact readsBack_holdsUpwards.statement statement
    (bodyEverywhere_iff.mp hQuery.nodes statement hMember)

/-- Every well-formed query is read from its own text, with every limit that is not below its
nesting. -/
theorem ofText_text {options : Options} {query : Query}
    (hQuery : query.WellFormed options.letContext) (hNesting : query.nesting ≤ options.maxDepth) :
    ofText options query.text = .ok query :=
  ofText_ok_iff.mpr ⟨hQuery.derives, hNesting⟩

/-- A query whose words are easily taken for something else: a property that is named like a
keyword, a function that is, and a collection that is a number. -/
theorem ofText_text_keywords :
    ofText {} (Query.text ⟨[.forIn "x" "1.50", .filter (.binary .like
        (.member (.identifier "x") "limit") (.call "LIKE" [.literal (.string "\\\"")]))]⟩) =
      .ok ⟨[.forIn "x" "1.50", .filter (.binary .like
        (.member (.identifier "x") "limit") (.call "LIKE" [.literal (.string "\\\"")]))]⟩ := by
  have hName : IsName "x".toList :=
    ⟨⟨List.all_eq_true.mp (by decide), .inl ⟨'x', [], rfl, by decide⟩⟩, by decide⟩
  have hCollection : IsCollectionName "1.50" :=
    .inr ⟨⟨150, 2, by decide, by decide⟩, by decide +kernel⟩
  have hProperty : IsWord "limit".toList :=
    ⟨List.all_eq_true.mp (by decide), .inl ⟨'l', "imit".toList, rfl, by decide⟩⟩
  have hOther : "LIKE" ≠ Keyword.letBe.spelling := by decide
  have hFree : Query.Everywhere Expr.IsNoLetCall Statement.IsNoLet
      ⟨[.forIn "x" "1.50", .filter (.binary .like (.member (.identifier "x") "limit")
        (.call "LIKE" [.literal (.string "\\\"")]))]⟩ :=
    ⟨trivial, ⟨trivial, trivial, ⟨trivial, trivial⟩, hOther, trivial, trivial⟩, trivial⟩
  refine ofText_text ⟨?_, ?_, ?_⟩ (by decide)
  · exact ⟨⟨hName, hCollection⟩, ⟨trivial, ⟨trivial, trivial⟩, ⟨⟨trivial, hProperty⟩, .inl hName⟩,
      .inr ⟨.like, rfl⟩, nofun, trivial⟩, trivial⟩
  · simp [Statement.IsOmitted]
  · rintro (hBound | hMentions)
    · cases hBound
    · exact absurd hFree hMentions

end Query

end QueryOutline
