import QueryOutline.Proofs.Grammar.Expressions
import QueryOutline.Proofs.Outline.Shape
import QueryOutline.Proofs.Writing.Balance

/-! A written outline is derived again. The rules of the grammar look one or two tokens ahead, and
what is written behind an expression or a statement never lets them go on too far. -/

namespace QueryOutline

open Reading Grammar

/-- An expression is formed so that it can be written and read: chains of logical operators nest to
the left, comparisons stand between operands, properties belong to names, and groups omit the bodies
of their statements. -/
def Expr.WellFormed : Expr → Prop
  | .literal value => ∀ number, value ≠ .float number
  | .identifier name => IsReference name
  | .member object property => object.IsPath ∧ IsWord property.toList
  | .call name _ => IsFunctionName name
  | .binary operator left right =>
      if operator.isLogical then ¬right.IsLogical else left.IsOperand ∧ right.IsOperand
  | .subquery body => ∀ statement ∈ body, ¬statement.HasBody

def Statement.WellFormed : Statement → Prop
  | .forIn name collection => IsName name.toList ∧ IsCollectionName collection
  | .filter _ | .omittedFilter | .omittedSort => True
  | .sort criteria => criteria ≠ []
  | .limit offset count => LimitShaped offset count
  | .letBe name _ => IsName name.toList

section Following

def Piece.IsWord : Piece → Prop
  | .property _ => False
  | _ => True

/-- What a piece of one word is scanned as is one lexeme. -/
theorem Spelled.uncons {piece : Piece} {pieces : List Piece} {lexemes : List Lexeme}
    (hSpelled : Spelled (piece :: pieces) lexemes) (hWord : piece.IsWord) :
    ∃ lexeme rest, lexemes = lexeme :: rest ∧ piece.Denotes lexeme.token ∧ Spelled pieces rest := by
  cases hSpelled with
  | word hDenotes hRest => exact ⟨_, _, rfl, hDenotes, hRest⟩
  | property => exact hWord.elim

/-- The first token that the pieces are scanned as, if there is one, has the property. -/
def StartsWith (P : Token → Prop) (pieces : List Piece) : Prop :=
  ∀ lexeme lexemes, Spelled pieces (lexeme :: lexemes) → P lexeme.token

/-- No operand goes on with the token. -/
structure EndsOperand (token : Token) : Prop where
  noCall : token ≠ .mark .openParen
  noProperty : token ≠ .mark .dot

structure EndsComparison (token : Token) : Prop extends EndsOperand token where
  noComparison : comparison? token = none

structure EndsExpression (token : Token) : Prop extends EndsComparison token where
  noLink : logicalOperator? token = none

structure EndsList (token : Token) : Prop extends EndsExpression token where
  noComma : token ≠ .mark .comma

/-- The tokens that open a statement are keywords at which a clause that is stepped over ends. -/
theorem exists_keyword_of_opensStatement {token : Token} (hOpens : opensStatement token = true) :
    ∃ word : Keyword, token = .keyword word ∧ word.startsClause = true := by
  unfold opensStatement at hOpens
  split at hOpens
  any_goals exact ⟨_, rfl, rfl⟩
  cases hOpens

/-- The next statement ends whatever was read before it: no list, expression, comparison or operand
goes on with its keyword. -/
theorem endsList_of_opensStatement {token : Token} (hOpens : opensStatement token = true) :
    EndsList token := by
  obtain ⟨word, rfl, hStarts⟩ := exists_keyword_of_opensStatement hOpens
  refine ⟨⟨⟨⟨by simp, by simp⟩, ?_⟩, ?_⟩, by simp⟩
  · cases word <;> first | rfl | cases hStarts
  · cases word <;> first | rfl | cases hStarts

namespace StartsWith

variable {P Q : Token → Prop} {pieces : List Piece}

theorem nil : StartsWith P [] :=
  fun _ _ hSpelled => nomatch hSpelled

theorem imp (hStart : StartsWith P pieces) (hImplies : ∀ token, P token → Q token) :
    StartsWith Q pieces :=
  fun lexeme lexemes hSpelled => hImplies _ (hStart lexeme lexemes hSpelled)

/-- For a piece of one word it is enough to know what that word can be scanned as. -/
theorem word {piece : Piece} (hWord : piece.IsWord)
    (hPiece : ∀ token, piece.Denotes token → P token) : StartsWith P (piece :: pieces) := by
  intro lexeme lexemes hSpelled
  obtain ⟨first, rest, hLexemes, hDenotes, -⟩ := hSpelled.uncons hWord
  obtain ⟨rfl, rfl⟩ := List.cons.inj hLexemes
  exact hPiece _ hDenotes

theorem keyword {word : Keyword} (hKeyword : P (.keyword word)) :
    StartsWith P (.keyword word :: pieces) :=
  .word trivial fun _ hDenotes => hDenotes ▸ hKeyword

theorem mark {sign : Mark} (hMark : P (.mark sign)) : StartsWith P (.mark sign :: pieces) :=
  .word trivial fun _ hDenotes => hDenotes ▸ hMark

/-- A property starts with the dot in front of its name. -/
theorem property {name : String} (hDot : P (.mark .dot)) :
    StartsWith P (.property name :: pieces) := by
  intro lexeme lexemes hSpelled
  cases hSpelled with
  | word hDenotes _ => exact hDenotes.elim
  | property hToken _ _ => exact hToken ▸ hDot

/-- What is not the first token cannot be taken, be it that nothing is left. -/
theorem eat?_eq_none {token : Token} (hStart : StartsWith (· ≠ token) pieces)
    {lexemes : List Lexeme} (hSpelled : Spelled pieces lexemes) : eat? token lexemes = none := by
  cases lexemes with
  | nil => rfl
  | cons lexeme lexemes => simp [eat?, hStart lexeme lexemes hSpelled]

theorem nextOperator?_eq_none {operator? : Token → Option Operator}
    (hStart : StartsWith (operator? · = none) pieces) {lexemes : List Lexeme}
    (hSpelled : Spelled pieces lexemes) : nextOperator? operator? lexemes = none := by
  cases lexemes with
  | nil => rfl
  | cons lexeme lexemes => simp [nextOperator?, hStart lexeme lexemes hSpelled]

/-- Where no dot follows, a name has no properties. -/
theorem members_eq (hStart : StartsWith (· ≠ .mark .dot) pieces) {lexemes : List Lexeme}
    (hSpelled : Spelled pieces lexemes) (object : Expr) :
    members object lexemes = (object, lexemes) := by
  unfold members
  split
  · exact absurd rfl (hStart _ _ hSpelled)
  · rfl

/-- A clause of one word, such as a filter without its condition, ends in front of the next
statement at once. -/
theorem afterClause_eq (hStart : StartsWith (opensStatement · = true) pieces)
    {lexemes : List Lexeme} (hSpelled : Spelled pieces lexemes) :
    afterClause 0 lexemes = lexemes := by
  cases lexemes with
  | nil => rfl
  | cons lexeme lexemes =>
      obtain ⟨word, hToken, hStarts⟩ := exists_keyword_of_opensStatement (hStart _ _ hSpelled)
      simp [afterClause, hToken, hStarts]

end StartsWith

end Following

section Operands

/-- Whatever is scanned as the pieces is read by the rules as the judgement says, if what is written
behind them starts with a token of the given kind. -/
def ReadBack (judge : List Lexeme → List Lexeme → Judgement) (ends : Token → Prop)
    (pieces : List Piece) : Prop :=
  ∀ more lexemes, StartsWith ends more → Spelled (pieces ++ more) lexemes →
    ∃ rest, Derives (judge lexemes rest) ∧ Spelled more rest

/-- A literal is one lexeme, which says what it is whatever follows. -/
theorem readBack_literal (value : Literal) :
    ReadBack (.operand · (.literal value) ·) EndsOperand (Expr.literal value).pieces := by
  intro more lexemes _ hSpelled
  obtain ⟨lexeme, rest, rfl, hDenotes, hRest⟩ := hSpelled.uncons trivial
  exact ⟨rest, .literal hDenotes, hRest⟩

/-- The name at the start of a path is found, and reading its properties from there on is reading on
from behind the whole path. -/
theorem exists_members_of_isPath {value : Expr} (hPath : value.IsPath)
    (hValue : value.Everywhere Expr.WellFormed Statement.WellFormed) {more : List Piece}
    {lexemes : List Lexeme} (hMore : StartsWith (· ≠ .mark .openParen) more)
    (hSpelled : Spelled (value.pieces ++ more) lexemes) :
    ∃ lexeme name middle rest, lexemes = lexeme :: middle ∧
      (Piece.reference name).Denotes lexeme.token ∧ eat? (.mark .openParen) middle = none ∧
      members (.identifier name) middle = members value rest ∧ Spelled more rest := by
  cases value with
  | identifier name =>
      obtain ⟨lexeme, rest, rfl, hDenotes, hRest⟩ := hSpelled.uncons trivial
      exact ⟨lexeme, name, rest, rest, rfl, hDenotes, hMore.eat?_eq_none hRest, rfl, hRest⟩
  | member object property =>
      -- The object is written first, and its last property is what `members` reads last.
      rw [Expr.pieces, List.append_assoc] at hSpelled
      obtain ⟨lexeme, name, middle, behind, rfl, hDenotes, hNoCall, hMembers, hBehind⟩ :=
        exists_members_of_isPath hValue.1.1 hValue.2 (.property (by simp)) hSpelled
      refine ⟨lexeme, name, middle, ?_⟩
      cases hBehind with
      | word hNone _ => exact hNone.elim
      | @property _ _ dot named rest hDot hName hRest =>
          obtain ⟨_, _, _⟩ := dot
          obtain ⟨_, _, _⟩ := named
          obtain rfl := hDot
          obtain rfl := hName
          exact ⟨rest, rfl, hDenotes, hNoCall, by rw [hMembers, members], hRest⟩
  | literal _ | call _ _ | binary _ _ _ | subquery _ => exact hPath.elim

/-- A run of properties is read as far as it goes, since what follows starts with no dot. A name at
its start must not be taken for a call, so that no parenthesis follows either. -/
theorem readBack_path {value : Expr} (hPath : value.IsPath)
    (hValue : value.Everywhere Expr.WellFormed Statement.WellFormed) :
    ReadBack (.operand · value ·) EndsOperand value.pieces := by
  intro more lexemes hMore hSpelled
  obtain ⟨lexeme, name, middle, rest, rfl, hDenotes, hNoCall, hMembers, hRest⟩ :=
    exists_members_of_isPath hPath hValue (hMore.imp fun _ hEnds => hEnds.noCall) hSpelled
  rw [(hMore.imp fun _ hEnds => hEnds.noProperty).members_eq hRest] at hMembers
  refine ⟨rest, ?_, hRest⟩
  rcases hDenotes with hToken | hToken
  · have hDerives := Derives.name hToken hNoCall
    rwa [hMembers] at hDerives
  · have hDerives := @Derives.parameter lexeme name middle hToken
    rwa [hMembers] at hDerives

/-- What is between the parentheses of a group is read by itself, so that it may be any body, and
nothing is asked of what follows. -/
theorem readBack_group {body : List Statement}
    (hBody : ∀ lexemes, Spelled (bodyPieces body) lexemes → Derives (.body true lexemes body)) :
    ReadBack (.operand · (.subquery body) ·) EndsOperand (Expr.subquery body).pieces := by
  intro more lexemes _ hSpelled
  rw [Expr.pieces, List.append_assoc, List.append_assoc] at hSpelled
  obtain ⟨lexeme, rest, rfl, hOpen, hRest⟩ := hSpelled.uncons trivial
  obtain ⟨hContent, hBehind⟩ := Spelled.group hRest
  exact ⟨_, .group hOpen (hBody _ hContent), hBehind⟩

end Operands

section Expressions

/-- The first comparison of an expression is found, and what can be made of the chain behind the
expression can be made of the chain behind that comparison. -/
def ChainReadBack (value : Expr) : Prop :=
  ∀ more lexemes, StartsWith EndsComparison more → Spelled (value.pieces ++ more) lexemes →
    ∃ first middle rest, Derives (.comparison lexemes first middle) ∧ Spelled more rest ∧
      ∀ total after, Derives (.chain value rest total after) →
        Derives (.chain first middle total after)

/-- An operand by itself is a comparison if no comparison operator follows. -/
theorem readBack_single {value : Expr}
    (hOperand : ReadBack (.operand · value ·) EndsOperand value.pieces) :
    ReadBack (.comparison · value ·) EndsComparison value.pieces := by
  intro more lexemes hMore hSpelled
  obtain ⟨rest, hDerives, hRest⟩ :=
    hOperand more lexemes (hMore.imp fun _ hEnds => hEnds.toEndsOperand) hSpelled
  have hEnd := (hMore.imp fun _ hEnds => hEnds.noComparison).nextOperator?_eq_none hRest
  exact ⟨rest, .single hDerives hEnd, hRest⟩

/-- A chain of one comparison ends behind it, so that what goes on from the comparison goes on from
the chain. -/
theorem chainReadBack_single {value : Expr}
    (hComparison : ReadBack (.comparison · value ·) EndsComparison value.pieces) :
    ChainReadBack value := by
  intro more lexemes hMore hSpelled
  obtain ⟨rest, hDerives, hRest⟩ := hComparison more lexemes hMore hSpelled
  exact ⟨value, rest, rest, hDerives, hRest, fun _ _ hChain => hChain⟩

/-- Where no logical operator follows, the chain is the whole expression. -/
theorem readBack_expression {value : Expr} (hChain : ChainReadBack value) :
    ReadBack (.expression · value ·) EndsExpression value.pieces := by
  intro more lexemes hMore hSpelled
  obtain ⟨first, middle, rest, hFirst, hRest, hTotal⟩ :=
    hChain more lexemes (hMore.imp fun _ hEnds => hEnds.toEndsComparison) hSpelled
  have hEnd := (hMore.imp fun _ hEnds => hEnds.noLink).nextOperator?_eq_none hRest
  exact ⟨rest, .expression hFirst (hTotal _ _ (.chainEnd hEnd)), hRest⟩

theorem Operator.logicalOperator?_eq {operator : Operator} (hLogical : operator.isLogical = true)
    {token : Token} (hDenotes : operator.piece.Denotes token) :
    logicalOperator? token = some operator := by
  cases operator with
  | and | or =>
      obtain rfl := hDenotes
      rfl
  | _ => cases hLogical

theorem Operator.comparison?_eq {operator : Operator} (hCompares : operator.isLogical = false)
    {token : Token} (hDenotes : operator.piece.Denotes token) :
    comparison? token = some operator := by
  cases operator with
  | and | or => cases hCompares
  | _ =>
      obtain rfl := hDenotes
      rfl

/-- An operator ends the operand in front of it. -/
theorem Operator.startsWith (operator : Operator) (pieces : List Piece) :
    StartsWith EndsOperand (operator.piece :: pieces) := by
  cases operator with
  | and | or | like | isIn => exact .keyword ⟨by simp, by simp⟩
  | _ => exact .mark ⟨by simp, by simp⟩

/-- A logical operator ends the comparison in front of it. -/
theorem Operator.startsWith_logical {operator : Operator} (hLogical : operator.isLogical = true)
    (pieces : List Piece) : StartsWith EndsComparison (operator.piece :: pieces) := by
  cases operator with
  | and | or => exact .keyword ⟨⟨by simp, by simp⟩, rfl⟩
  | _ => cases hLogical

theorem Operator.isWord (operator : Operator) : operator.piece.IsWord := by
  cases operator <;> trivial

/-- The operator in the middle ends the left operand, and what follows ends the right one. -/
theorem readBack_compare {operator : Operator} {left right : Expr}
    (hCompares : operator.isLogical = false)
    (hLeft : ReadBack (.operand · left ·) EndsOperand left.pieces)
    (hRight : ReadBack (.operand · right ·) EndsOperand right.pieces) :
    ReadBack (.comparison · (.binary operator left right) ·) EndsComparison
      (Expr.binary operator left right).pieces := by
  intro more lexemes hMore hSpelled
  rw [Expr.pieces, List.append_assoc, List.append_assoc] at hSpelled
  obtain ⟨middle, hLeftDerives, hMiddle⟩ := hLeft _ _ (operator.startsWith _) hSpelled
  obtain ⟨lexeme, second, rfl, hDenotes, hSecond⟩ := hMiddle.uncons operator.isWord
  obtain ⟨rest, hRightDerives, hRest⟩ :=
    hRight _ _ (hMore.imp fun _ hEnds => hEnds.toEndsOperand) hSecond
  have hOperator : nextOperator? comparison? (lexeme :: second) = some (operator, second) := by
    simp [nextOperator?, Operator.comparison?_eq hCompares hDenotes]
  exact ⟨rest, .compare hLeftDerives hOperator hRightDerives, hRest⟩

/-- The chain on the left is read first, and the operator behind it makes it go on with the
comparison on the right. This is why logical operators nest to the left without parentheses. -/
theorem chainReadBack_link {operator : Operator} {left right : Expr}
    (hLogical : operator.isLogical = true) (hLeft : ChainReadBack left)
    (hRight : ReadBack (.comparison · right ·) EndsComparison right.pieces) :
    ChainReadBack (.binary operator left right) := by
  intro more lexemes hMore hSpelled
  rw [Expr.pieces, List.append_assoc, List.append_assoc] at hSpelled
  obtain ⟨first, middle, behind, hFirst, hBehind, hTotal⟩ :=
    hLeft _ _ (Operator.startsWith_logical hLogical _) hSpelled
  obtain ⟨lexeme, second, rfl, hDenotes, hSecond⟩ := hBehind.uncons operator.isWord
  obtain ⟨rest, hRightDerives, hRest⟩ := hRight _ _ hMore hSecond
  have hOperator : nextOperator? logicalOperator? (lexeme :: second) = some (operator, second) := by
    simp [nextOperator?, Operator.logicalOperator?_eq hLogical hDenotes]
  exact ⟨first, middle, rest, hFirst, hRest,
    fun total after hChain => hTotal total after (.chainStep hOperator hRightDerives hChain)⟩

end Expressions

section Calls

theorem eat?_of_denotes {sign : Mark} {lexeme : Lexeme} {rest : List Lexeme}
    (hDenotes : (Piece.mark sign).Denotes lexeme.token) :
    eat? (.mark sign) (lexeme :: rest) = some rest :=
  if_pos hDenotes

/-- Items with commas between them are read back if each of them is. -/
theorem exists_separated {α : Type} {item : List Lexeme → α → List Lexeme → Prop}
    {itemPieces : α → List Piece} {values : List α} (hSome : values ≠ [])
    (hItems : ∀ value ∈ values, ∀ more lexemes, StartsWith EndsExpression more →
      Spelled (itemPieces value ++ more) lexemes →
      ∃ rest, item lexemes value rest ∧ Spelled more rest)
    {more : List Piece} {lexemes : List Lexeme} (hMore : StartsWith EndsList more)
    (hSpelled : Spelled (commaed (values.map itemPieces) ++ more) lexemes) :
    ∃ rest, Separated item lexemes values rest ∧ Spelled more rest := by
  induction values generalizing lexemes with
  | nil => exact absurd rfl hSome
  | cons first values ih =>
      obtain ⟨hFirst, hOthers⟩ := List.forall_mem_cons.mp hItems
      cases values with
      | nil =>
          rw [List.map_singleton, commaed_singleton] at hSpelled
          obtain ⟨rest, hItem, hRest⟩ :=
            hFirst _ _ (hMore.imp fun _ hEnds => hEnds.toEndsExpression) hSpelled
          have hEnd := (hMore.imp fun _ hEnds => hEnds.noComma).eat?_eq_none hRest
          exact ⟨rest, .last hItem hEnd, hRest⟩
      | cons second values =>
          rw [List.map_cons, List.map_cons, commaed_cons_cons, List.append_assoc] at hSpelled
          obtain ⟨middle, hItem, hMiddle⟩ :=
            hFirst _ _ (.mark ⟨⟨⟨by simp, by simp⟩, rfl⟩, rfl⟩) hSpelled
          obtain ⟨comma, behind, rfl, hComma, hBehind⟩ := hMiddle.uncons trivial
          obtain ⟨rest, hSeparated, hRest⟩ := ih (List.cons_ne_nil _ _) hOthers hBehind
          exact ⟨rest, .next hItem (eat?_of_denotes hComma) hSeparated, hRest⟩

/-- The rules for arguments say what a list with commas is, where the items are expressions. -/
theorem derives_arguments {lexemes rest : List Lexeme} {values : List Expr}
    (items : Separated (fun lexemes value rest => Derives (.expression lexemes value rest))
      lexemes values rest) : Derives (.arguments lexemes values rest) := by
  induction items with
  | last hValue hEnd => exact .lastArgument hValue hEnd
  | next hValue hComma _ ih => exact .nextArgument hValue hComma ih

/-- The comma or the closing parenthesis ends each argument. -/
theorem readBack_arguments {arguments : List Expr} (hSome : arguments ≠ [])
    (hArguments : ∀ argument ∈ arguments,
      ReadBack (.expression · argument ·) EndsExpression argument.pieces) :
    ReadBack (.arguments · arguments ·) EndsList (commaed (argumentsPieces arguments)) := by
  intro more lexemes hMore hSpelled
  rw [argumentsPieces_eq_map] at hSpelled
  obtain ⟨rest, hSeparated, hRest⟩ := exists_separated hSome hArguments hMore hSpelled
  exact ⟨rest, derives_arguments hSeparated, hRest⟩

/-- No operand starts with a closing parenthesis. -/
theorem Grammar.Derives.operand_ne_close {lexemes rest : List Lexeme} {value : Expr}
    (derivation : Derives (.operand lexemes value rest)) :
    eat? (.mark .closeParen) lexemes = none := by
  cases derivation with
  | literal hLiteral =>
      apply if_neg
      intro hClose
      rw [hClose] at hLiteral
      cases hLiteral
  | parameter hToken | name hToken _ => exact if_neg (by simp [hToken])
  | emptyCall hName _ _ | call hName _ _ _ =>
      apply if_neg
      intro hClose
      rw [hClose] at hName
      cases hName
  | group hOpen _ => exact if_neg (by simp [hOpen])

/-- A list of arguments that is not empty starts with no closing parenthesis, so that it is not
taken for the empty one. -/
theorem Grammar.Derives.arguments_ne_close {lexemes rest : List Lexeme} {values : List Expr}
    (derivation : Derives (.arguments lexemes values rest)) :
    eat? (.mark .closeParen) lexemes = none := by
  have hExpression : ∀ {lexemes rest value}, Derives (.expression lexemes value rest) →
      eat? (.mark .closeParen) lexemes = none := by
    intro lexemes rest value hDerives
    cases hDerives with
    | expression hFirst _ =>
        cases hFirst with
        | single hOperand _ => exact hOperand.operand_ne_close
        | compare hLeft _ _ => exact hLeft.operand_ne_close
  cases derivation with
  | lastArgument hValue _ => exact hExpression hValue
  | nextArgument hValue _ _ => exact hExpression hValue

/-- A name in capitals is the callee again, be it scanned as a name or as a keyword. -/
theorem Piece.Denotes.callee? {name : String} {token : Token}
    (hDenotes : (Piece.function name).Denotes token) : Grammar.callee? token = some name := by
  rcases hDenotes with ⟨rfl, hCapitals, -⟩ | ⟨word, rfl, rfl⟩
  · exact congrArg some hCapitals
  · rfl

/-- Without arguments the closing parenthesis follows the opening one at once. With arguments they
are a list between the two. -/
theorem readBack_call {name : String} {arguments : List Expr}
    (hArguments : ∀ argument ∈ arguments,
      ReadBack (.expression · argument ·) EndsExpression argument.pieces) :
    ReadBack (.operand · (.call name arguments) ·) EndsOperand
      (Expr.call name arguments).pieces := by
  intro more lexemes _ hSpelled
  rw [Expr.pieces, List.append_assoc, List.append_assoc] at hSpelled
  obtain ⟨named, behind, rfl, hName, hBehind⟩ := hSpelled.uncons trivial
  obtain ⟨first, inside, rfl, hOpen, hInside⟩ := hBehind.uncons trivial
  by_cases hNone : arguments = []
  · subst hNone
    obtain ⟨last, rest, rfl, hClose, hRest⟩ := Spelled.uncons hInside trivial
    exact ⟨rest, .emptyCall hName.callee? (eat?_of_denotes hOpen) (eat?_of_denotes hClose), hRest⟩
  · obtain ⟨after, hDerives, hAfter⟩ := readBack_arguments hNone hArguments _ _
      (.mark ⟨⟨⟨⟨by simp, by simp⟩, rfl⟩, rfl⟩, by simp⟩) hInside
    obtain ⟨last, rest, rfl, hClose, hRest⟩ := Spelled.uncons hAfter trivial
    have hCall := Derives.call hName.callee? (eat?_of_denotes hOpen) hDerives.arguments_ne_close
      hDerives
    rw [eatOptional, eat?_of_denotes hClose] at hCall
    exact ⟨rest, hCall, hRest⟩

end Calls

section Statements

/-- A sort key is read back with its direction, whatever is written behind it. -/
theorem exists_key {key : Expr} {order : Direction} {more : List Piece} {lexemes : List Lexeme}
    (hKey : ReadBack (.expression · key ·) EndsExpression key.pieces)
    (hSpelled : Spelled ((Criterion.mk key order).pieces ++ more) lexemes) :
    ∃ middle rest, Derives (.expression lexemes key middle) ∧ direction middle = (order, rest) ∧
      Spelled more rest := by
  have hStarts : StartsWith EndsExpression (order.piece :: more) := by
    cases order <;> exact .keyword ⟨⟨⟨by simp, by simp⟩, rfl⟩, rfl⟩
  rw [Criterion.pieces, List.append_assoc] at hSpelled
  obtain ⟨middle, hDerives, hMiddle⟩ := hKey _ _ hStarts hSpelled
  have hWord : order.piece.IsWord := by cases order <;> trivial
  obtain ⟨lexeme, rest, rfl, hDenotes, hRest⟩ := hMiddle.uncons hWord
  refine ⟨_, rest, hDerives, ?_, hRest⟩
  cases order with
  | asc | desc =>
      have hToken : lexeme.token = _ := hDenotes
      simp [direction, eatOptional, eat?, hToken]

/-- A sort key with its direction stands at the start of lexemes. -/
def IsKeyOf (lexemes : List Lexeme) (key : Criterion) (rest : List Lexeme) : Prop :=
  ∃ value order middle, key = .mk value order ∧ Derives (.expression lexemes value middle) ∧
    direction middle = (order, rest)

/-- The rules for sort keys say what a list with commas is, where the items are expressions with a
direction. -/
theorem derives_criteria {lexemes rest : List Lexeme} {values : List Criterion}
    (items : Separated IsKeyOf lexemes values rest) :
    Derives (.criteria lexemes values rest) := by
  induction items with
  | last hItem hEnd =>
      obtain ⟨value, order, middle, rfl, hValue, hOrder⟩ := hItem
      exact .lastCriterion hValue hOrder hEnd
  | next hItem hComma _ ih =>
      obtain ⟨value, order, middle, rfl, hValue, hOrder⟩ := hItem
      exact .nextCriterion hValue hOrder hComma ih

/-- Each key is written with its direction, which ends the expression in front of it. -/
theorem readBack_criteria {criteria : List Criterion} (hSome : criteria ≠ [])
    (hKeys : ∀ key order, .mk key order ∈ criteria →
      ReadBack (.expression · key ·) EndsExpression key.pieces) :
    ReadBack (.criteria · criteria ·) EndsList (commaed (criteriaPieces criteria)) := by
  intro more lexemes hMore hSpelled
  rw [criteriaPieces_eq_map] at hSpelled
  have hItems : ∀ criterion ∈ criteria, ∀ more lexemes, StartsWith EndsExpression more →
      Spelled (criterion.pieces ++ more) lexemes →
      ∃ rest, IsKeyOf lexemes criterion rest ∧ Spelled more rest := by
    -- The direction is always written, so that it does not matter what follows a key.
    rintro ⟨key, order⟩ hMember more lexemes - hSpelled
    obtain ⟨middle, rest, hDerives, hOrder, hRest⟩ := exists_key (hKeys key order hMember) hSpelled
    exact ⟨rest, ⟨key, order, middle, rfl, hDerives, hOrder⟩, hRest⟩
  obtain ⟨rest, hSeparated, hRest⟩ := exists_separated hSome hItems hMore hSpelled
  exact ⟨rest, derives_criteria hSeparated, hRest⟩

/-- A statement is read back where its scope asks for such a statement. -/
def Statement.ReadsBack (statement : Statement) : Prop :=
  ∀ omits, Conforms omits statement →
    ReadBack (.clause omits · (some statement) ·) (opensStatement · = true) statement.pieces

/-- The name and the collection of a loop are one lexeme each, and so is the word between them. -/
theorem readsBack_forIn (name collection : String) :
    (Statement.forIn name collection).ReadsBack := by
  intro omits _ more lexemes _ hSpelled
  obtain ⟨first, lexemes, rfl, hFor, hSpelled⟩ := hSpelled.uncons trivial
  obtain ⟨named, lexemes, rfl, hName, hSpelled⟩ := hSpelled.uncons trivial
  obtain ⟨inside, lexemes, rfl, hIn, hSpelled⟩ := hSpelled.uncons trivial
  obtain ⟨source, rest, rfl, hCollection, hRest⟩ := hSpelled.uncons trivial
  have hToken : inside.token = .keyword .isIn := hIn
  have hSource : eatOptional (.keyword .isIn) (inside :: source :: rest) = source :: rest := by
    simp [eatOptional, eat?, hToken]
  exact ⟨rest, .forIn hFor hName hSource hCollection, hRest⟩

theorem readsBack_filter {condition : Expr}
    (hCondition : ReadBack (.expression · condition ·) EndsExpression condition.pieces) :
    (Statement.filter condition).ReadsBack := by
  intro omits hConforms more lexemes hMore hSpelled
  cases omits with
  | true => exact absurd trivial hConforms
  | false =>
      obtain ⟨lexeme, lexemes, rfl, hFilter, hSpelled⟩ := hSpelled.uncons trivial
      obtain ⟨rest, hDerives, hRest⟩ := hCondition _ _
        (hMore.imp fun _ hOpens => (endsList_of_opensStatement hOpens).toEndsExpression) hSpelled
      exact ⟨rest, .filter hFilter hDerives, hRest⟩

theorem readsBack_sort {criteria : List Criterion}
    (hCriteria : ReadBack (.criteria · criteria ·) EndsList (commaed (criteriaPieces criteria))) :
    (Statement.sort criteria).ReadsBack := by
  intro omits hConforms more lexemes hMore hSpelled
  cases omits with
  | true => exact absurd trivial hConforms
  | false =>
      obtain ⟨lexeme, lexemes, rfl, hSort, hSpelled⟩ := hSpelled.uncons trivial
      obtain ⟨rest, hDerives, hRest⟩ := hCriteria _ _
        (hMore.imp fun _ hOpens => endsList_of_opensStatement hOpens) hSpelled
      exact ⟨rest, .sort hSort hDerives, hRest⟩

/-- A statement that is written as its keyword alone is read back where bodies are omitted. -/
theorem readsBack_omitted {statement : Statement} {word : Keyword} (hOmitted : statement.IsOmitted)
    (hPieces : statement.pieces = [.keyword word])
    (hRule : ∀ lexeme lexemes, lexeme.token = .keyword word →
      Derives (.clause true (lexeme :: lexemes) (some statement) (afterClause 0 lexemes))) :
    statement.ReadsBack := by
  intro omits hConforms more lexemes hMore hSpelled
  cases omits with
  | false => exact absurd hOmitted hConforms
  | true =>
      rw [hPieces] at hSpelled
      obtain ⟨lexeme, rest, rfl, hKeyword, hRest⟩ := hSpelled.uncons trivial
      have hDerives := hRule lexeme rest hKeyword
      rw [hMore.afterClause_eq hRest] at hDerives
      exact ⟨rest, hDerives, hRest⟩

/-- A count that was written as a number is a number by itself again, with zero for the offset that
is not written. -/
theorem readsBack_limitCount {count : Bound} {value : Expr} (hCount : count = .ofExpr value)
    (hPieces : count.pieces = value.pieces)
    (hValue : ReadBack (.operand · value ·) EndsOperand value.pieces) :
    (Statement.limit (.number .zero) count).ReadsBack := by
  intro omits _ more lexemes hMore hSpelled
  have hEnds := hMore.imp fun _ hOpens => endsList_of_opensStatement hOpens
  obtain ⟨lexeme, lexemes, rfl, hLimit, hSpelled⟩ := hSpelled.uncons trivial
  rw [hPieces] at hSpelled
  obtain ⟨rest, hDerives, hRest⟩ :=
    hValue _ _ (hEnds.imp fun _ hEnds => hEnds.toEndsOperand) hSpelled
  have hEnd := (hEnds.imp fun _ hEnds => hEnds.noComma).eat?_eq_none hRest
  exact ⟨rest, hCount ▸ .limitCount hLimit hDerives hEnd, hRest⟩

/-- The comma ends the offset. Without a comma the offset would be read as the count. -/
theorem readsBack_limitBoth {offset count : Expr}
    (hOffset : ReadBack (.operand · offset ·) EndsOperand offset.pieces)
    (hCount : ReadBack (.operand · count ·) EndsOperand count.pieces) :
    (Statement.limit (.expression offset) (.expression count)).ReadsBack := by
  intro omits _ more lexemes hMore hSpelled
  rw [Statement.pieces, List.append_assoc, List.append_assoc, List.append_assoc] at hSpelled
  obtain ⟨lexeme, lexemes, rfl, hLimit, hSpelled⟩ := hSpelled.uncons trivial
  obtain ⟨middle, hOffsetDerives, hMiddle⟩ := hOffset _ _ (.mark ⟨by simp, by simp⟩) hSpelled
  obtain ⟨comma, second, rfl, hComma, hSecond⟩ := hMiddle.uncons trivial
  obtain ⟨rest, hCountDerives, hRest⟩ := hCount _ _
    (hMore.imp fun _ hOpens => (endsList_of_opensStatement hOpens).toEndsOperand) hSecond
  exact ⟨rest, .limitBoth hLimit hOffsetDerives (eat?_of_denotes hComma) hCountDerives, hRest⟩

theorem readsBack_letBe {name : String} {value : Expr}
    (hValue : ReadBack (.expression · value ·) EndsExpression value.pieces) :
    (Statement.letBe name value).ReadsBack := by
  intro omits _ more lexemes hMore hSpelled
  obtain ⟨first, lexemes, rfl, hLet, hSpelled⟩ := hSpelled.uncons trivial
  obtain ⟨named, lexemes, rfl, hName, hSpelled⟩ := hSpelled.uncons trivial
  obtain ⟨assign, lexemes, rfl, hAssign, hSpelled⟩ := hSpelled.uncons trivial
  obtain ⟨rest, hDerives, hRest⟩ := hValue _ _
    (hMore.imp fun _ hOpens => (endsList_of_opensStatement hOpens).toEndsExpression) hSpelled
  refine ⟨rest, .letBe hLet hName ?_, hRest⟩
  rwa [eatOptional, eat?_of_denotes hAssign]

/-- Every statement starts with the keyword of its kind, also a limit without an offset. -/
theorem Statement.startsWith (statement : Statement) (pieces : List Piece) :
    StartsWith (opensStatement · = true) (statement.pieces ++ pieces) := by
  cases statement with
  | limit offset count => cases offset <;> exact .keyword rfl
  | _ => exact .keyword rfl

/-- Statements that are read back one by one are read back as a body, since each of them starts with
a token that ends the one in front of it. -/
theorem derives_body {omits : Bool} {body : List Statement}
    (hBody : ∀ statement ∈ body, statement.ReadsBack)
    (hConforms : ∀ statement ∈ body, Conforms omits statement) {lexemes : List Lexeme}
    (hSpelled : Spelled (bodyPieces body) lexemes) : Derives (.body omits lexemes body) := by
  induction body generalizing lexemes with
  | nil =>
      cases hSpelled
      exact .bodyEnd
  | cons statement body ih =>
      obtain ⟨hStatement, hOthers⟩ := List.forall_mem_cons.mp hBody
      obtain ⟨hFirst, hConformOthers⟩ := List.forall_mem_cons.mp hConforms
      have hStart : StartsWith (opensStatement · = true) (bodyPieces body) := by
        cases body with
        | nil => exact .nil
        | cons second body => exact second.startsWith _
      obtain ⟨rest, hDerives, hRest⟩ := hStatement omits hFirst _ _ hStart hSpelled
      exact .bodyStep hDerives (ih hOthers hConformOthers hRest)

end Statements

end QueryOutline
