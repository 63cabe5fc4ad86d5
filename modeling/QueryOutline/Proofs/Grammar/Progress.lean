import QueryOutline.Proofs.Grammar.Rules

/-! Every rule of the grammar reads from the front: what is left is the end of the lexemes, and all
but an empty chain of operators takes at least one lexeme. -/

namespace QueryOutline.Reading

theorem nextOperator?_eq_some {operator? : Token → Option Operator} {lexemes rest : List Lexeme}
    {operator : Operator} (hNext : nextOperator? operator? lexemes = some (operator, rest)) :
    ∃ lexeme, lexemes = lexeme :: rest ∧ operator? lexeme.token = some operator := by
  cases lexemes with
  | nil => simp [nextOperator?] at hNext
  | cons lexeme lexemes =>
      simp only [nextOperator?, Option.map_eq_some_iff, Prod.mk.injEq] at hNext
      obtain ⟨found, hFound, rfl, rfl⟩ := hNext
      exact ⟨lexeme, rfl, hFound⟩

/-- Properties are read two lexemes at a time, so that what is left is an end of the lexemes. -/
theorem members_suffix (object : Expr) (lexemes : List Lexeme) :
    (members object lexemes).2 <:+ lexemes := by
  fun_induction members object lexemes with
  | case1 object _ _ property _ _ rest ih =>
      exact ih.trans ((List.suffix_cons _ _).trans (List.suffix_cons _ _))
  | case2 => exact List.suffix_refl _

theorem members_property {dot named : Lexeme} {name : String} (hDot : dot.token = .mark .dot)
    (hName : named.token = .identifier name) (object : Expr) (rest : List Lexeme) :
    members object (dot :: named :: rest) = members (.member object name) rest := by
  obtain ⟨_, _, _⟩ := dot
  obtain ⟨_, _, _⟩ := named
  obtain rfl := hDot
  obtain rfl := hName
  rw [members]

/-- Where no dot with a name behind it follows, no property is read. -/
theorem members_eq_self {lexemes : List Lexeme}
    (hNone : ∀ dot named rest name, lexemes = dot :: named :: rest → dot.token = .mark .dot →
      named.token ≠ .identifier name) (object : Expr) :
    members object lexemes = (object, lexemes) := by
  unfold members
  split
  · exact absurd rfl (hNone _ _ _ _ rfl rfl)
  · rfl

theorem direction_suffix (lexemes : List Lexeme) : (direction lexemes).2 <:+ lexemes := by
  unfold direction
  split
  · rename_i rest hEaten
    obtain ⟨lexeme, rfl, -⟩ := eat?_eq_some hEaten
    exact List.suffix_cons _ _
  · exact eatOptional_suffix _ _

/-- The direction may take no lexeme at all, if it is not given. -/
theorem suffix_of_direction_eq {lexemes rest : List Lexeme} {order : Direction}
    (hOrder : direction lexemes = (order, rest)) : rest <:+ lexemes := by
  have hSuffix := direction_suffix lexemes
  rwa [hOrder] at hSuffix

theorem splitGroup_cons_plain {lexeme : Lexeme} (hOpen : lexeme.token ≠ .mark .openParen)
    (hClose : lexeme.token ≠ .mark .closeParen) (nesting : Nat) (rest : List Lexeme) :
    splitGroup nesting (lexeme :: rest) = (splitGroup nesting rest).push lexeme := by
  rw [splitGroup.eq_def]
  split <;> simp_all

theorem splitGroup_cons_open {lexeme : Lexeme} (hOpen : lexeme.token = .mark .openParen)
    (nesting : Nat) (rest : List Lexeme) :
    splitGroup nesting (lexeme :: rest) = (splitGroup (nesting + 1) rest).push lexeme := by
  simp only [splitGroup, hOpen]

/-- A closing parenthesis belongs to the content as long as another one is open around it. -/
theorem splitGroup_cons_close {lexeme : Lexeme} (hClose : lexeme.token = .mark .closeParen)
    (nesting : Nat) (rest : List Lexeme) :
    splitGroup (nesting + 1) (lexeme :: rest) = (splitGroup nesting rest).push lexeme := by
  simp only [splitGroup, hClose]

/-- The content of a group is the start of the lexemes behind its opening parenthesis. -/
theorem splitGroup_prefix_content (nesting : Nat) (lexemes : List Lexeme) :
    (splitGroup nesting lexemes).content <+: lexemes := by
  have hAll := splitGroup_append nesting lexemes
  rw [List.append_assoc] at hAll
  exact ⟨_, hAll⟩

/-- The content and the closing parenthesis stand in front of what is left. -/
theorem splitGroup_rest_suffix (nesting : Nat) (lexemes : List Lexeme) :
    (splitGroup nesting lexemes).rest <:+ lexemes :=
  ⟨_, splitGroup_append nesting lexemes⟩

/-- A group that is not closed goes on up to the end, and else it ends at a closing parenthesis. -/
theorem splitGroup_closing (nesting : Nat) (lexemes : List Lexeme) :
    ((splitGroup nesting lexemes).closing = none → (splitGroup nesting lexemes).rest = []) ∧
      ∀ closing ∈ (splitGroup nesting lexemes).closing, closing.token = .mark .closeParen := by
  fun_induction splitGroup nesting lexemes with
  | case1 => simp
  | case3 lexeme rest hToken => simpa using hToken
  | case2 _ _ _ _ ih | case4 _ _ _ _ ih | case5 _ _ _ _ _ ih => exact ih

end QueryOutline.Reading

namespace QueryOutline.Grammar

open Reading

/-- The lexemes behind a value are the end of those it was read from, and fewer. -/
def Judgement.Advances : Judgement → Prop
  | .operand lexemes _ rest | .comparison lexemes _ rest | .expression lexemes _ rest
  | .arguments lexemes _ rest | .criteria lexemes _ rest | .clause _ lexemes _ rest =>
      rest <:+ lexemes ∧ rest.length < lexemes.length
  | .chain _ lexemes _ rest => rest <:+ lexemes
  | .body _ _ _ => True

/-- What is left behind the tail of lexemes is left behind all of them, with one fewer. -/
theorem advance_cons {lexeme : Lexeme} {lexemes rest : List Lexeme} (hRest : rest <:+ lexemes) :
    rest <:+ lexeme :: lexemes ∧ rest.length < (lexeme :: lexemes).length :=
  ⟨hRest.trans (List.suffix_cons _ _), Nat.lt_succ_of_le hRest.length_le⟩

/-- Once a lexeme has been taken, what follows may take none. -/
theorem advance_trans {lexemes middle rest : List Lexeme}
    (hFirst : middle <:+ lexemes ∧ middle.length < lexemes.length) (hSecond : rest <:+ middle) :
    rest <:+ lexemes ∧ rest.length < lexemes.length :=
  ⟨hSecond.trans hFirst.1, Nat.lt_of_le_of_lt hSecond.length_le hFirst.2⟩

theorem eat?_suffix {token : Token} {lexemes rest : List Lexeme}
    (hEaten : eat? token lexemes = some rest) : rest <:+ lexemes := by
  obtain ⟨lexeme, rfl, -⟩ := eat?_eq_some hEaten
  exact List.suffix_cons _ _

theorem nextOperator?_suffix {operator? : Token → Option Operator} {lexemes rest : List Lexeme}
    {operator : Operator} (hNext : nextOperator? operator? lexemes = some (operator, rest)) :
    rest <:+ lexemes := by
  obtain ⟨lexeme, rfl, -⟩ := nextOperator?_eq_some hNext
  exact List.suffix_cons _ _

/-- Every rule advances. -/
theorem Derives.advances {judgement : Judgement} (derivation : Derives judgement) :
    judgement.Advances := by
  induction derivation with
  | literal _ => exact advance_cons (List.suffix_refl _)
  | parameter _ => exact advance_cons (members_suffix _ _)
  | name _ _ => exact advance_cons (members_suffix _ _)
  | emptyCall _ hOpen hClose => exact advance_cons ((eat?_suffix hClose).trans (eat?_suffix hOpen))
  | call _ hOpen _ _ ih =>
      exact advance_cons ((eatOptional_suffix _ _).trans (ih.1.trans (eat?_suffix hOpen)))
  | group _ _ => exact advance_cons (splitGroup_rest_suffix _ _)
  | single _ _ ih => exact ih
  | compare _ hOperator _ ihLeft ihRight =>
      exact advance_trans ihLeft (ihRight.1.trans (nextOperator?_suffix hOperator))
  | chainEnd _ => exact List.suffix_refl _
  | chainStep hOperator _ _ ihRight ihChain =>
      exact List.IsSuffix.trans ihChain (ihRight.1.trans (nextOperator?_suffix hOperator))
  | expression _ _ ihFirst ihChain => exact advance_trans ihFirst ihChain
  | lastArgument _ _ ih => exact ih
  | nextArgument _ hComma _ ihValue ihMore =>
      exact advance_trans ihValue (ihMore.1.trans (eat?_suffix hComma))
  | lastCriterion _ hOrder _ ih => exact advance_trans ih (suffix_of_direction_eq hOrder)
  | nextCriterion _ hOrder hComma _ ihValue ihMore =>
      have hOrdered := suffix_of_direction_eq hOrder
      exact advance_trans ihValue (ihMore.1.trans ((eat?_suffix hComma).trans hOrdered))
  | @forIn _ _ _ _ _ _ middle _ _ _ hSource _ =>
      have hSuffix := eatOptional_suffix (.keyword .isIn) middle
      rw [hSource] at hSuffix
      exact advance_cons ((List.suffix_cons _ _).trans (hSuffix.trans (List.suffix_cons _ _)))
  | filter _ _ ih => exact advance_cons ih.1
  | omittedFilter _ => exact advance_cons (afterClause_suffix _ _)
  | sort _ _ ih => exact advance_cons ih.1
  | omittedSort _ => exact advance_cons (afterClause_suffix _ _)
  | limitCount _ _ _ ih => exact advance_cons ih.1
  | limitBoth _ _ hComma _ ihOffset ihCount =>
      exact advance_cons (ihCount.1.trans ((eat?_suffix hComma).trans ihOffset.1))
  | letBe _ _ _ ih =>
      exact advance_cons (ih.1.trans ((eatOptional_suffix _ _).trans (List.suffix_cons _ _)))
  | skipped _ => exact advance_cons (afterClause_suffix _ _)
  | bodyEnd => trivial
  | bodyStep _ _ _ _ => trivial

/-- An expression takes at least one lexeme. -/
theorem Derives.expression_length_lt {lexemes rest : List Lexeme} {value : Expr}
    (derivation : Derives (.expression lexemes value rest)) : rest.length < lexemes.length :=
  derivation.advances.2

/-- A clause has a lexeme to start with. -/
theorem Derives.clause_cons {omits : Bool} {lexemes rest : List Lexeme} {value : Option Statement}
    (derivation : Derives (.clause omits lexemes value rest)) :
    ∃ lexeme more, lexemes = lexeme :: more :=
  List.exists_cons_of_length_pos (Nat.lt_of_le_of_lt (Nat.zero_le _) derivation.advances.2)

end QueryOutline.Grammar
