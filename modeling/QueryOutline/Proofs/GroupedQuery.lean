import QueryOutline.Proofs.Grammar.Elision
import QueryOutline.Proofs.Grammar.Pairing
import QueryOutline.Proofs.Grammar.Relocation

/-! A group is a query of its own. What is read from a text in parentheses is what is read from the
text alone, as part of a query that binds variables and with two levels of nesting less: one is
taken by the expression that the group is, and one by the group. -/

namespace QueryOutline

open Text

namespace Grammar

open Reading

/-- Lexemes with their parentheses in pairs are the content of the group that is closed behind
them. -/
theorem PairedWithin.splitGroup_append {nesting : Nat} {content : List Lexeme}
    (hPaired : PairedWithin nesting content) {closing : Lexeme}
    (hClosing : closing.token = .mark .closeParen) (rest : List Lexeme) :
    splitGroup nesting (content ++ closing :: rest) = ⟨content, some closing, rest⟩ := by
  induction content generalizing nesting with
  | nil =>
      obtain rfl := hPaired.eq_zero
      simp only [List.nil_append, splitGroup, hClosing]
  | cons lexeme content ih =>
      rw [List.cons_append]
      by_cases hOpen : lexeme.token = .mark .openParen
      · rw [splitGroup_cons_open hOpen, ih (hPaired.openParen hOpen)]
        rfl
      by_cases hClose : lexeme.token = .mark .closeParen
      · obtain ⟨outer, rfl, hOuter⟩ := hPaired.closeParen hClose
        rw [splitGroup_cons_close hClose, ih hOuter]
        rfl
      · rw [splitGroup_cons_plain hOpen hClose, ih (hPaired.plain hOpen hClose)]
        rfl

section Binding

variable {budget : Nat} {scope : Scope} {content : List Lexeme} {closing : Lexeme}

/-- An operand with nothing behind it is the whole expression. -/
theorem logical_result_end {operand : Reader Expr} {lexemes : List Lexeme}
    {result : Except Fault Expr}
    (hOperand : (operand lexemes).result = result.map fun value => (value, [])) :
    (logical operand lexemes).result = result.map fun value => (value, []) := by
  unfold logical comparison
  rw [Outcome.result_bind, Outcome.result_bind, hOperand]
  cases result <;> rfl

/-- The statements in a group are read with one level of nesting less. -/
theorem groupBody_result (budget : Nat) (scope : Scope) (lexemes : List Lexeme) :
    (groupBody (budget + 1) scope lexemes).result = (scopeBody budget scope lexemes).result := by
  unfold groupBody
  rw [Outcome.result_bind]
  rfl

/-- A group with nothing behind it is read as what its content gives, which has no bodies to be
taken away. -/
theorem expression_group {opening : Lexeme} (hOpening : opening.token = .mark .openParen)
    {lexemes : List Lexeme} (hSplit : splitGroup 0 lexemes = ⟨content, some closing, []⟩) :
    (Reading.expression (budget + 2) scope (opening :: lexemes)).result =
      ((scopeBody budget (scope.ofGroup ⟨content, some closing, []⟩) content).result.map
        Expr.subquery).map fun value => (value, []) := by
  rw [Reading.expression]
  apply logical_result_end
  simp only [primary, hOpening, subquery_result, hSplit, Outcome.result_bind, groupBody_result,
    Outcome.result_pure]
  cases hBody : (scopeBody budget (scope.ofGroup ⟨content, some closing, []⟩) content).result with
  | error fault => rfl
  | ok body =>
      have hElided := (scopeBody_ok_iff.mp hBody).1.map_elided_group
      simp only [Except.bind, hElided]
      rfl

/-- A binding whose value goes up to the end is the whole body. -/
theorem scopeBody_let {binding named assigned : Lexeme} {name : String} {lexemes : List Lexeme}
    {result : Except Fault Expr} (hBinding : binding.token = .keyword .letBe)
    (hNamed : named.token = .identifier name) (hAssigned : assigned.token = .mark .assign)
    (hValue : (Reading.expression budget scope lexemes).result =
      result.map fun value => (value, [])) :
    (scopeBody budget scope (binding :: named :: assigned :: lexemes)).result =
      result.map fun value => [.letBe name value] := by
  obtain ⟨_, start, stop⟩ := named
  obtain rfl := hNamed
  have hRest : eatOptional (.mark .assign) (assigned :: lexemes) = lexemes := by
    simp [eatOptional, eat?, hAssigned]
  simp only [scopeBody, statements, List.length_cons, clauses, clause, hBinding, known, letClause,
    variableName, pure_bind, hRest, Outcome.result_bind, hValue, Outcome.result_pure]
  cases result <;> rfl

/-- A binding of a group is read as the binding of what is read from its content. -/
theorem scopeBody_let_group {binding named assigned opening : Lexeme} {name : String}
    (hBinding : binding.token = .keyword .letBe) (hNamed : named.token = .identifier name)
    (hAssigned : assigned.token = .mark .assign) (hOpening : opening.token = .mark .openParen)
    (hClosing : closing.token = .mark .closeParen) (hPaired : Paired content) :
    (scopeBody (budget + 2) scope
      (binding :: named :: assigned :: opening :: (content ++ [closing]))).result =
      (scopeBody budget (scope.ofGroup ⟨content, some closing, []⟩) content).result.map
        fun body => [.letBe name (.subquery body)] := by
  have hSplit := hPaired.within.splitGroup_append hClosing []
  rw [scopeBody_let hBinding hNamed hAssigned (expression_group hOpening hSplit)]
  cases (scopeBody budget (scope.ofGroup ⟨content, some closing, []⟩) content).result <;> rfl

end Binding

end Grammar

namespace Scanner

/-- A word with a space behind it is stepped over together with the space. -/
theorem lexemes_word_space {word : List Char} {token : Token} (hSpells : Spells false word token)
    (hClosed : token.isOpenString = false) (hNoDot : (token == .mark .dot) = false)
    (more : List Char) (offset : Nat) :
    (Scanner.mk (word ++ ' ' :: more) offset false).lexemes =
      ⟨token, offset, offset + byteSize word⟩ ::
        (Scanner.mk more (offset + byteSize word + 1) false).lexemes := by
  have hSpace : StartsApart (' ' :: more) := startsApart_cons.mpr (by decide)
  rw [lexemes_word hSpells (.inr ⟨hSpace, hClosed⟩), hNoDot, lexemes_blank (by decide)]
  rfl

end Scanner

/-- A text with a parenthesis behind it has its own lexemes and the parenthesis. -/
theorem lexemes_closed_behind {content : String} (hClosed : QuotesClosed (lexemes content))
    (offset : Nat) :
    (Scanner.mk (content.toList ++ [')']) offset false).lexemes =
      (lexemes content).map (Lexeme.shift offset) ++
        [⟨.mark .closeParen, byteSize content.toList + offset,
          byteSize content.toList + offset + 1⟩] := by
  have hParen : StartsApart [')'] := startsApart_cons.mpr (by decide)
  have hMoved := hClosed.shift offset
  rw [← lexemes_at] at hMoved
  rw [Scanner.lexemes_append hParen _ _ _ hMoved, lexemes_at, Scanner.lexemes_closeParen,
    Nat.add_comm offset]
  rfl

/-- The lexemes of a binding of a group are those of the binding, of the text in the group and of
the parenthesis that closes it. -/
theorem lexemes_let_group {name content : String} (hName : IsName name.toList)
    (hClosed : QuotesClosed (lexemes content)) :
    ∃ binding named assigned opening closing : Lexeme,
      lexemes ("LET " ++ name ++ " = (" ++ content ++ ")") =
        binding :: named :: assigned :: opening ::
          ((lexemes content).map (Lexeme.shift (byteSize ("LET " ++ name ++ " = (").toList)) ++
            [closing]) ∧
      binding.token = .keyword .letBe ∧ named.token = .identifier name ∧
      assigned.token = .mark .assign ∧ opening.token = .mark .openParen ∧
      closing.token = .mark .closeParen ∧
      closing.start = byteSize content.toList + byteSize ("LET " ++ name ++ " = (").toList := by
  have hText : ("LET " ++ name ++ " = (" ++ content ++ ")").toList =
      Keyword.letBe.spelling.toList ++ ' ' :: (name.toList ++ ' ' :: (Mark.assign.spelling ++
        ' ' :: '(' :: (content.toList ++ [')']))) := by
    simp [Keyword.spelling, Mark.spelling]
  have hBytes : byteSize ("LET " ++ name ++ " = (").toList =
      0 + byteSize Keyword.letBe.spelling.toList + 1 + byteSize name.toList + 1 +
        byteSize Mark.assign.spelling + 1 + 1 := by
    have hBinding : byteSize "LET ".toList = byteSize Keyword.letBe.spelling.toList + 1 := rfl
    have hRest : byteSize " = (".toList = byteSize Mark.assign.spelling + 3 := rfl
    simp only [String.toList_append, byteSize_append, hBinding, hRest]
    omega
  rw [hBytes, lexemes, Scanner.ofText, hText,
    Scanner.lexemes_word_space (spells_keyword .letBe) rfl rfl,
    Scanner.lexemes_word_space hName.spells rfl (by simp),
    Scanner.lexemes_word_space (spells_mark false .assign) rfl rfl, Scanner.lexemes_openParen,
    lexemes_closed_behind hClosed]
  exact ⟨_, _, _, _, _, rfl, rfl, rfl, rfl, rfl, rfl, rfl⟩

theorem Grammar.markCount_shift (sign : Mark) (bytes : Nat) (lexemes : List Lexeme) :
    markCount sign (lexemes.map (Lexeme.shift bytes)) = markCount sign lexemes :=
  List.countP_map

/-- Where lexemes stand has nothing to do with their pairs. -/
theorem Grammar.Paired.shift {lexemes : List Lexeme} (hPaired : Paired lexemes) (bytes : Nat) :
    Paired (lexemes.map (Lexeme.shift bytes)) where
  fronts front hFront := by
    rw [List.prefix_iff_eq_take.mp hFront, ← List.map_take, markCount_shift, markCount_shift]
    exact hPaired.fronts _ (List.take_prefix _ _)
  total := by
    rw [markCount_shift, markCount_shift]
    exact hPaired.total

/-- The results of a bound group and of its content alone are those of two bodies that are read from
the same tokens. -/
theorem ofText_let_group_results (budget : Nat) (letContext : Bool) {name content : String}
    (hName : IsName name.toList) (hPaired : Grammar.Paired (lexemes content))
    (hClosed : QuotesClosed (lexemes content)) :
    ∃ alone grouped : Except Fault (List Statement),
      Query.ofText ⟨budget, true⟩ content = alone.map Query.mk ∧
      Query.ofText ⟨budget + 2, letContext⟩ ("LET " ++ name ++ " = (" ++ content ++ ")") =
        (grouped.map fun body => ⟨[.letBe name (.subquery body)]⟩) ∧
      (Relocation.shift (byteSize ("LET " ++ name ++ " = (").toList) budget (budget + 2)).Results Eq
        alone grouped := by
  obtain ⟨binding, named, assigned, opening, closing, hLexemes, hBinding, hNamed, hAssigned,
    hOpening, hClosing, hEnd⟩ := lexemes_let_group hName hClosed
  generalize byteSize ("LET " ++ name ++ " = (").toList = bytes at hLexemes hEnd ⊢
  generalize "LET " ++ name ++ " = (" ++ content ++ ")" = text at hLexemes ⊢
  let moved := (lexemes content).map (Lexeme.shift bytes)
  let outside := Options.scope ⟨budget + 2, letContext⟩ (byteSize text.toList) (lexemes text)
  let inside := outside.ofGroup ⟨moved, some closing, []⟩
  let alone := Options.scope ⟨budget, true⟩ (byteSize content.toList) (lexemes content)
  have hGroup : Query.ofText ⟨budget + 2, letContext⟩ text =
      (Reading.scopeBody budget inside moved).result.map
        fun body => ⟨[.letBe name (.subquery body)]⟩ := by
    rw [Grammar.ofText_eq_map]
    change (Reading.scopeBody (budget + 2) outside _).result.map _ = _
    rw [hLexemes, Grammar.scopeBody_let_group hBinding hNamed hAssigned hOpening hClosing
      (hPaired.shift bytes)]
    cases (Reading.scopeBody budget inside moved).result <;> rfl
  have hScopes : (Relocation.shift bytes budget (budget + 2)).Scopes alone inside :=
    ⟨rfl, rfl, rfl, hEnd⟩
  exact ⟨_, _, Grammar.ofText_eq_map _ _, hGroup, Relocation.Outcomes.scopeBody hScopes
    (Relocation.lexemes_shift _ _ _ (lexemes content)) budget⟩

/-- A group in parentheses means exactly what its content means as a text of its own, in a query
that binds variables: the group is read as a body exactly if the content is, and a fault of the
content is the fault of the whole, as many bytes further on as the content was moved. Only the limit
of nesting is lower by two for the content alone, and so is the limit that its fault names. -/
theorem ofText_let_group {maxDepth : Nat} (hDepth : 2 ≤ maxDepth) (letContext : Bool)
    {name content : String} (hName : IsName name.toList)
    (hPaired : Grammar.Paired (lexemes content)) (hClosed : QuotesClosed (lexemes content)) :
    (∀ body, Query.ofText ⟨maxDepth, letContext⟩ ("LET " ++ name ++ " = (" ++ content ++ ")") =
        .ok ⟨[.letBe name (.subquery body)]⟩ ↔
      Query.ofText ⟨maxDepth - 2, true⟩ content = .ok ⟨body⟩) ∧
    ∀ fault, Query.ofText ⟨maxDepth - 2, true⟩ content = .error fault →
      ((∀ limit, fault ≠ .nestingTooDeep limit) ∧
        Query.ofText ⟨maxDepth, letContext⟩ ("LET " ++ name ++ " = (" ++ content ++ ")") =
          .error (fault.shift (byteSize ("LET " ++ name ++ " = (").toList))) ∨
      (fault = .nestingTooDeep (maxDepth - 2) ∧
        Query.ofText ⟨maxDepth, letContext⟩ ("LET " ++ name ++ " = (" ++ content ++ ")") =
          .error (.nestingTooDeep maxDepth)) := by
  obtain ⟨budget, rfl⟩ : ∃ budget, maxDepth = budget + 2 := ⟨maxDepth - 2, by omega⟩
  obtain ⟨alone, grouped, hAlone, hGrouped, hResults⟩ :=
    ofText_let_group_results budget letContext hName hPaired hClosed
  rw [Nat.add_sub_cancel, hAlone, hGrouped]
  cases hResults with
  | ok hValues =>
      obtain rfl := hValues
      simp [Except.map]
  | error hFaults =>
      refine ⟨by simp [Except.map], ?_⟩
      rintro _ ⟨⟩
      rcases hFaults.shift_cases with ⟨hOther, rfl⟩ | ⟨rfl, rfl⟩
      · exact .inl ⟨hOther, rfl⟩
      · exact .inr ⟨rfl, rfl⟩

/-- A group in which a condition is omitted, and one that lacks a variable at its end. -/
theorem ofText_let_group_omitted :
    Query.ofText ⟨2, false⟩ ("LET " ++ "x1" ++ " = (" ++ "FOR d IN docs FILTER (d.a)" ++ ")") =
      .ok ⟨[.letBe "x1" (.subquery [.forIn "d" "docs", .omittedFilter])]⟩ ∧
    Query.ofText ⟨2, false⟩ ("LET " ++ "x1" ++ " = (" ++ "LIMIT (d) LET" ++ ")") =
      .error (.nestingTooDeep 2) ∧
    Query.ofText ⟨3, false⟩ ("LET " ++ "x1" ++ " = (" ++ "LIMIT (d) LET" ++ ")") =
      .error (.expectedVariable 23) := by
  have hName : IsName "x1".toList :=
    ⟨⟨List.all_eq_true.mp (by decide), .inl ⟨'x', ['1'], rfl, by decide⟩⟩, by decide⟩
  have hOmitted : Query.ofText ⟨0, true⟩ "FOR d IN docs FILTER (d.a)" =
      .ok ⟨[.forIn "d" "docs", .omittedFilter]⟩ := rfl
  have hNested : Query.ofText ⟨0, true⟩ "LIMIT (d) LET" = .error (.nestingTooDeep 0) := rfl
  have hLacking : Query.ofText ⟨1, true⟩ "LIMIT (d) LET" = .error (.expectedVariable 13) := rfl
  refine ⟨?_, ?_, ?_⟩
  · exact ((ofText_let_group (Nat.le_refl 2) false hName (by decide +kernel)
      (by decide +kernel)).1 _).mpr hOmitted
  · rcases (ofText_let_group (Nat.le_refl 2) false hName (by decide +kernel)
      (by decide +kernel)).2 _ hNested with ⟨hOther, -⟩ | ⟨-, hFault⟩
    · exact absurd rfl (hOther 0)
    · exact hFault
  · rcases (ofText_let_group (Nat.le_succ 2) false hName (by decide +kernel)
      (by decide +kernel)).2 _ hLacking with ⟨-, hFault⟩ | ⟨hOther, -⟩
    · exact hFault
    · cases hOther

end QueryOutline
