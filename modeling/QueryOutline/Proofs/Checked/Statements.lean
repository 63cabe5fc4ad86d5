import QueryOutline.Proofs.Checked.Expressions
import QueryOutline.Proofs.Grammar.Statements

/-! The runs of statements follow their readings. There are never more levels of nesting than
lexemes that have been taken, in a session and in those around it: `room` is what is left of the
number of lexemes of the whole text, and never less than the number of lexemes that are left in the
session. -/

namespace QueryOutline.Checked

open Reading

variable {session : Session} {lexeme : Lexeme} {rest : List Lexeme}

section Clauses

variable (limit : Nat)

/-- The fault is raised at the offset of the cursor, which is that of the lexeme or of the end. -/
theorem variableName_follows (session : Session) :
    Follows variableName session (Reading.variableName (session.scope limit) session.rest) := by
  cases hRest : session.rest with
  | nil =>
      refine Follows.peek_end hRest (Follows.ask ?_)
      rw [Session.offset_eq limit, hRest]
      exact Follows.fail _ _
  | cons lexeme rest =>
      obtain ⟨token, start, stop⟩ := lexeme
      refine Follows.peek hRest ?_
      cases token with
      | identifier name => exact Follows.take hRest
      | _ =>
          refine Follows.ask ?_
          rw [Session.offset_eq limit, hRest]
          exact Follows.fail _ _

theorem collectionName_follows (session : Session) :
    Follows collectionName session (Reading.collectionName (session.scope limit) session.rest) := by
  cases hRest : session.rest with
  | nil =>
      refine Follows.peek_end hRest (Follows.ask ?_)
      rw [Session.offset_eq limit, hRest]
      exact Follows.fail _ _
  | cons lexeme rest =>
      refine Follows.peek hRest ?_
      rw [Option.bind_some]
      simp only [Reading.collectionName]
      cases hName : collection? lexeme.token with
      | some name => exact Follows.take hRest
      | none =>
          refine Follows.ask ?_
          rw [Session.offset_eq limit, hRest]
          exact Follows.fail _ _

/-- The keyword of a clause is taken first. -/
theorem Follows.keyword {β : Type} {word : Keyword} {second : Bool → Run β}
    {result : List Lexeme → Outcome (β × List Lexeme)} (hRest : session.rest = lexeme :: rest)
    (hToken : lexeme.token = .keyword word)
    (hSecond : Follows (second true) session.next (result session.next.rest)) :
    Follows (Run.eat (.keyword word) >>= second) session (result rest) := by
  have hEaten : eat? (.keyword word) session.rest = some rest := by
    rw [hRest]
    exact if_pos hToken
  rw [Session.rest_next hRest] at hSecond
  exact Follows.eat (Token.isPlain_keyword word) hEaten hSecond

theorem forClause_follows (hRest : session.rest = lexeme :: rest)
    (hToken : lexeme.token = .keyword .forIn) :
    Follows forClause session (Reading.forClause (session.scope limit) rest) := by
  refine Follows.keyword hRest hToken (Follows.bind (variableName_follows limit session.next) ?_)
  intro name position _ _
  refine Follows.eatOptional (Token.isPlain_keyword _) ?_
  intro taken last _ hBehind
  dsimp only
  rw [← hBehind]
  exact (collectionName_follows limit _).map (Statement.forIn name)

/-- A clause that is stepped over gives the same value whatever is in it. -/
theorem skip_map_follows {α : Type} (value : α) (session : Session) :
    Follows (do
      skip
      pure value) session (do
      let rest ← skipClause (session.scope limit) session.rest
      pure (value, rest)) := by
  have hSkip := (skip_follows limit session).map fun _ => value
  simp only [bind_assoc, pure_bind] at hSkip
  exact hSkip

/-- Whether bodies are omitted is asked of the session, which knows it as the scope does. -/
theorem filterClause_follows {expression : Run Expr} {reader : Reader Expr}
    (hExpression : Tracks expression session.next reader) (hRest : session.rest = lexeme :: rest)
    (hToken : lexeme.token = .keyword .filter) :
    Follows (filterClause expression) session
      (Reading.filterClause (session.scope limit) reader rest) := by
  refine Follows.keyword hRest hToken (Follows.ask ?_)
  unfold Reading.filterClause
  change Follows (if (session.scope limit).omitsBodies then _ else _) _ _
  split
  · exact skip_map_follows limit _ _
  · exact hExpression.here.map Statement.filter

theorem direction_follows (session : Session) :
    Follows direction session (pure (Reading.direction session.rest)) := by
  unfold direction Reading.direction
  cases hDesc : eat? (.keyword .desc) session.rest with
  | some rest =>
      obtain ⟨lexeme, hRest, -⟩ := eat?_eq_some hDesc
      refine Follows.eat (Token.isPlain_keyword _) hDesc ?_
      have hEnd := Follows.pure Direction.desc session.next
      rwa [Session.rest_next hRest] at hEnd
  | none =>
      refine Follows.eat_none (Token.isPlain_keyword _) hDesc ?_
      refine Follows.eatOptional (Token.isPlain_keyword _) ?_
      intro taken last _ hBehind
      dsimp only
      rw [← hBehind]
      exact Follows.pure _ _

/-- The key is read from wherever the list has come to. -/
theorem criterion_tracks {expression : Run Expr} {reader : Reader Expr}
    (hExpression : Tracks expression session reader) :
    Tracks (criterion expression) session (Reading.criterion reader) := by
  intro start hStart
  refine Follows.bind (hExpression start hStart) ?_
  intro key position _ _
  have hOrder := (direction_follows ((session.moved start).moved position)).map (Criterion.mk key)
  rw [pure_bind] at hOrder
  exact hOrder

theorem sortClause_follows {expression : Run Expr} {reader : Reader Expr}
    (hExpression : Tracks expression session.next reader) (hRest : session.rest = lexeme :: rest)
    (hToken : lexeme.token = .keyword .sort) :
    Follows (sortClause expression) session
      (Reading.sortClause (session.scope limit) reader rest) := by
  refine Follows.keyword hRest hToken (Follows.ask ?_)
  unfold Reading.sortClause
  change Follows (if (session.scope limit).omitsBodies then _ else _) _ _
  split
  · exact skip_map_follows limit _ _
  · have hCriteria := separated_follows (criterion_tracks hExpression)
      (Nat.lt_succ_of_le (Session.rest_length_le _)) (Nat.le_refl _)
    exact Follows.ask (hCriteria.map Statement.sort)

/-- Operands are tracked behind the keyword, so that the second one can be read from behind the
comma. -/
theorem limitClause_follows {operand : Run Expr} {reader : Reader Expr}
    (hOperand : Tracks operand session.next reader) (hRest : session.rest = lexeme :: rest)
    (hToken : lexeme.token = .keyword .limit) :
    Follows (limitClause operand) session (Reading.limitClause reader rest) := by
  refine Follows.keyword hRest hToken (Follows.bind hOperand.here ?_)
  intro first position hReaches _
  dsimp only
  cases hComma : eat? (.mark .comma) (session.next.moved position).rest with
  | none =>
      refine Follows.eat_none (Token.isPlain_mark _) hComma ?_
      exact Follows.pure _ _
  | some rest =>
      obtain ⟨comma, hComma', -⟩ := eat?_eq_some hComma
      refine Follows.eat (Token.isPlain_mark _) hComma ?_
      rw [← Session.rest_next hComma']
      exact ((hOperand.moved hReaches).next hComma').here.map fun second =>
        Statement.limit (.expression first) (.expression second)

theorem letClause_follows {expression : Run Expr} {reader : Reader Expr}
    (hExpression : Tracks expression session.next reader) (hRest : session.rest = lexeme :: rest)
    (hToken : lexeme.token = .keyword .letBe) :
    Follows (letClause expression) session
      (Reading.letClause (session.scope limit) reader rest) := by
  refine Follows.keyword hRest hToken (Follows.bind (variableName_follows limit session.next) ?_)
  intro name position hReaches _
  refine Follows.eatOptional (Token.isPlain_mark _) ?_
  intro taken last hLast hBehind
  dsimp only
  rw [← hBehind]
  exact ((hExpression.moved hReaches).moved hLast).here.map (Statement.letBe name)

/-- The lexeme that starts the clause is taken first, so that this round makes progress also where
nothing is stepped over. -/
theorem unknown_follows (hRest : session.rest = lexeme :: rest) :
    Follows unknown session (Reading.unknown (session.scope limit) lexeme rest) := by
  rw [← Session.rest_next hRest]
  exact Follows.bump hRest (Follows.emit_bind (skip_map_follows limit none session.next))

/-- The keyword at the start of the lexemes decides which clause is read. -/
theorem clause_follows {expression operand : Run Expr} {reader operandReader : Reader Expr}
    (hExpression : Tracks expression session.next reader)
    (hOperand : Tracks operand session.next operandReader) (hRest : session.rest = lexeme :: rest) :
    Follows (clause expression operand) session
      (Reading.clause (session.scope limit) reader operandReader lexeme rest) := by
  refine Follows.ask ?_
  rw [Cursor.peekKeyword, Session.peek_eq, hRest]
  unfold Reading.clause
  dsimp only [List.head?_cons, Option.map_some]
  cases hToken : lexeme.token with
  | keyword word =>
      cases word with
      | forIn => exact (forClause_follows limit hRest hToken).map some
      | filter => exact (filterClause_follows limit hExpression hRest hToken).map some
      | sort => exact (sortClause_follows limit hExpression hRest hToken).map some
      | limit => exact (limitClause_follows hOperand hRest hToken).map some
      | letBe => exact (letClause_follows limit hExpression hRest hToken).map some
      | _ => exact unknown_follows limit hRest
  | _ => exact unknown_follows limit hRest

/-- Each round of the loop over statements takes a lexeme, so that there are rounds enough. -/
theorem statements_follows {expression operand : Run Expr} {reader operandReader : Reader Expr}
    {budget rounds loops : Nat} (hReader : Grammar.ReadsExpressions budget reader)
    (hOperandReader : Grammar.ReadsOperands budget operandReader)
    (hExpression : session.rest ≠ [] → Tracks expression session.next reader)
    (hOperand : session.rest ≠ [] → Tracks operand session.next operandReader)
    (hRounds : session.rest.length < rounds) (hLoops : session.rest.length ≤ loops) :
    Follows (statements expression operand rounds) session
      (clauses (session.scope limit) reader operandReader loops session.rest).toEnd := by
  induction rounds generalizing session loops with
  | zero => omega
  | succ rounds ih =>
      rw [statements]
      refine Follows.ask ?_
      cases hRest : session.rest with
      | nil =>
          rw [if_pos (Session.isAtEnd_iff.mpr hRest)]
          have hEnd := Follows.pure ([] : List Statement) session
          rw [hRest] at hEnd
          cases loops <;> exact hEnd
      | cons lexeme rest =>
          have hSome : session.rest ≠ [] := by simp [hRest]
          obtain ⟨loops, rfl⟩ : ∃ more, loops = more + 1 := by
            rw [hRest, List.length_cons] at hLoops
            exact ⟨loops - 1, by omega⟩
          rw [if_neg (by simpa [Session.isAtEnd_iff] using hSome), clauses, Outcome.toEnd_bind]
          refine Follows.ask (Follows.bind
            (clause_follows limit (hExpression hSome) (hOperand hSome) hRest) ?_)
          intro statement position hReaches hRead
          have hShorter : (session.moved position).rest.length < (lexeme :: rest).length :=
            Nat.lt_succ_of_le (Grammar.clause_length_le hReader hOperandReader hRead)
          rw [← hRest] at hShorter
          have hMore := @ih (session.moved position) loops
            (fun hNext => (hExpression hSome).later hReaches hNext)
            (fun hNext => (hOperand hSome).later hReaches hNext) (by omega) (by omega)
          cases statement with
          | some statement =>
              have hCons := hMore.map (statement :: ·)
              rw [Outcome.toEnd_map] at hCons
              exact hCons
          | none =>
              have hMoved : position ≠ session.cursor.position := by
                rintro rfl
                exact Nat.lt_irrefl _ hShorter
              simp only [Option.toList_none, List.nil_append, bind_pure]
              exact Follows.ask (Follows.check (if_neg hMoved) hMore)

end Clauses

section Nesting

variable {capacity limit room : Nat}

/-- Within the room, expressions are read as they should be. -/
def ExpressionsFollow (capacity limit room : Nat) : Prop :=
  ∀ session : Session, session.depth + room = capacity → session.rest.length < room →
    Follows (expression capacity limit room) session
      (Reading.expression (limit - session.depth) (session.scope limit) session.rest)

def GroupsFollow (capacity limit room : Nat) : Prop :=
  ∀ session : Session, session.depth + room = capacity + 1 → session.rest.length < room →
    Follows (group capacity limit room) session
      (scopeBody (limit - session.depth) (session.scope limit) session.rest).toEnd

/-- A lexeme has been taken before an expression is read, and so there is room for a level. -/
theorem expression_tracks (hExpressions : ExpressionsFollow capacity limit room)
    (hDepth : session.depth + room = capacity) (hRoom : session.rest.length < room) :
    Tracks (expression capacity limit room) session
      (Reading.expression (limit - session.depth) (session.scope limit)) := by
  intro position hReaches
  exact hExpressions (session.moved position) hDepth
    (Nat.lt_of_le_of_lt hReaches.length_le hRoom)

/-- Taking a lexeme makes room for one level. -/
theorem next_length_lt (hSome : session.rest ≠ []) (hRoom : session.rest.length ≤ room) :
    session.next.rest.length < room := by
  obtain ⟨lexeme, rest, hRest⟩ := List.exists_cons_of_ne_nil hSome
  have hLength := Session.length_next hRest
  omega

/-- Expressions and groups take the room of a level, and the depth of the session grows by as
much. -/
theorem primary_tracks (hExpressions : ExpressionsFollow capacity limit room)
    (hGroups : GroupsFollow capacity limit room) (hDepth : session.depth + room = capacity)
    (hRoom : session.rest.length ≤ room) :
    Tracks (primary capacity limit (expression capacity limit room) (group capacity limit room))
      session (Reading.primary (session.scope limit)
        (Reading.expression (limit - session.depth) (session.scope limit))
        (groupBody (limit - session.depth))) := by
  intro position hReaches
  have hLeft := Nat.le_trans hReaches.length_le hRoom
  refine primary_follows ?_ ?_ ?_
  · intro hSome
    have hPositive := List.length_pos_iff.mpr hSome
    rw [Session.depth_moved]
    omega
  · intro hSome
    exact expression_tracks hExpressions hDepth (next_length_lt hSome hLeft)
  · intro content endOffset hContent
    exact hGroups ⟨.start content endOffset, true, session.letBound, session.depth + 1⟩
      (by dsimp only; omega) (Nat.lt_of_lt_of_le hContent hLeft)

/-- A body takes no level itself. The room is for what is nested in its statements. -/
theorem body_follows (hExpressions : ExpressionsFollow capacity limit room)
    (hGroups : GroupsFollow capacity limit room) (hDepth : session.depth + room = capacity)
    (hRoom : session.rest.length ≤ room) :
    Follows (body capacity limit room) session
      (scopeBody (limit - session.depth) (session.scope limit) session.rest).toEnd := by
  obtain ⟨hReads, hReadsGroups⟩ := Grammar.reads_within (limit - session.depth)
  refine Follows.ask (statements_follows limit (hReads _)
    (Grammar.primary_ok_iff (hReads _) hReadsGroups) ?_ ?_
    (Nat.lt_succ_of_le session.rest_length_le) (Nat.le_refl _))
  · intro hSome
    exact expression_tracks hExpressions hDepth (next_length_lt hSome hRoom)
  · intro hSome
    exact primary_tracks hExpressions hGroups hDepth (Nat.le_of_lt (next_length_lt hSome hRoom))

/-- Whatever room is left, it is enough for the lexemes that are left. A level of nesting takes one
from the room, and at least one lexeme has been taken before it. -/
theorem room_suffices (capacity limit room : Nat) :
    ExpressionsFollow capacity limit room ∧ GroupsFollow capacity limit room := by
  induction room with
  | zero =>
      constructor
      · intro session _ hRoom
        cases hRoom
      · intro session _ hRoom
        cases hRoom
  | succ room ih =>
      obtain ⟨hExpressions, hGroups⟩ := ih
      constructor
      · intro session hDepth hRoom
        rw [expression]
        refine Follows.ask ?_
        by_cases hDeep : limit ≤ session.depth
        · rw [if_pos hDeep, Nat.sub_eq_zero_of_le hDeep]
          exact Follows.fail _ _
        · have hBudget : limit - session.depth = limit - (session.depth + 1) + 1 := by omega
          rw [if_neg hDeep, hBudget, Reading.expression]
          refine Follows.deeper (by omega) ?_
          exact logical_follows (primary_tracks hExpressions hGroups (by dsimp only; omega)
            (Nat.le_of_lt_succ hRoom))
      · intro session hDepth hRoom
        exact body_follows hExpressions hGroups (by omega) (Nat.le_of_lt_succ hRoom)

end Nesting

end QueryOutline.Checked
