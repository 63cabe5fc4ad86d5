import QueryOutline.Proofs.Checked.Reading
import QueryOutline.Proofs.Grammar.Progress

/-! The runs of expressions follow their readings. Each loop of a run takes a lexeme in every round,
and the parentheses that it counts are lexemes that it has taken. -/

namespace QueryOutline.Checked

open Reading

variable {α β : Type} {session : Session} {lexeme : Lexeme} {rest : List Lexeme}
  {result : Outcome (β × List Lexeme)}

section Steps

/-- Looking ahead moves nothing, and it cannot fail. -/
theorem Follows.peek {second : Option Token → Run β} (hRest : session.rest = lexeme :: rest)
    (hSecond : Follows (second (some lexeme.token)) session result) :
    Follows (Checked.peek >>= second) session result := by
  refine Follows.ask ?_
  rw [Session.peek_eq, hRest]
  exact hSecond

theorem Follows.peek_end {second : Option Token → Run β} (hRest : session.rest = [])
    (hSecond : Follows (second none) session result) :
    Follows (Checked.peek >>= second) session result := by
  refine Follows.ask ?_
  rw [Session.peek_eq, hRest]
  exact hSecond

/-- The check is that the counter does not go above the number of lexemes, and every count is a
lexeme that was taken. -/
theorem Follows.countUp {counter : Nat} {second : Nat → Run β}
    (hCounter : counter < session.cursor.lexemes.length)
    (hSecond : Follows (second (counter + 1)) session result) :
    Follows (Checked.countUp counter >>= second) session result := by
  refine Follows.move (.refl session) ?_ hSecond
  simp [Checked.countUp, Bind.bind, Run.bind, Run.ask, Run.check, Pure.pure, Outcome.pure, hCounter]

/-- A counter that was counted up can be counted down. -/
theorem Follows.countDown {counter : Nat} {second : Nat → Run β}
    (hSecond : Follows (second counter) session result) :
    Follows (Checked.countDown (counter + 1) >>= second) session result :=
  Follows.check rfl hSecond

end Steps

section Clauses

/-- The parentheses that are open are among the lexemes that have been taken. This keeps the counter
in range in both directions. -/
theorem skipLoop_follows {rounds nesting : Nat} (hNesting : nesting ≤ session.cursor.position)
    (hRounds : session.rest.length < rounds) :
    Follows (skipLoop rounds nesting) session (pure ((), afterClause nesting session.rest)) := by
  induction rounds generalizing nesting session with
  | zero => omega
  | succ rounds ih =>
      rw [skipLoop]
      cases hRest : session.rest with
      | nil =>
          refine Follows.peek_end hRest ?_
          have hEnd := Follows.pure () session
          rwa [hRest] at hEnd
      | cons lexeme rest =>
          have hBehind := Session.rest_next hRest
          have hLength := Session.length_next hRest
          have hSpace := Session.position_lt hRest
          have hStay : ∀ {nesting}, nesting ≤ session.cursor.position + 1 →
              Follows (skipLoop rounds nesting) session.next
                (pure ((), afterClause nesting rest)) := by
            intro nesting hLow
            rw [← hBehind]
            exact ih hLow (by omega)
          have hPure := Follows.pure () session
          refine Follows.peek hRest ?_
          dsimp only
          cases hToken : lexeme.token with
          | keyword word =>
              simp only [afterClause, hToken]
              split
              · rwa [hRest] at hPure
              · exact Follows.bump hRest (hStay (by omega))
          | mark sign =>
              cases sign with
              | openParen =>
                  simp only [afterClause, hToken]
                  exact Follows.countUp (by omega) (Follows.bump hRest (hStay (by omega)))
              | closeParen =>
                  cases nesting with
                  | zero =>
                      simp only [afterClause, hToken, if_true]
                      refine Follows.bump hRest ?_
                      have hEnd := Follows.pure () session.next
                      rwa [hBehind] at hEnd
                  | succ nesting =>
                      simp only [afterClause, hToken]
                      rw [if_neg (Nat.succ_ne_zero _)]
                      exact Follows.countDown (Follows.bump hRest (hStay (by omega)))
              | _ =>
                  simp only [afterClause, hToken]
                  exact Follows.bump hRest (hStay (by omega))
          | _ =>
              simp only [afterClause, hToken]
              exact Follows.bump hRest (hStay (by omega))

/-- Both ends of the range are taken from the cursor, before the loop and behind it. -/
theorem skip_follows (limit : Nat) (session : Session) :
    Follows skip session (do
      let rest ← skipClause (session.scope limit) session.rest
      pure ((), rest)) := by
  have hLoop := skipLoop_follows (Nat.zero_le session.cursor.position)
    (Nat.lt_succ_of_le session.rest_length_le)
  have hSkip : (do
      let rest ← skipClause (session.scope limit) session.rest
      pure ((), rest)) = (do
      let read ← (pure ((), afterClause 0 session.rest) : Outcome (Unit × List Lexeme))
      Outcome.emit (.skipped ((session.scope limit).offset session.rest)
        ((session.scope limit).offset read.2))
      pure ((), read.2)) := by
    simp [skipClause]
  rw [hSkip]
  refine Follows.ask (Follows.ask (Follows.bind hLoop ?_))
  intro _ position _ _
  refine Follows.ask ?_
  rw [Session.offset_eq limit, Session.offset_eq limit]
  exact Follows.emit _ _

/-- The loop over a group stops behind the parenthesis that closes it. -/
theorem groupLoop_follows {rounds nesting : Nat} (hNesting : nesting < session.cursor.position)
    (hRounds : session.rest.length < rounds) :
    Follows (groupLoop rounds (nesting + 1)) session
      (pure ((splitGroup nesting session.rest).closing,
        (splitGroup nesting session.rest).rest)) := by
  induction rounds generalizing nesting session with
  | zero => omega
  | succ rounds ih =>
      rw [groupLoop]
      cases hRest : session.rest with
      | nil =>
          refine Follows.bump_end hRest ?_
          have hEnd := Follows.pure (none : Option Lexeme) session
          rwa [hRest] at hEnd
      | cons lexeme rest =>
          have hBehind := Session.rest_next hRest
          have hLength := Session.length_next hRest
          have hSpace := Session.position_lt hRest
          have hStay : ∀ {nesting}, nesting < session.cursor.position + 1 →
              Follows (groupLoop rounds (nesting + 1)) session.next
                (pure ((splitGroup nesting rest).closing, (splitGroup nesting rest).rest)) := by
            intro nesting hLow
            rw [← hBehind]
            exact ih hLow (by omega)
          refine Follows.bump hRest ?_
          dsimp only
          cases hToken : lexeme.token with
          | mark sign =>
              cases sign with
              | openParen =>
                  simp only [splitGroup, hToken]
                  exact Follows.countUp (Nat.lt_of_le_of_lt hNesting hSpace) (hStay (by omega))
              | closeParen =>
                  refine Follows.countDown ?_
                  cases nesting with
                  | zero =>
                      simp only [splitGroup, hToken, if_true]
                      have hEnd := Follows.pure (some lexeme) session.next
                      rwa [hBehind] at hEnd
                  | succ nesting =>
                      simp only [splitGroup, hToken]
                      rw [if_neg (Nat.succ_ne_zero _)]
                      exact hStay (by omega)
              | _ =>
                  simp only [splitGroup, hToken]
                  exact hStay (by omega)
          | _ =>
              simp only [splitGroup, hToken]
              exact hStay (by omega)

end Clauses

section Expressions

/-- Every round takes the lexemes of an item, so that a round for each lexeme is enough. -/
theorem separated_follows {item : Run α} {reader : Reader α} {rounds loops : Nat}
    (hItem : Tracks item session reader) (hRounds : session.rest.length < rounds)
    (hLoops : session.rest.length ≤ loops) :
    Follows (separated item rounds) session (Reading.separated reader loops session.rest) := by
  induction rounds generalizing session loops with
  | zero => omega
  | succ rounds ih =>
      rw [separated]
      cases loops with
      | zero =>
          refine Follows.bind hItem.here ?_
          intro first position hReaches _
          -- Where there are no lexemes, there is no comma.
          have hNone : (session.moved position).rest = [] := by
            have hEmpty := hReaches.length_le
            exact List.eq_nil_of_length_eq_zero (by omega)
          refine Follows.eat_none (Token.isPlain_mark _) (by rw [hNone]; rfl) ?_
          exact Follows.pure _ _
      | succ loops =>
          refine Follows.bind hItem.here ?_
          intro first position hReaches _
          dsimp only
          cases hComma : eat? (.mark .comma) (session.moved position).rest with
          | none =>
              refine Follows.eat_none (Token.isPlain_mark _) hComma ?_
              exact Follows.pure _ _
          | some rest =>
              obtain ⟨comma, hRest, -⟩ := eat?_eq_some hComma
              have hBehind := Session.rest_next hRest
              have hLength := Session.length_next hRest
              have hShorter := hReaches.length_le
              have hMore := @ih _ loops ((hItem.moved hReaches).next hRest) (by omega) (by omega)
              refine Follows.eat (Token.isPlain_mark _) hComma ?_
              rw [← hBehind]
              refine Follows.bind hMore ?_
              intro more last _ _
              exact Follows.pure _ _

/-- The run looks at two tokens before it takes any, as the reading does. -/
theorem memberLoop_follows {rounds : Nat} (object : Expr) (hRounds : session.rest.length < rounds) :
    Follows (memberLoop rounds object) session (pure (members object session.rest)) := by
  induction rounds generalizing session object with
  | zero => omega
  | succ rounds ih =>
      rw [memberLoop]
      have hStop := Follows.pure object session
      cases hRest : session.rest with
      | nil =>
          refine Follows.peek_end hRest ?_
          rw [hRest] at hStop
          exact hStop
      | cons dot rest =>
          refine Follows.peek hRest ?_
          by_cases hDot : dot.token = .mark .dot
          · rw [if_pos (by rw [hDot])]
            refine Follows.ask ?_
            rw [Session.peekNth_one, hRest]
            cases rest with
            | nil =>
                rw [members_eq_self (by rintro _ _ _ _ ⟨⟩)]
                rwa [hRest] at hStop
            | cons named rest =>
                have hNamed := Session.rest_next hRest
                have hBehind := Session.rest_next hNamed
                dsimp only [List.getElem?_cons_succ, List.getElem?_cons_zero, Option.map_some]
                split
                · rename_i property hName
                  have hName := Option.some.inj hName
                  rw [members_property hDot hName, ← hBehind]
                  refine Follows.bump hRest (Follows.bump hNamed (ih _ ?_))
                  rw [hBehind]
                  simp only [hRest, List.length_cons] at hRounds
                  omega
                · rename_i hOther
                  rw [members_eq_self]
                  · rwa [hRest] at hStop
                  · rintro _ _ _ name ⟨⟩ _ hName
                    exact hOther name (by rw [hName])
          · rw [if_neg (by simpa using hDot), members_eq_self]
            · rwa [hRest] at hStop
            · rintro _ _ _ _ ⟨⟩ hToken
              exact absurd hToken hDot

theorem arguments_follows {argument : Run Expr} {reader : Reader Expr}
    (hArgument : Tracks argument session reader) :
    Follows (arguments argument) session (callArguments reader session.rest) := by
  unfold arguments callArguments
  cases hClose : eat? (.mark .closeParen) session.rest with
  | some rest =>
      obtain ⟨closing, hRest, -⟩ := eat?_eq_some hClose
      refine Follows.eat (Token.isPlain_mark _) hClose ?_
      have hEnd := Follows.pure ([] : List Expr) session.next
      rwa [Session.rest_next hRest] at hEnd
  | none =>
      refine Follows.eat_none (Token.isPlain_mark _) hClose ?_
      refine Follows.ask (Follows.bind (separated_follows hArgument
        (Nat.lt_succ_of_le session.rest_length_le) (Nat.le_refl _)) ?_)
      intro values position _ _
      refine Follows.eatOptional (Token.isPlain_mark _) ?_
      intro taken last _ hRest
      dsimp only
      rw [← hRest]
      exact Follows.pure _ _

/-- A group ends in front of its closing parenthesis, or else at the end of the lexemes. -/
theorem groupEnd_eq {closing : Option Lexeme} {stop : Nat}
    (hStop : session.cursor.position = stop + closing.toList.length) :
    groupEnd closing session =
      some (pure (stop, (closing.map Lexeme.start).getD session.cursor.endOffset), session) := by
  cases closing with
  | some lexeme =>
      have hBefore : minus? session.cursor.position 1 = some stop := by
        rw [hStop]
        rfl
      simp [groupEnd, position, countDown, Bind.bind, Run.bind, Run.ask, Run.check, hBefore,
        Pure.pure, Run.pure, Outcome.pure]
  | none =>
      obtain rfl : session.cursor.position = stop := hStop
      rfl

/-- The content of a group is the range of lexemes from behind its opening parenthesis up to its
end. -/
theorem slice?_group {start : Nat} {group : Group}
    (hGroup : group.content ++ group.closing.toList ++ group.rest =
      session.cursor.lexemes.drop start)
    (hStart : start ≤ session.cursor.lexemes.length) :
    session.cursor.slice? start (start + group.content.length) = some group.content := by
  have hLength := congrArg List.length hGroup
  simp only [List.length_drop, List.length_append] at hLength
  have hContent : (session.cursor.lexemes.take (start + group.content.length)).drop start =
      group.content := by
    rw [List.drop_take, ← hGroup, Nat.add_sub_cancel_left]
    simp
  rw [Cursor.slice?, if_pos (by omega), hContent]

/-- A group is read in a session of its own, which is one level deeper than the one around it. -/
theorem enter_follows {capacity limit start endOffset : Nat} {content : List Lexeme}
    {inside : Run (List Statement)} (hDepth : session.depth < capacity)
    (hSlice : session.cursor.slice? start (start + content.length) = some content)
    (hInside : Follows inside ⟨.start content endOffset, true, session.letBound, session.depth + 1⟩
      (scopeBody (limit - (session.depth + 1)) ⟨limit, session.letBound, true, endOffset⟩
        content).toEnd) :
    Follows (enter capacity limit inside start (start + content.length) endOffset) session
      (groupBody (limit - session.depth) ⟨limit, session.letBound, true, endOffset⟩ content >>=
        fun body => pure (body, session.rest)) := by
  refine Follows.ask (Follows.check (if_pos hDepth) ?_)
  by_cases hDeep : limit < session.depth + 1
  · have hNone : limit - session.depth = 0 := by omega
    rw [if_pos hDeep, hNone]
    exact Follows.fail _ _
  · have hBudget : limit - session.depth = limit - (session.depth + 1) + 1 := by omega
    have hLevel : limit - (limit - (session.depth + 1)) = session.depth + 1 := by omega
    rw [if_neg hDeep, hBudget, groupBody, hLevel, bind_assoc]
    refine Follows.check (minus?_add _ _) (Follows.emit_bind (Follows.ask ?_))
    exact Follows.check hSlice (Follows.ask (Follows.aside hInside session))

/-- Where the lexemes behind a group are left, the cursor stands behind the group. -/
theorem position_behind_group {group : Group} {position : Nat}
    (hGroup : group.content ++ group.closing.toList ++ group.rest = session.rest)
    (hPlace : session.cursor.position ≤ session.cursor.lexemes.length)
    (hReaches : session.Reaches position) (hRest : group.rest = (session.moved position).rest) :
    position = session.cursor.position + group.content.length + group.closing.toList.length := by
  have hForward := hReaches.forward
  have hWithin := hReaches.within
  have hAll := congrArg List.length hGroup
  have hBehind := congrArg List.length hRest
  simp only [List.length_append, Session.rest_length] at hAll
  rw [Session.rest_length, Session.position_moved, Session.lexemes_moved] at hBehind
  omega

/-- Behind a group, its content is read from the place at which it starts. -/
theorem enter_group_follows {capacity limit start : Nat} {group : Group}
    {inside : Run (List Statement)} (hDepth : session.depth < capacity)
    (hSlice : session.cursor.slice? start (start + group.content.length) = some group.content)
    (hStop : session.cursor.position =
      start + group.content.length + group.closing.toList.length)
    (hInside : ∀ endOffset,
      Follows inside ⟨.start group.content endOffset, true, session.letBound, session.depth + 1⟩
        (scopeBody (limit - (session.depth + 1)) ⟨limit, session.letBound, true, endOffset⟩
          group.content).toEnd) :
    Follows (do
      let (stop, endOffset) ← groupEnd group.closing
      let body ← enter capacity limit inside start stop endOffset
      pure (Expr.subquery (body.map Statement.elided))) session (do
      let body ← groupBody (limit - session.depth) ((session.scope limit).ofGroup group)
        group.content
      pure (Expr.subquery (body.map Statement.elided), session.rest)) := by
  refine Follows.move (.refl session) (groupEnd_eq hStop) ?_
  have hEntered := enter_follows hDepth hSlice
    (hInside ((group.closing.map Lexeme.start).getD session.cursor.endOffset))
  have hElided := hEntered.map fun body => Expr.subquery (body.map Statement.elided)
  simp only [bind_assoc, pure_bind] at hElided
  exact hElided

/-- The slice of the content starts behind the opening parenthesis and ends at the closing one or at
the end, so that it exists. The session for it is one level deeper. -/
theorem subquery_follows {capacity limit : Nat} {inside : Run (List Statement)}
    (hStart : 0 < session.cursor.position)
    (hPlace : session.cursor.position ≤ session.cursor.lexemes.length)
    (hDepth : session.depth < capacity)
    (hInside : ∀ content endOffset, content.length ≤ session.rest.length →
      Follows inside ⟨.start content endOffset, true, session.letBound, session.depth + 1⟩
        (scopeBody (limit - (session.depth + 1)) ⟨limit, session.letBound, true, endOffset⟩
          content).toEnd) :
    Follows (subquery capacity limit inside) session (Reading.subquery (session.scope limit)
      (groupBody (limit - session.depth)) session.rest) := by
  have hGroup := splitGroup_append 0 session.rest
  have hLoop := groupLoop_follows hStart (Nat.lt_succ_of_le session.rest_length_le)
  -- The reading splits off the group in one step, which is what the loop of the run follows.
  have hReading : Reading.subquery (session.scope limit) (groupBody (limit - session.depth))
      session.rest = (do
        let read ← (pure ((splitGroup 0 session.rest).closing, (splitGroup 0 session.rest).rest) :
          Outcome (Option Lexeme × List Lexeme))
        if read.1.isNone then Outcome.emit .unclosedGroup
        let body ← groupBody (limit - session.depth)
          ((session.scope limit).ofGroup (splitGroup 0 session.rest))
          (splitGroup 0 session.rest).content
        pure (.subquery (body.map Statement.elided), read.2)) := by
    simp only [Reading.subquery, pure_bind]
  rw [hReading]
  generalize splitGroup 0 session.rest = group at hGroup hLoop ⊢
  have hSize : group.content.length ≤ session.rest.length := by
    rw [← hGroup, List.length_append, List.length_append]
    omega
  refine Follows.ask (Follows.ask (Follows.bind hLoop ?_))
  intro closing position hReaches hClosing
  obtain ⟨rfl, hRest⟩ := Prod.mk.inj (Except.ok.inj hClosing)
  have hInner := @enter_group_follows (session.moved position) capacity limit
    session.cursor.position group inside hDepth (slice?_group hGroup hPlace)
    (position_behind_group hGroup hPlace hReaches hRest)
    fun endOffset => hInside group.content endOffset hSize
  cases hClosed : group.closing with
  | some lexeme =>
      rw [hClosed] at hInner
      exact hInner
  | none =>
      rw [hClosed] at hInner
      exact Follows.emit_bind hInner

/-- What a run takes is read behind the next lexeme. -/
theorem Follows.take {value : β} (hRest : session.rest = lexeme :: rest) :
    Follows (do
      let _ ← Run.bump
      Pure.pure value) session (Pure.pure (value, rest)) := by
  refine Follows.bump hRest ?_
  have hEnd := Follows.pure value session.next
  rwa [Session.rest_next hRest] at hEnd

/-- The number of rounds is asked for behind the name, where fewer lexemes are left than there are
rounds. -/
theorem members_follows {object : Expr} (hRest : session.rest = lexeme :: rest) :
    Follows (do
      let _ ← Run.bump
      memberLoop (← lexemeRounds) object) session (pure (members object rest)) := by
  rw [← Session.rest_next hRest]
  exact Follows.bump hRest (Follows.ask (memberLoop_follows object
    (Nat.lt_succ_of_le (Session.rest_length_le _))))

/-- The name of a function and its opening parenthesis are taken before the arguments. -/
theorem call_follows {argument : Run Expr} {reader : Reader Expr} {opening : Lexeme} {name : String}
    {inside : List Lexeme} (hRest : session.rest = lexeme :: opening :: inside)
    (hArgument : Tracks argument session.next reader) :
    Follows (do
      let _ ← Run.bump
      let _ ← Run.bump
      let arguments ← arguments argument
      pure (Expr.call name arguments)) session (call reader name inside) := by
  have hOpen := Session.rest_next hRest
  have hInside := Session.rest_next hOpen
  refine Follows.bump hRest (Follows.bump hOpen ?_)
  rw [← hInside]
  exact (arguments_follows (hArgument.next hOpen)).map fun arguments => Expr.call name arguments

/-- The token behind the next one is the token in front of which the lexemes behind are eaten. -/
theorem second_eq_iff {token : Token} :
    (lexeme :: rest)[1]?.map Lexeme.token = some token ↔ (eat? token rest).isSome = true := by
  cases rest with
  | nil => simp [eat?]
  | cons next rest =>
      by_cases hNext : next.token = token <;> simp [eat?, hNext]

/-- Nothing is asked of what is nested unless a lexeme is left to start it. -/
theorem primary_follows {capacity limit : Nat} {argument : Run Expr} {reader : Reader Expr}
    {inside : Run (List Statement)} (hDepth : session.rest ≠ [] → session.depth < capacity)
    (hArgument : session.rest ≠ [] → Tracks argument session.next reader)
    (hInside : ∀ content endOffset, content.length < session.rest.length →
      Follows inside ⟨.start content endOffset, true, session.letBound, session.depth + 1⟩
        (scopeBody (limit - (session.depth + 1)) ⟨limit, session.letBound, true, endOffset⟩
          content).toEnd) :
    Follows (primary capacity limit argument inside) session
      (Reading.primary (session.scope limit) reader (groupBody (limit - session.depth))
        session.rest) := by
  refine Follows.ask ?_
  cases hRest : session.rest with
  | nil =>
      refine Follows.peek_end hRest ?_
      rw [Session.offset_eq limit, hRest]
      exact Follows.fail _ _
  | cons lexeme rest =>
      have hSome : session.rest ≠ [] := by simp [hRest]
      refine Follows.peek hRest ?_
      rw [Session.offset_eq limit, hRest]
      simp only [Reading.primary, Scope.offset]
      cases hToken : lexeme.token with
      | string value => exact Follows.take hRest
      | number value => exact Follows.take hRest
      | float value => exact Follows.take hRest
      | boolean value => exact Follows.take hRest
      | null => exact Follows.take hRest
      | openString value => exact Follows.fail _ _
      | symbol char => exact Follows.fail _ _
      | parameter name => exact members_follows hRest
      | identifier name =>
          refine Follows.ask ?_
          simp only [Session.peekNth_one, hRest, second_eq_iff]
          cases hOpen : eat? (.mark .openParen) rest with
          | none => exact members_follows hRest
          | some after =>
              obtain ⟨opening, rfl, -⟩ := eat?_eq_some hOpen
              exact Follows.pure_bind (call_follows hRest (hArgument hSome))
      | keyword word =>
          refine Follows.ask ?_
          simp only [Session.peekNth_one, hRest, second_eq_iff]
          cases hOpen : eat? (.mark .openParen) rest with
          | none => exact Follows.fail _ _
          | some after =>
              obtain ⟨opening, rfl, -⟩ := eat?_eq_some hOpen
              exact Follows.pure_bind (call_follows hRest (hArgument hSome))
      | mark sign =>
          by_cases hSign : sign = .openParen
          · subst hSign
            have hBehind := Session.rest_next hRest
            refine Follows.bump hRest ?_
            rw [← hBehind]
            refine subquery_follows (Nat.succ_pos _) (Session.position_lt hRest) (hDepth hSome) ?_
            intro content endOffset hContent
            refine hInside content endOffset ?_
            rw [hBehind] at hContent
            rw [hRest]
            exact Nat.lt_succ_of_le hContent
          · cases sign <;> first | exact absurd rfl hSign | exact Follows.fail _ _

theorem peek_of_nextOperator?_eq_none {operator? : Token → Option Operator}
    (hNext : nextOperator? operator? session.rest = none) :
    session.cursor.peek.bind operator? = none := by
  rw [Session.peek_eq]
  cases hRest : session.rest with
  | nil => rfl
  | cons lexeme rest => simpa [hRest, nextOperator?] using hNext

/-- The operand may be read again from any later place, which is what tracking says. -/
theorem comparison_tracks {operand : Run Expr} {reader : Reader Expr}
    (hOperand : Tracks operand session reader) :
    Tracks (comparison operand) session (Reading.comparison reader) := by
  intro start hStart
  refine Follows.bind (hOperand start hStart) ?_
  intro left position hReaches _
  have hBehind := (hOperand.moved hStart).moved hReaches
  generalize (session.moved start).moved position = session at hBehind ⊢
  dsimp only
  cases hNext : nextOperator? comparison? session.rest with
  | none =>
      refine Follows.ask ?_
      rw [peek_of_nextOperator?_eq_none hNext]
      exact Follows.pure _ _
  | some found =>
      obtain ⟨operator, rest⟩ := found
      obtain ⟨lexeme, hRest, hOperator⟩ := nextOperator?_eq_some hNext
      refine Follows.peek hRest ?_
      rw [Option.bind_some, hOperator, ← Session.rest_next hRest]
      exact Follows.bump hRest ((hBehind.next hRest).here.map (Expr.binary operator left))

/-- Every round takes an operator, so that a round for each lexeme is enough. -/
theorem logicalLoop_follows {operand : Run Expr} {reader : Reader Expr} {rounds loops : Nat}
    (hOperand : Tracks operand session reader) (hRounds : session.rest.length < rounds)
    (hLoops : session.rest.length ≤ loops) (left : Expr) :
    Follows (logicalLoop operand rounds left) session
      (logicalTail reader loops left session.rest) := by
  induction rounds generalizing session loops left with
  | zero => omega
  | succ rounds ih =>
      rw [logicalLoop]
      cases hNext : nextOperator? logicalOperator? session.rest with
      | none =>
          have hTail : logicalTail reader loops left session.rest = pure (left, session.rest) := by
            cases loops <;> simp [logicalTail, hNext]
          refine Follows.ask ?_
          rw [peek_of_nextOperator?_eq_none hNext, hTail]
          exact Follows.pure _ _
      | some found =>
          obtain ⟨operator, rest⟩ := found
          obtain ⟨lexeme, hRest, hOperator⟩ := nextOperator?_eq_some hNext
          have hBehind := Session.rest_next hRest
          have hLength := Session.length_next hRest
          cases loops with
          | zero => omega
          | succ loops =>
              rw [logicalTail, hNext]
              refine Follows.peek hRest ?_
              rw [Option.bind_some, hOperator, ← hBehind]
              refine Follows.bump hRest (Follows.bind (hOperand.next hRest).here ?_)
              intro right position hReaches _
              have hShorter := hReaches.length_le
              exact ih ((hOperand.next hRest).moved hReaches) (by omega) (by omega) _

theorem logical_follows {operand : Run Expr} {reader : Reader Expr}
    (hOperand : Tracks operand session reader) :
    Follows (logical operand) session (Reading.logical reader session.rest) := by
  have hComparison := comparison_tracks hOperand
  refine Follows.bind hComparison.here ?_
  intro first position hReaches _
  exact Follows.ask (logicalLoop_follows (hComparison.moved hReaches)
    (Nat.lt_succ_of_le (Session.rest_length_le _)) (Nat.le_refl _) first)

end Expressions

end QueryOutline.Checked
