import QueryOutline.Proofs.Checked.Statements
import QueryOutline.Proofs.Grammar.Logs
import QueryOutline.Proofs.Grammar.Sites

/-! The loop over the statements of a session comes to an end. Every clause takes a lexeme or ends
with a fault, and every group is read in a session with fewer lexemes than the one around it. So
there are no more rounds than lexemes, and after the last of them all lexemes have been taken. -/

namespace QueryOutline

namespace Reading

open Grammar

variable {scope : Scope} {lexemes rest : List Lexeme} {events : List Event}

/-- What is logged goes forward, and no group is entered with more lexemes than there are where the
log starts. -/
theorem Logs.entered_le (hLogs : Logs scope lexemes events rest) :
    rest <:+ lexemes ∧
      ∀ tokens depth, Event.enteredGroup tokens depth ∈ events → tokens ≤ lexemes.length := by
  induction hLogs with
  | quiet hRest => exact ⟨hRest, by simp⟩
  | trans _ _ ihFirst ihSecond =>
      obtain ⟨hMiddle, hFirst⟩ := ihFirst
      obtain ⟨hRest, hSecond⟩ := ihSecond
      refine ⟨hRest.trans hMiddle, ?_⟩
      intro tokens depth hMember
      rcases List.mem_append.mp hMember with hMember | hMember
      · exact hFirst tokens depth hMember
      · exact (hSecond tokens depth hMember).trans hMiddle.length_le
  | skipping | unclosed => exact ⟨List.suffix_refl _, by simp⟩
  | skipped scope lexemes => exact ⟨afterClause_suffix 0 lexemes, by simp⟩
  | entered scope lexemes depth =>
      refine ⟨List.suffix_refl _, ?_⟩
      intro tokens depth hMember
      obtain ⟨rfl, -⟩ : tokens = lexemes.length ∧ _ := by simpa using hMember
      exact Nat.le_refl _
  | @group scope lexemes events _ ih =>
      obtain ⟨-, hInside⟩ := ih
      have hWhole := splitGroup_append 0 lexemes
      rw [List.append_assoc] at hWhole
      refine ⟨⟨_, hWhole⟩, ?_⟩
      intro tokens depth hMember
      exact (hInside tokens depth hMember).trans (splitGroup_prefix_content 0 lexemes).length_le

/-- Every group that is entered in a body, at whatever level, has fewer lexemes than the body. -/
theorem scopeBody_entered_lt {budget tokens depth : Nat}
    (hEntered : Event.enteredGroup tokens depth ∈ (scopeBody budget scope lexemes).events) :
    tokens < lexemes.length := by
  cases lexemes with
  | nil => cases hEntered
  | cons lexeme lexemes =>
      have hLogs := scopeBody_logs budget scope (lexeme :: lexemes)
      exact Nat.lt_succ_of_le (hLogs.entered_le.2 tokens depth hEntered)

end Reading

namespace Checked

open Reading Grammar

namespace Session

/-- The run that reads the expressions of a session. There is room for as many levels of nesting as
lexemes are left. -/
def expressions (limit : Nat) (session : Session) : Run Expr :=
  expression (session.depth + session.rest.length) limit session.rest.length

def operands (limit : Nat) (session : Session) : Run Expr :=
  primary (session.depth + session.rest.length) limit (session.expressions limit)
    (group (session.depth + session.rest.length) limit session.rest.length)

def round (limit : Nat) (session : Session) : Option (Outcome (Option Statement) × Session) :=
  clause (session.expressions limit) (session.operands limit) session

/-- Reads all statements of a session, if `rounds` rounds are enough to see that no lexeme is
left. -/
def loop (limit rounds : Nat) (session : Session) :
    Option (Outcome (List Statement) × Session) :=
  statements (session.expressions limit) (session.operands limit) rounds session

def clauseReading (limit : Nat) (session : Session) : Outcome (Option Statement × List Lexeme) :=
  match session.rest with
  | [] => pure (none, [])
  | lexeme :: rest =>
      Reading.clause (session.scope limit)
        (Reading.expression (limit - session.depth) (session.scope limit))
        (operandWithin (limit - session.depth) (session.scope limit)) lexeme rest

def bodyReading (limit : Nat) (session : Session) : Outcome (List Statement) :=
  scopeBody (limit - session.depth) (session.scope limit) session.rest

variable {session : Session}

/-- Behind the keyword of a clause one lexeme fewer is left, which is the room that the expressions
of a session ask for. -/
theorem expressions_tracks (limit : Nat) (hSome : session.rest ≠ []) :
    Tracks (session.expressions limit) session.next
      (Reading.expression (limit - session.depth) (session.scope limit)) := by
  obtain ⟨hExpressions, -⟩ := room_suffices (session.depth + session.rest.length) limit
    session.rest.length
  exact expression_tracks hExpressions rfl (next_length_lt hSome (Nat.le_refl _))

theorem operands_tracks (limit : Nat) (hSome : session.rest ≠ []) :
    Tracks (session.operands limit) session.next
      (operandWithin (limit - session.depth) (session.scope limit)) := by
  obtain ⟨hExpressions, hGroups⟩ := room_suffices (session.depth + session.rest.length) limit
    session.rest.length
  exact primary_tracks hExpressions hGroups rfl
    (Nat.le_of_lt (next_length_lt hSome (Nat.le_refl _)))

/-- The reading of a clause takes its budget from the depth that the session has reached. -/
theorem clauseReading_cons {lexeme : Lexeme} {rest : List Lexeme} (limit : Nat)
    (hRest : session.rest = lexeme :: rest) :
    session.clauseReading limit = Reading.clause (session.scope limit)
      (Reading.expression (limit - session.depth) (session.scope limit))
      (operandWithin (limit - session.depth) (session.scope limit)) lexeme rest := by
  simp only [clauseReading, hRest]

/-- One round of the loop is the reading of one clause, and no check fails in it. -/
theorem round_follows (limit : Nat) (hSome : session.rest ≠ []) :
    Follows (clause (session.expressions limit) (session.operands limit)) session
      (session.clauseReading limit) := by
  obtain ⟨lexeme, rest, hRest⟩ := List.exists_cons_of_ne_nil hSome
  rw [clauseReading_cons limit hRest]
  exact clause_follows limit (expressions_tracks limit hSome) (operands_tracks limit hSome) hRest

/-- A clause that is read takes at least one lexeme. -/
theorem clauseReading_length_lt {limit : Nat} {value : Option Statement} {left : List Lexeme}
    (hSome : session.rest ≠ []) (hRead : (session.clauseReading limit).result = .ok (value, left)) :
    left.length < session.rest.length := by
  obtain ⟨lexeme, rest, hRest⟩ := List.exists_cons_of_ne_nil hSome
  rw [clauseReading_cons limit hRest] at hRead
  rw [hRest]
  exact Nat.lt_succ_of_le
    (clause_length_le ((reads_within _).1 _) (operandWithin_reads _ _) hRead)

/-- Where fewer lexemes are left than before, the cursor has gone on, up to the end at most. -/
theorem Reaches.position_lt {position : Nat} (hReaches : session.Reaches position)
    (hShorter : (session.moved position).rest.length < session.rest.length) :
    session.cursor.position < position ∧ position ≤ session.cursor.lexemes.length := by
  have hWithin := hReaches.within
  rw [rest_length, rest_length, position_moved, lexemes_moved] at hShorter
  omega

/-- With more rounds than lexemes, the loop ends by itself. -/
theorem loop_follows (limit : Nat) {rounds : Nat} (hRounds : session.rest.length < rounds) :
    Follows (statements (session.expressions limit) (session.operands limit) rounds) session
      (session.bodyReading limit).toEnd :=
  statements_follows limit ((reads_within _).1 _) (operandWithin_reads _ _)
    (session.expressions_tracks limit) (session.operands_tracks limit) hRounds (Nat.le_refl _)

end Session

/-- What follows a reading of all lexemes ends with a fault or with the cursor at the end. -/
theorem Follows.exists_moved {α : Type} {run : Run α} {session : Session} {outcome : Outcome α}
    (hRun : Follows run session outcome.toEnd) :
    ∃ position, run session = some (outcome, session.moved position) ∧
      ((∃ fault, outcome.result = .error fault) ∨
        (session.moved position).cursor.isAtEnd = true) := by
  obtain ⟨position, -, hGives, hLeft⟩ := hRun
  obtain ⟨events, fault | value⟩ := outcome
  · exact ⟨position, hGives, .inl ⟨fault, rfl⟩⟩
  · exact ⟨position, hGives, .inr (Session.isAtEnd_iff.mpr (hLeft value [] rfl))⟩

/-- The loop over the statements of a session goes forward and comes to an end, whatever the
lexemes, the flags, the depth and the limit are. Where a lexeme is left, a round ends with a fault
or takes the cursor further on, up to the end at most. Every group that is entered, at whatever
level, is read in a session of its own, which has fewer lexemes than are left in the one around it.
So as many rounds as lexemes are enough, with one more to see that none is left. No round fails the
check that it takes a lexeme, and without a fault the cursor is at the end. -/
theorem session_progress (limit : Nat) (session : Session) :
    (session.cursor.isAtEnd = false → ∃ position,
      session.round limit = some (⟨(session.clauseReading limit).events,
        (session.clauseReading limit).result.map Prod.fst⟩, session.moved position) ∧
      ((∃ fault, (session.clauseReading limit).result = .error fault) ∨
        (∃ value, (session.clauseReading limit).result =
          .ok (value, (session.moved position).rest)) ∧
        session.cursor.position < position ∧ position ≤ session.cursor.lexemes.length)) ∧
    (∀ tokens depth, Event.enteredGroup tokens depth ∈ (session.bodyReading limit).events →
      tokens < session.rest.length) ∧
    ∃ position,
      session.loop limit (session.rest.length + 1) =
        some (session.bodyReading limit, session.moved position) ∧
      ((∃ fault, (session.bodyReading limit).result = .error fault) ∨
        (session.moved position).cursor.isAtEnd = true) := by
  refine ⟨?_, fun _ _ => scopeBody_entered_lt,
    (session.loop_follows limit (Nat.lt_succ_self _)).exists_moved⟩
  intro hOpen
  have hSome : session.rest ≠ [] := by
    rwa [← Bool.not_eq_true, Session.isAtEnd_iff] at hOpen
  obtain ⟨position, hReaches, hRun, hLeft⟩ := session.round_follows limit hSome
  refine ⟨position, hRun, ?_⟩
  cases hResult : (session.clauseReading limit).result with
  | error fault => exact .inl ⟨fault, rfl⟩
  | ok read =>
      obtain ⟨value, left⟩ := read
      obtain rfl := hLeft value left hResult
      have hShorter := Session.clauseReading_length_lt hSome hResult
      exact .inr ⟨⟨value, rfl⟩, hReaches.position_lt hShorter⟩

-- Each of these words is a clause of its own, so that no round can be spared.
example :
    let session := Session.ofLexemes {} 13 (QueryOutline.lexemes "RETURN RETURN")
    (session.loop 64 3).isSome = true ∧ (session.loop 64 2).isNone = true := by
  decide +kernel

end Checked

end QueryOutline
