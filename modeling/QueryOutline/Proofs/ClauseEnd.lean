import Mathlib.Order.Bounds.Defs
import QueryOutline.Proofs.Checked.Expressions
import QueryOutline.Proofs.Grammar.Enclosure

/-! The place at which a clause ends that is stepped over. The loop over its lexemes counts the
parentheses that are open, and it has a case of its own for a count of zero. The place can be told
without such a loop: it is the first one that can end a clause, by the parentheses that were opened
and closed since its start, in whatever order. -/

namespace QueryOutline

namespace Grammar

open Reading

section Balance

/-- How many more parentheses are opened than closed from the place `start` on and before the place
`stop`. -/
def balance (lexemes : List Lexeme) (start stop : Nat) : Int :=
  markCount .openParen (lexemes.extract start stop) -
    markCount .closeParen (lexemes.extract start stop)

theorem balance_self (lexemes : List Lexeme) (start : Nat) : balance lexemes start start = 0 := by
  simp [balance, markCount]

theorem extract_succ {lexemes : List Lexeme} {start place : Nat} {lexeme : Lexeme}
    (hStart : start ≤ place) (hLexeme : lexemes[place]? = some lexeme) :
    lexemes.extract start (place + 1) = lexemes.extract start place ++ [lexeme] := by
  have hSize : place + 1 - start = place - start + 1 := by omega
  have hPlace : start + (place - start) = place := by omega
  rw [List.extract_eq_take_drop, List.extract_eq_take_drop, hSize, List.take_add_one,
    List.getElem?_drop, hPlace, hLexeme]
  rfl

/-- A place further on, the balance has changed as the count of open parentheses has, unless one is
closed where none is open. -/
theorem balance_succ {lexemes : List Lexeme} {start place nesting : Nat} {lexeme : Lexeme}
    (hStart : start ≤ place) (hLexeme : lexemes[place]? = some lexeme)
    (hBalance : balance lexemes start place = nesting)
    (hClose : lexeme.token = .mark .closeParen → nesting ≠ 0) :
    balance lexemes start (place + 1) = nestingBehind nesting lexeme := by
  have hNil : ∀ sign, markCount sign [] = 0 := fun _ => List.countP_nil
  unfold balance at hBalance ⊢
  rw [extract_succ hStart hLexeme, markCount_append, markCount_append]
  by_cases hOpen : lexeme.token = .mark .openParen
  · rw [nestingBehind_open hOpen, markCount_cons_self hOpen, markCount_cons_ne (by simp [hOpen]),
      hNil, hNil]
    omega
  by_cases hToken : lexeme.token = .mark .closeParen
  · have hInside := hClose hToken
    rw [nestingBehind_close hToken, markCount_cons_self hToken, markCount_cons_ne hOpen, hNil, hNil]
    omega
  · rw [nestingBehind_plain hOpen hToken, markCount_cons_ne hOpen, markCount_cons_ne hToken, hNil,
      hNil]
    omega

end Balance

section Ends

/-- The places that can end a clause from the place `start` on. -/
inductive ClauseEnd (lexemes : List Lexeme) (start place : Nat) : Prop where
  /-- No lexeme is left. -/
  | last (hLength : lexemes.length ≤ place)
  /-- The next clause starts, outside of all parentheses. -/
  | next {lexeme : Lexeme} (hLexeme : lexemes[place]? = some lexeme)
      (hBalance : balance lexemes start place = 0) (hToken : startsClause lexeme.token = true)
  /-- A parenthesis is closed that has not been opened. -/
  | closing {lexeme : Lexeme} (hLexeme : lexemes[place]? = some lexeme)
      (hBalance : balance lexemes start place = 0) (hToken : lexeme.token = .mark .closeParen)

/-- The place behind a clause that ends at the place `stop`. A closing parenthesis is part of the
clause. -/
def placeBehind (lexemes : List Lexeme) (stop : Nat) : Nat :=
  if lexemes[stop]?.map Lexeme.token = some (.mark .closeParen) then stop + 1 else stop

/-- What the loop over a clause knows at a place, with `nesting` parentheses open: they are the
balance since the start of the clause, which was never negative on the way, and the clause could end
at no place before. -/
structure Scanned (lexemes : List Lexeme) (start place nesting : Nat) : Prop where
  start_le : start ≤ place
  balance_eq : balance lexemes start place = nesting
  balance_nonneg : ∀ earlier, start ≤ earlier → earlier ≤ place →
    0 ≤ balance lexemes start earlier
  not_end : ∀ earlier, start ≤ earlier → earlier < place → ¬ ClauseEnd lexemes start earlier

variable {lexemes : List Lexeme} {start place nesting : Nat} {lexeme : Lexeme}

/-- At the start nothing is behind, so that nothing could have ended the clause. -/
theorem scanned_start (lexemes : List Lexeme) (start : Nat) : Scanned lexemes start start 0 where
  start_le := Nat.le_refl _
  balance_eq := balance_self lexemes start
  balance_nonneg earlier hStart hPlace := by
    obtain rfl := Nat.le_antisymm hStart hPlace
    exact Int.le_of_eq (balance_self lexemes start).symm
  not_end _ hStart hBefore := absurd hBefore (Nat.not_lt.mpr hStart)

/-- Where the loop goes on, the clause cannot end. -/
theorem Scanned.not_clauseEnd (hScanned : Scanned lexemes start place nesting)
    (hLexeme : lexemes[place]? = some lexeme)
    (hNext : ¬ (nesting = 0 ∧ startsClause lexeme.token = true))
    (hClosing : ¬ (nesting = 0 ∧ lexeme.token = .mark .closeParen)) :
    ¬ ClauseEnd lexemes start place := by
  have hCount := hScanned.balance_eq
  intro hEnd
  cases hEnd with
  | last hLength =>
      rw [List.getElem?_eq_none hLength] at hLexeme
      cases hLexeme
  | next hFound hBalance hToken =>
      obtain rfl : lexeme = _ := Option.some.inj (hLexeme.symm.trans hFound)
      exact hNext ⟨by omega, hToken⟩
  | closing hFound hBalance hToken =>
      obtain rfl : lexeme = _ := Option.some.inj (hLexeme.symm.trans hFound)
      exact hClosing ⟨by omega, hToken⟩

/-- One round of the loop. -/
theorem Scanned.succ (hScanned : Scanned lexemes start place nesting)
    (hLexeme : lexemes[place]? = some lexeme)
    (hNext : ¬ (nesting = 0 ∧ startsClause lexeme.token = true))
    (hClosing : ¬ (nesting = 0 ∧ lexeme.token = .mark .closeParen)) :
    Scanned lexemes start (place + 1) (nestingBehind nesting lexeme) := by
  have hBalance : balance lexemes start (place + 1) = nestingBehind nesting lexeme :=
    balance_succ hScanned.start_le hLexeme hScanned.balance_eq
      fun hToken hZero => hClosing ⟨hZero, hToken⟩
  refine ⟨Nat.le_succ_of_le hScanned.start_le, hBalance, ?_, ?_⟩
  · intro earlier hStart hPlace
    rcases Nat.le_succ_iff.mp hPlace with hPlace | rfl
    · exact hScanned.balance_nonneg earlier hStart hPlace
    · rw [hBalance]
      exact Int.natCast_nonneg _
  · intro earlier hStart hBefore
    rcases Nat.lt_succ_iff_lt_or_eq.mp hBefore with hBefore | rfl
    · exact hScanned.not_end earlier hStart hBefore
    · exact hScanned.not_clauseEnd hLexeme hNext hClosing

/-- The loop goes on from every place up to one that ends the clause. -/
theorem Scanned.exists_end (hScanned : Scanned lexemes start place nesting) :
    ∃ stop last, Scanned lexemes start stop last ∧ ClauseEnd lexemes start stop ∧
      afterClause nesting (lexemes.drop place) = lexemes.drop (placeBehind lexemes stop) := by
  -- By induction on the lexemes that are left. The place and the count change from round to round.
  generalize hRest : lexemes.drop place = rest
  induction rest generalizing place nesting with
  | nil =>
      have hLength : lexemes.length ≤ place := List.drop_eq_nil_iff.mp hRest
      refine ⟨place, nesting, hScanned, .last hLength, ?_⟩
      rw [placeBehind, List.getElem?_eq_none hLength, if_neg (by simp), hRest]
      rfl
  | cons lexeme rest ih =>
      have hLexeme : lexemes[place]? = some lexeme := by
        rw [← List.head?_drop, hRest]
        rfl
      have hBehind : lexemes.drop (place + 1) = rest := by
        rw [← List.tail_drop, hRest]
        rfl
      have hCount := hScanned.balance_eq
      rw [afterClause_cons]
      by_cases hNext : nesting = 0 ∧ startsClause lexeme.token = true
      · obtain ⟨rfl, hToken⟩ := hNext
        have hOther : lexeme.token ≠ .mark .closeParen := by
          intro hClose
          simp [hClose, startsClause] at hToken
        refine ⟨place, 0, hScanned, .next hLexeme hCount hToken, ?_⟩
        rw [if_pos ⟨rfl, hToken⟩, placeBehind, hLexeme, if_neg (by simpa using hOther), hRest]
      · rw [if_neg hNext]
        by_cases hClosing : nesting = 0 ∧ lexeme.token = .mark .closeParen
        · obtain ⟨rfl, hToken⟩ := hClosing
          refine ⟨place, 0, hScanned, .closing hLexeme hCount hToken, ?_⟩
          rw [if_pos ⟨rfl, hToken⟩, placeBehind, hLexeme, if_pos (by simp [hToken]), hBehind]
        · rw [if_neg hClosing]
          exact ih (hScanned.succ hLexeme hNext hClosing) hBehind

end Ends

end Grammar

namespace Checked

open Reading Grammar

/-- The lexemes that are left tell the positions apart that a cursor can go to. -/
theorem Session.Reaches.eq_of_rest_eq {session : Session} {first second : Nat}
    (hFirst : session.Reaches first) (hSecond : session.Reaches second)
    (hRest : (session.moved first).rest = (session.moved second).rest) : first = second := by
  have hLength := congrArg List.length hRest
  simp only [Session.rest_length, Session.position_moved, Session.lexemes_moved] at hLength
  obtain ⟨hForward, hWithin⟩ := hFirst
  obtain ⟨hFurther, hEnd⟩ := hSecond
  omega

/-- A cursor can go behind the clause that starts at its position. -/
theorem reaches_placeBehind {session : Session} {stop : Nat}
    (hStop : IsLeast {place | session.cursor.position ≤ place ∧
      ClauseEnd session.cursor.lexemes session.cursor.position place} stop) :
    session.Reaches (placeBehind session.cursor.lexemes stop) := by
  obtain ⟨⟨hStart, hEnd⟩, hLeast⟩ := hStop
  have hWithin : stop ≤ max session.cursor.position session.cursor.lexemes.length :=
    hLeast ⟨Nat.le_max_left _ _, .last (Nat.le_max_right _ _)⟩
  unfold placeBehind
  split
  · rename_i hClose
    obtain ⟨lexeme, hLexeme, -⟩ := Option.map_eq_some_iff.mp hClose
    obtain ⟨hSpace, -⟩ := List.getElem?_eq_some_iff.mp hLexeme
    exact ⟨Nat.le_succ_of_le hStart, Nat.le_trans hSpace (Nat.le_max_right _ _)⟩
  · exact ⟨hStart, hWithin⟩

/-- A clause is stepped over up to the first place that can end it: the end of the lexemes, a
keyword that starts the next clause or a closing parenthesis, the latter two where as many
parentheses have been closed as opened since the clause started. The cursor stops in front of the
keyword and behind the parenthesis. On the way, no more parentheses are closed than opened, and
every keyword that starts a clause is within some. -/
theorem skip_stops_first (limit : Nat) (session : Session) :
    ∃ stop, IsLeast {place | session.cursor.position ≤ place ∧
        ClauseEnd session.cursor.lexemes session.cursor.position place} stop ∧
      skip session = some (⟨(skipClause (session.scope limit) session.rest).events, .ok ()⟩,
        session.moved (placeBehind session.cursor.lexemes stop)) ∧
      (skipClause (session.scope limit) session.rest).result =
        .ok (session.moved (placeBehind session.cursor.lexemes stop)).rest ∧
      (∀ place, session.cursor.position ≤ place → place ≤ stop →
        0 ≤ balance session.cursor.lexemes session.cursor.position place) ∧
      ∀ place lexeme, session.cursor.position ≤ place → place < stop →
        session.cursor.lexemes[place]? = some lexeme → startsClause lexeme.token = true →
          balance session.cursor.lexemes session.cursor.position place ≠ 0 := by
  obtain ⟨stop, last, hScanned, hEnd, hAfter⟩ :=
    (scanned_start session.cursor.lexemes session.cursor.position).exists_end
  have hStop : IsLeast {place | session.cursor.position ≤ place ∧
      ClauseEnd session.cursor.lexemes session.cursor.position place} stop := by
    refine ⟨⟨hScanned.start_le, hEnd⟩, ?_⟩
    rintro place ⟨hStart, hPlace⟩
    exact Nat.not_lt.mp fun hBefore => hScanned.not_end place hStart hBefore hPlace
  obtain ⟨position, hReaches, hRun, hLeft⟩ := skip_follows limit session
  have hRest : (session.moved position).rest = afterClause 0 session.rest := hLeft () _ rfl
  obtain rfl : position = placeBehind session.cursor.lexemes stop :=
    hReaches.eq_of_rest_eq (reaches_placeBehind hStop) (hRest.trans hAfter)
  refine ⟨stop, hStop, hRun, congrArg Except.ok hRest.symm, hScanned.balance_nonneg, ?_⟩
  intro place lexeme hStart hBefore hLexeme hToken hBalance
  exact hScanned.not_end place hStart hBefore (.next hLexeme hBalance hToken)

-- The first keyword is within parentheses. The last closing parenthesis has no partner.
example :
    (skip (.ofLexemes {} 18 (QueryOutline.lexemes "a (LIMIT b)) LIMIT"))).map
      (fun read => read.2.cursor.position) = some 6 := by
  decide +kernel

end Checked

end QueryOutline
