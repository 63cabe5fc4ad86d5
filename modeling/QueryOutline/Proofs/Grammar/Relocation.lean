import Mathlib.Data.List.Forall2
import QueryOutline.Proofs.Grammar.Statements
import QueryOutline.Proofs.Lexeme.Joining

/-! A reading decides by tokens alone. Where the lexemes stand shows in the offsets of faults and
nowhere else, and the limit of nesting shows in the fault that it is exceeded. So two readings of
the same tokens with the same budget end in the same way, wherever the tokens stand. -/

namespace QueryOutline

open Reading Grammar

/-- How two readings of the same tokens lie to each other: which offset of the first becomes which
offset of the second, and the limits of nesting that they report. -/
structure Relocation where
  Moves : Nat → Nat → Prop
  limit : Nat
  newLimit : Nat

namespace Relocation

/-- The same fault, at an offset that the relocation moves. -/
inductive Faults (place : Relocation) : Fault → Fault → Prop where
  | expectedVariable {offset moved : Nat} (hMoves : place.Moves offset moved) :
      place.Faults (.expectedVariable offset) (.expectedVariable moved)
  | expectedCollection {offset moved : Nat} (hMoves : place.Moves offset moved) :
      place.Faults (.expectedCollection offset) (.expectedCollection moved)
  | expectedExpression {offset moved : Nat} {found : Option Token}
      (hMoves : place.Moves offset moved) :
      place.Faults (.expectedExpression offset found) (.expectedExpression moved found)
  | unterminatedString {offset moved : Nat} (hMoves : place.Moves offset moved) :
      place.Faults (.unterminatedString offset) (.unterminatedString moved)
  | nestingTooDeep :
      place.Faults (.nestingTooDeep place.limit) (.nestingTooDeep place.newLimit)

def Lexemes (place : Relocation) : List Lexeme → List Lexeme → Prop :=
  List.Forall₂ fun lexeme moved =>
    lexeme.token = moved.token ∧ place.Moves lexeme.start moved.start

/-- Scopes in which the same is read: both omit bodies or both keep them. Which of the reasons there
are for omitting them holds makes no difference. -/
structure Scopes (place : Relocation) (scope moved : Scope) : Prop where
  limit : scope.limit = place.limit
  newLimit : moved.limit = place.newLimit
  omits : scope.omitsBodies = moved.omitsBodies
  endOffset : place.Moves scope.endOffset moved.endOffset

/-- Values that are related, or the same fault. -/
inductive Results (place : Relocation) {α β : Type} (values : α → β → Prop) :
    Except Fault α → Except Fault β → Prop where
  | ok {value : α} {moved : β} (hValues : values value moved) :
      place.Results values (.ok value) (.ok moved)
  | error {fault moved : Fault} (hFaults : place.Faults fault moved) :
      place.Results values (.error fault) (.error moved)

/-- Outcomes whose results are related, whatever their events. -/
def Outcomes (place : Relocation) {α β : Type} (values : α → β → Prop) (outcome : Outcome α)
    (moved : Outcome β) : Prop :=
  place.Results values outcome.result moved.result

/-- The same value, with the same tokens behind it. -/
def Reads (place : Relocation) {α : Type} (found moved : α × List Lexeme) : Prop :=
  found.1 = moved.1 ∧ place.Lexemes found.2 moved.2

def Readers (place : Relocation) {α : Type} (reader moved : Reader α) : Prop :=
  ∀ ⦃lexemes movedLexemes : List Lexeme⦄, place.Lexemes lexemes movedLexemes →
    place.Outcomes place.Reads (reader lexemes) (moved movedLexemes)

/-- Readers of groups that read the same from the same tokens. -/
def GroupReaders (place : Relocation)
    (inside moved : Scope → List Lexeme → Outcome (List Statement)) : Prop :=
  ∀ ⦃scope movedScope : Scope⦄ ⦃lexemes movedLexemes : List Lexeme⦄,
    place.Scopes scope movedScope → place.Lexemes lexemes movedLexemes →
    place.Outcomes Eq (inside scope lexemes) (moved movedScope movedLexemes)

variable {place : Relocation}

section Outcomes

variable {α β γ δ : Type} {values : α → β → Prop} {others : γ → δ → Prop}

theorem Outcomes.pure {value : α} {moved : β} (hValues : values value moved) :
    place.Outcomes values (Pure.pure value) (Pure.pure moved) :=
  .ok hValues

theorem Outcomes.fail {fault moved : Fault} (hFaults : place.Faults fault moved) :
    place.Outcomes values (.fail fault) (.fail moved) :=
  .error hFaults

/-- Related outcomes stay related when each goes on from its own value. A fault of the first part
ends both readings, so that nothing is asked of what would have come next. -/
theorem Outcomes.bind {first : Outcome α} {moved : Outcome β} {next : α → Outcome γ}
    {movedNext : β → Outcome δ} (hFirst : place.Outcomes values first moved)
    (hNext : ∀ value movedValue, values value movedValue →
      place.Outcomes others (next value) (movedNext movedValue)) :
    place.Outcomes others (first >>= next) (moved >>= movedNext) := by
  unfold Outcomes at *
  rw [Outcome.result_bind, Outcome.result_bind]
  generalize first.result = result at hFirst
  generalize moved.result = movedResult at hFirst
  cases hFirst with
  | ok hValues => exact hNext _ _ hValues
  | error hFaults => exact .error hFaults

/-- What goes on behind a value goes on from the same value and the same tokens. -/
theorem Outcomes.andThen {first moved : Outcome (α × List Lexeme)}
    {next movedNext : α × List Lexeme → Outcome γ} {others : γ → γ → Prop}
    (hFirst : place.Outcomes place.Reads first moved)
    (hNext : ∀ value {rest movedRest}, place.Lexemes rest movedRest →
      place.Outcomes others (next (value, rest)) (movedNext (value, movedRest))) :
    place.Outcomes others (first >>= next) (moved >>= movedNext) := by
  apply hFirst.bind
  rintro ⟨value, rest⟩ ⟨_, movedRest⟩ ⟨rfl, hRest⟩
  exact hNext value hRest

end Outcomes

section Lexemes

variable {lexemes moved : List Lexeme}

/-- Either nothing is left on both sides, or the same token and then the rest. -/
theorem Lexemes.cases (hLexemes : place.Lexemes lexemes moved) :
    (lexemes = [] ∧ moved = []) ∨
      ∃ lexeme rest movedLexeme movedRest, lexemes = lexeme :: rest ∧
        moved = movedLexeme :: movedRest ∧ lexeme.token = movedLexeme.token ∧
        place.Moves lexeme.start movedLexeme.start ∧ place.Lexemes rest movedRest := by
  cases hLexemes with
  | nil => exact .inl ⟨rfl, rfl⟩
  | cons hFirst hRest => exact .inr ⟨_, _, _, _, rfl, rfl, hFirst.1, hFirst.2, hRest⟩

/-- The offset that a fault would name is moved as well: that of the next lexeme or, behind the last
one, that of the end of the scope. -/
theorem Scopes.offset {scope movedScope : Scope} (hScopes : place.Scopes scope movedScope)
    (hLexemes : place.Lexemes lexemes moved) :
    place.Moves (scope.offset lexemes) (movedScope.offset moved) := by
  cases hLexemes with
  | nil => exact hScopes.endOffset
  | cons hFirst _ => exact hFirst.2

/-- A token is taken on both sides or on neither. Offsets are not looked at. -/
theorem Lexemes.eat? (hLexemes : place.Lexemes lexemes moved) (token : Token) :
    (Reading.eat? token lexemes = none ∧ Reading.eat? token moved = none) ∨
      ∃ rest movedRest, Reading.eat? token lexemes = some rest ∧
        Reading.eat? token moved = some movedRest ∧ place.Lexemes rest movedRest := by
  cases hLexemes with
  | nil => exact .inl ⟨rfl, rfl⟩
  | @cons lexeme movedLexeme rest movedRest hFirst hRest =>
      by_cases hToken : lexeme.token = token
      · have hMoved : movedLexeme.token = token := hFirst.1.symm.trans hToken
        exact .inr ⟨rest, movedRest, by simp [Reading.eat?, hToken], by simp [Reading.eat?, hMoved],
          hRest⟩
      · have hMoved : movedLexeme.token ≠ token := hFirst.1 ▸ hToken
        exact .inl ⟨by simp [Reading.eat?, hToken], by simp [Reading.eat?, hMoved]⟩

theorem Lexemes.eatOptional (hLexemes : place.Lexemes lexemes moved) (token : Token) :
    place.Lexemes (Reading.eatOptional token lexemes) (Reading.eatOptional token moved) := by
  unfold Reading.eatOptional
  obtain ⟨hNone, hMoved⟩ | ⟨rest, movedRest, hEaten, hMoved, hRest⟩ := hLexemes.eat? token
  · simpa [hNone, hMoved] using hLexemes
  · simpa [hEaten, hMoved] using hRest

/-- The same operator is next on both sides, whatever tokens are taken for operators. -/
theorem Lexemes.nextOperator? (hLexemes : place.Lexemes lexemes moved)
    (operator? : Token → Option Operator) :
    (Reading.nextOperator? operator? lexemes = none ∧
      Reading.nextOperator? operator? moved = none) ∨
      ∃ operator rest movedRest, Reading.nextOperator? operator? lexemes = some (operator, rest) ∧
        Reading.nextOperator? operator? moved = some (operator, movedRest) ∧
        place.Lexemes rest movedRest := by
  cases hLexemes with
  | nil => exact .inl ⟨rfl, rfl⟩
  | @cons lexeme movedLexeme rest movedRest hFirst hRest =>
      simp only [Reading.nextOperator?, ← hFirst.1]
      cases operator? lexeme.token with
      | none => exact .inl ⟨rfl, rfl⟩
      | some operator => exact .inr ⟨operator, rest, movedRest, rfl, rfl, hRest⟩

theorem Lexemes.direction (hLexemes : place.Lexemes lexemes moved) :
    place.Reads (Reading.direction lexemes) (Reading.direction moved) := by
  unfold Reading.direction
  obtain ⟨hNone, hMoved⟩ | ⟨rest, movedRest, hEaten, hMoved, hRest⟩ :=
    hLexemes.eat? (.keyword .desc)
  · simp only [hNone, hMoved]
    exact ⟨rfl, hLexemes.eatOptional _⟩
  · simp only [hEaten, hMoved]
    exact ⟨rfl, hRest⟩

/-- A run of properties is as long on both sides. It ends at the first dot without a name behind it,
and what is no name on one side is none on the other. -/
theorem Lexemes.members (hLexemes : place.Lexemes lexemes moved) (object : Expr) :
    place.Reads (Reading.members object lexemes) (Reading.members object moved) := by
  fun_induction Reading.members object lexemes generalizing moved with
  | case1 object _ _ property _ _ rest ih =>
      cases hLexemes with
      | cons hDot hMore =>
          cases hMore with
          | cons hName hRest =>
              rw [members_property hDot.1.symm hName.1.symm]
              exact ih hRest
  | case2 object lexemes hNone =>
      have hMoved : ∀ dot named rest name, moved = dot :: named :: rest →
          dot.token = .mark .dot → named.token ≠ .identifier name := by
        rintro dot named rest name rfl hDot hName
        obtain ⟨⟨_, _, _⟩, _, hFirst, hMore, rfl⟩ := List.forall₂_cons_right_iff.mp hLexemes
        obtain ⟨⟨_, _, _⟩, _, hSecond, -, rfl⟩ := List.forall₂_cons_right_iff.mp hMore
        obtain rfl := hFirst.1.trans hDot
        obtain rfl := hSecond.1.trans hName
        exact hNone _ _ _ _ _ _ rfl
      rw [members_eq_self hMoved]
      exact ⟨rfl, hLexemes⟩

/-- A clause that is stepped over ends at the same token, however many parentheses are open before.
-/
theorem Lexemes.afterClause (hLexemes : place.Lexemes lexemes moved) (nesting : Nat) :
    place.Lexemes (Reading.afterClause nesting lexemes) (Reading.afterClause nesting moved) := by
  induction hLexemes generalizing nesting with
  | nil => exact .nil
  | @cons lexeme movedLexeme rest movedRest hFirst hRest ih =>
      unfold Reading.afterClause
      rw [← hFirst.1]
      split
      · split
        · exact .cons hFirst hRest
        · exact ih nesting
      · exact ih (nesting + 1)
      · cases nesting with
        | zero => exact hRest
        | succ nesting => exact ih nesting
      · exact ih nesting

structure Groups (place : Relocation) (group moved : Group) : Prop where
  content : place.Lexemes group.content moved.content
  closing : place.Lexemes group.closing.toList moved.closing.toList
  rest : place.Lexemes group.rest moved.rest

/-- The same tokens make the same group. Its closing parenthesis is there on both sides or on
neither, and the offset at which the group ends is left to `Scopes.ofGroup`. -/
theorem Lexemes.splitGroup (hLexemes : place.Lexemes lexemes moved) (nesting : Nat) :
    place.Groups (Reading.splitGroup nesting lexemes) (Reading.splitGroup nesting moved) := by
  induction hLexemes generalizing nesting with
  | nil => exact ⟨.nil, .nil, .nil⟩
  | @cons lexeme movedLexeme rest movedRest hFirst hRest ih =>
      have hPush : ∀ nesting, place.Groups ((Reading.splitGroup nesting rest).push lexeme)
          ((Reading.splitGroup nesting movedRest).push movedLexeme) :=
        fun nesting => ⟨.cons hFirst (ih nesting).content, (ih nesting).closing, (ih nesting).rest⟩
      unfold Reading.splitGroup
      rw [← hFirst.1]
      split
      · exact hPush (nesting + 1)
      · cases nesting with
        | zero => exact ⟨.nil, .cons hFirst .nil, hRest⟩
        | succ nesting => exact hPush nesting
      · exact hPush nesting

/-- The scopes of the two groups are related again. They end at the closing parentheses or, if
neither group is closed, where the scopes around them end. -/
theorem Scopes.ofGroup {scope movedScope : Scope} {group moved : Group}
    (hScopes : place.Scopes scope movedScope) (hGroups : place.Groups group moved) :
    place.Scopes (scope.ofGroup group) (movedScope.ofGroup moved) where
  limit := hScopes.limit
  newLimit := hScopes.newLimit
  omits := rfl
  endOffset := by
    have hClosing := hGroups.closing
    unfold Scope.ofGroup
    cases hGroup : group.closing with
    | none =>
        cases hMoved : moved.closing with
        | none => exact hScopes.endOffset
        | some _ => simp [hGroup, hMoved, Lexemes] at hClosing
    | some closing =>
        cases hMoved : moved.closing with
        | none => simp [hGroup, hMoved, Lexemes] at hClosing
        | some _ =>
            simp only [hGroup, hMoved, Option.toList, Lexemes, List.forall₂_cons] at hClosing
            exact hClosing.1.2

end Lexemes

section Expressions

variable {α : Type} {scope movedScope : Scope} {reader moved : Reader Expr}
  {inside movedInside : Scope → List Lexeme → Outcome (List Statement)}

/-- Lists have as many items on both sides, if both have the same bound on their commas. -/
theorem Readers.separated {item moved : Reader α} (hItem : place.Readers item moved)
    (rounds : Nat) :
    place.Readers (Reading.separated item rounds) (Reading.separated moved rounds) := by
  induction rounds with
  | zero =>
      intro lexemes movedLexemes hLexemes
      exact (hItem hLexemes).andThen fun _ _ _ hRest => .pure ⟨rfl, hRest⟩
  | succ rounds ih =>
      intro lexemes movedLexemes hLexemes
      refine (hItem hLexemes).andThen fun first rest movedRest hRest => ?_
      obtain ⟨hNone, hMoved⟩ | ⟨after, movedAfter, hEaten, hMoved, hAfter⟩ :=
        hRest.eat? (.mark .comma)
      · simp only [hNone, hMoved]
        exact .pure ⟨rfl, hRest⟩
      · simp only [hEaten, hMoved]
        exact (ih hAfter).andThen fun _ _ _ hMore => .pure ⟨rfl, hMore⟩

/-- The bound on the commas is the number of lexemes, which is the same on both sides. -/
theorem Readers.commaSeparated {item moved : Reader α} (hItem : place.Readers item moved) :
    place.Readers (Reading.commaSeparated item) (Reading.commaSeparated moved) := by
  intro lexemes movedLexemes hLexemes
  unfold Reading.commaSeparated
  rw [← List.Forall₂.length_eq hLexemes]
  exact hItem.separated lexemes.length hLexemes

/-- The closing parenthesis of a call may be missing, but then it is on both sides. -/
theorem Readers.call (hArgument : place.Readers reader moved) (name : String) :
    place.Readers (Reading.call reader name) (Reading.call moved name) := by
  intro lexemes movedLexemes hLexemes
  unfold Reading.call callArguments
  obtain ⟨hNone, hMoved⟩ | ⟨after, movedAfter, hEaten, hMoved, hAfter⟩ :=
    hLexemes.eat? (.mark .closeParen)
  · simp only [hNone, hMoved]
    refine Outcomes.andThen ((hArgument.commaSeparated hLexemes).andThen fun _ _ _ hRest => ?_)
      fun _ _ _ hRest => .pure ⟨rfl, hRest⟩
    exact .pure ⟨rfl, hRest.eatOptional (.mark .closeParen)⟩
  · simp only [hEaten, hMoved]
    exact .pure ⟨rfl, hAfter⟩

/-- A group is read from its content alone. That it is not closed is an event, and events are left
out here. -/
theorem GroupReaders.subquery (hInside : place.GroupReaders inside movedInside)
    (hScopes : place.Scopes scope movedScope) :
    place.Readers (Reading.subquery scope inside) (Reading.subquery movedScope movedInside) := by
  intro lexemes movedLexemes hLexemes
  have hGroups := hLexemes.splitGroup 0
  unfold Outcomes
  rw [subquery_result, subquery_result]
  apply (hInside (hScopes.ofGroup hGroups) hGroups.content).bind
  rintro body _ rfl
  exact .ok ⟨rfl, hGroups.rest⟩

/-- Whether an operand starts here depends on the token and, for a keyword, on the one behind it. -/
theorem Lexemes.startsNoOperand {lexeme movedLexeme : Lexeme} {rest movedRest : List Lexeme}
    (hToken : lexeme.token = movedLexeme.token) (hRest : place.Lexemes rest movedRest)
    (hNone : StartsNoOperand lexeme rest) : StartsNoOperand movedLexeme movedRest := by
  unfold StartsNoOperand at *
  rw [← hToken]
  cases hCase : lexeme.token with
  | keyword word =>
      simp only [hCase] at hNone
      obtain ⟨-, hMoved⟩ | ⟨_, _, hOpen, -, -⟩ := hRest.eat? (.mark .openParen)
      · exact hMoved
      · simp [hNone] at hOpen
  | _ =>
      rw [hCase] at hNone
      exact hNone

/-- The fault names the token that was found, so that it is the same up to its offset. -/
theorem Faults.operandFault {lexeme movedLexeme : Lexeme}
    (hToken : lexeme.token = movedLexeme.token)
    (hStart : place.Moves lexeme.start movedLexeme.start) :
    place.Faults (Grammar.operandFault lexeme) (Grammar.operandFault movedLexeme) := by
  unfold Grammar.operandFault
  rw [← hToken]
  split
  · exact .unterminatedString hStart
  · exact .expectedExpression hStart

/-- Operands are told apart by `operand_cases`, which asks for tokens only, so that both readings
are in the same case. -/
theorem Readers.primary (hScopes : place.Scopes scope movedScope)
    (hArgument : place.Readers reader moved) (hInside : place.GroupReaders inside movedInside) :
    place.Readers (Reading.primary scope reader inside)
      (Reading.primary movedScope moved movedInside) := by
  intro lexemes movedLexemes hLexemes
  obtain ⟨rfl, rfl⟩ | ⟨lexeme, rest, movedLexeme, movedRest, rfl, rfl, hToken, hStart, hRest⟩ :=
    hLexemes.cases
  · exact .fail (.expectedExpression hScopes.endOffset)
  · rcases operand_cases lexeme rest with ⟨literal, hLiteral⟩ | ⟨name, hName⟩ |
      ⟨name, hName, hNoCall⟩ | ⟨name, arguments, hName, hOpen⟩ | hOpen | hNone
    · rw [primary_literal hLiteral, primary_literal (hToken ▸ hLiteral)]
      exact .pure ⟨rfl, hRest⟩
    · rw [primary_parameter hName, primary_parameter (hToken ▸ hName)]
      exact .pure (hRest.members _)
    · obtain ⟨-, hMoved⟩ | ⟨_, _, hCall, -, -⟩ := hRest.eat? (.mark .openParen)
      · rw [primary_name hName hNoCall, primary_name (hToken ▸ hName) hMoved]
        exact .pure (hRest.members _)
      · simp [hNoCall] at hCall
    · obtain ⟨hNoCall, -⟩ | ⟨_, movedArguments, hCall, hMoved, hInner⟩ :=
        hRest.eat? (.mark .openParen)
      · simp [hOpen] at hNoCall
      · obtain rfl := Option.some.inj (hOpen.symm.trans hCall)
        rw [primary_call hName hOpen, primary_call (hToken ▸ hName) hMoved]
        exact hArgument.call name hInner
    · rw [primary_group hOpen, primary_group (hToken ▸ hOpen)]
      exact hInside.subquery hScopes hRest
    · rw [primary_fault hNone, primary_fault (hRest.startsNoOperand hToken hNone)]
      exact .fail (.operandFault hToken hStart)

/-- There is at most one comparison, and it is there on both sides or on neither. -/
theorem Readers.comparison (hOperand : place.Readers reader moved) :
    place.Readers (Reading.comparison reader) (Reading.comparison moved) := by
  intro lexemes movedLexemes hLexemes
  refine (hOperand hLexemes).andThen fun left rest movedRest hRest => ?_
  obtain ⟨hNone, hMoved⟩ | ⟨operator, second, movedSecond, hNext, hMoved, hSecond⟩ :=
    hRest.nextOperator? comparison?
  · simp only [hNone, hMoved]
    exact .pure ⟨rfl, hRest⟩
  · simp only [hNext, hMoved]
    exact (hOperand hSecond).andThen fun _ _ _ hAfter => .pure ⟨rfl, hAfter⟩

/-- What has been read so far is the same on both sides, so that it need not be related to anything.
-/
theorem Readers.logicalTail (hOperand : place.Readers reader moved) (rounds : Nat) :
    ∀ left, place.Readers (Reading.logicalTail reader rounds left)
      (Reading.logicalTail moved rounds left) := by
  induction rounds with
  | zero => exact fun left _ _ hLexemes => .pure ⟨rfl, hLexemes⟩
  | succ rounds ih =>
      intro left lexemes movedLexemes hLexemes
      unfold Reading.logicalTail
      obtain ⟨hNone, hMoved⟩ | ⟨operator, second, movedSecond, hNext, hMoved, hSecond⟩ :=
        hLexemes.nextOperator? logicalOperator?
      · simp only [hNone, hMoved]
        exact .pure ⟨rfl, hLexemes⟩
      · simp only [hNext, hMoved]
        exact (hOperand hSecond).andThen fun right _ _ hRest => ih _ hRest

/-- The bound on the operators is the number of lexemes behind the first comparison, which is the
same on both sides. -/
theorem Readers.logical (hOperand : place.Readers reader moved) :
    place.Readers (Reading.logical reader) (Reading.logical moved) := by
  intro lexemes movedLexemes hLexemes
  refine (hOperand.comparison hLexemes).andThen fun first rest movedRest hRest => ?_
  simp only [← List.Forall₂.length_eq hRest]
  exact hOperand.comparison.logicalTail _ _ hRest

end Expressions

section Statements

variable {scope movedScope : Scope} {reader moved operand movedOperand : Reader Expr}

/-- A fault at the name of a variable is raised at the offset of whatever stands there, or of the
end. -/
theorem Readers.variableName (hScopes : place.Scopes scope movedScope) :
    place.Readers (Reading.variableName scope) (Reading.variableName movedScope) := by
  intro lexemes movedLexemes hLexemes
  have hOffset := hScopes.offset hLexemes
  obtain ⟨rfl, rfl⟩ | ⟨lexeme, rest, movedLexeme, movedRest, rfl, rfl, hToken, -, hRest⟩ :=
    hLexemes.cases
  · exact .fail (.expectedVariable hOffset)
  · obtain ⟨token, start, stop⟩ := lexeme
    obtain ⟨_, movedStart, movedStop⟩ := movedLexeme
    obtain rfl := hToken
    cases token with
    | identifier name => exact .pure ⟨rfl, hRest⟩
    | _ => exact .fail (.expectedVariable hOffset)

/-- A fault at the name of a collection is raised as one at the name of a variable is. -/
theorem Readers.collectionName (hScopes : place.Scopes scope movedScope) :
    place.Readers (Reading.collectionName scope) (Reading.collectionName movedScope) := by
  intro lexemes movedLexemes hLexemes
  obtain ⟨rfl, rfl⟩ | ⟨lexeme, rest, movedLexeme, movedRest, rfl, rfl, hToken, hStart, hRest⟩ :=
    hLexemes.cases
  · exact .fail (.expectedCollection hScopes.endOffset)
  · simp only [Reading.collectionName, ← hToken]
    cases collection? lexeme.token with
    | none => exact .fail (.expectedCollection hStart)
    | some name => exact .pure ⟨rfl, hRest⟩

theorem Readers.forClause (hScopes : place.Scopes scope movedScope) :
    place.Readers (Reading.forClause scope) (Reading.forClause movedScope) := by
  intro lexemes movedLexemes hLexemes
  refine (Readers.variableName hScopes hLexemes).andThen fun name rest movedRest hRest => ?_
  exact (Readers.collectionName hScopes (hRest.eatOptional _)).andThen
    fun _ _ _ hAfter => .pure ⟨rfl, hAfter⟩

/-- A clause is stepped over in any two scopes. The offsets of the scopes show in the event only. -/
theorem Outcomes.skipClause (scope movedScope : Scope) {lexemes movedLexemes : List Lexeme}
    (hLexemes : place.Lexemes lexemes movedLexemes) :
    place.Outcomes place.Lexemes (Reading.skipClause scope lexemes)
      (Reading.skipClause movedScope movedLexemes) :=
  .ok (hLexemes.afterClause 0)

/-- The scopes omit bodies or keep them together, so that the condition is read on both sides or on
neither. -/
theorem Readers.filterClause (hScopes : place.Scopes scope movedScope)
    (hExpression : place.Readers reader moved) :
    place.Readers (Reading.filterClause scope reader)
      (Reading.filterClause movedScope moved) := by
  intro lexemes movedLexemes hLexemes
  simp only [Reading.filterClause, ← hScopes.omits]
  split
  · exact (Outcomes.skipClause scope movedScope hLexemes).bind
      fun _ _ hRest => .pure ⟨rfl, hRest⟩
  · exact (hExpression hLexemes).andThen fun _ _ _ hRest => .pure ⟨rfl, hRest⟩

theorem Readers.criterion (hExpression : place.Readers reader moved) :
    place.Readers (Reading.criterion reader) (Reading.criterion moved) := by
  intro lexemes movedLexemes hLexemes
  refine (hExpression hLexemes).andThen fun key rest movedRest hRest => ?_
  obtain ⟨hOrder, hAfter⟩ := hRest.direction
  simp only [← hOrder]
  exact .pure ⟨rfl, hAfter⟩

/-- The keys are read on both sides or on neither, as the condition of a filter is. -/
theorem Readers.sortClause (hScopes : place.Scopes scope movedScope)
    (hExpression : place.Readers reader moved) :
    place.Readers (Reading.sortClause scope reader) (Reading.sortClause movedScope moved) := by
  intro lexemes movedLexemes hLexemes
  simp only [Reading.sortClause, ← hScopes.omits]
  split
  · exact (Outcomes.skipClause scope movedScope hLexemes).bind
      fun _ _ hRest => .pure ⟨rfl, hRest⟩
  · exact (hExpression.criterion.commaSeparated hLexemes).andThen
      fun _ _ _ hRest => .pure ⟨rfl, hRest⟩

theorem Readers.limitClause (hOperand : place.Readers reader moved) :
    place.Readers (Reading.limitClause reader) (Reading.limitClause moved) := by
  intro lexemes movedLexemes hLexemes
  refine (hOperand hLexemes).andThen fun first rest movedRest hRest => ?_
  obtain ⟨hNone, hMoved⟩ | ⟨second, movedSecond, hEaten, hMoved, hSecond⟩ :=
    hRest.eat? (.mark .comma)
  · simp only [hNone, hMoved]
    exact .pure ⟨rfl, hRest⟩
  · simp only [hEaten, hMoved]
    exact (hOperand hSecond).andThen fun _ _ _ hAfter => .pure ⟨rfl, hAfter⟩

theorem Readers.letClause (hScopes : place.Scopes scope movedScope)
    (hExpression : place.Readers reader moved) :
    place.Readers (Reading.letClause scope reader) (Reading.letClause movedScope moved) := by
  intro lexemes movedLexemes hLexemes
  refine (Readers.variableName hScopes hLexemes).andThen fun name rest movedRest hRest => ?_
  exact (hExpression (hRest.eatOptional _)).andThen fun _ _ _ hAfter => .pure ⟨rfl, hAfter⟩

theorem Readers.known {reader moved : Reader Statement} (hReader : place.Readers reader moved) :
    place.Readers (Reading.known reader) (Reading.known moved) :=
  fun _ _ hLexemes => (hReader hLexemes).andThen fun _ _ _ hRest => .pure ⟨rfl, hRest⟩

/-- One keyword starts the same kind of clause on both sides. A clause of no known kind is stepped
over without a fault. -/
theorem Readers.clause (hScopes : place.Scopes scope movedScope)
    (hExpression : place.Readers reader moved) (hOperand : place.Readers operand movedOperand)
    {lexeme movedLexeme : Lexeme} (hToken : lexeme.token = movedLexeme.token) :
    place.Readers (Reading.clause scope reader operand lexeme)
      (Reading.clause movedScope moved movedOperand movedLexeme) := by
  rcases clause_cases lexeme.token with hCase | hCase | hCase | hCase | hCase | hCase
  · simp only [Reading.clause, ← hToken, hCase]
    exact (Readers.forClause hScopes).known
  · simp only [Reading.clause, ← hToken, hCase]
    exact (Readers.filterClause hScopes hExpression).known
  · simp only [Reading.clause, ← hToken, hCase]
    exact (Readers.sortClause hScopes hExpression).known
  · simp only [Reading.clause, ← hToken, hCase]
    exact hOperand.limitClause.known
  · simp only [Reading.clause, ← hToken, hCase]
    exact (Readers.letClause hScopes hExpression).known
  · rw [clause_skipped hCase, clause_skipped (hToken ▸ hCase)]
    exact fun _ _ hLexemes => .ok ⟨rfl, hLexemes.afterClause 0⟩

/-- Both loops have the same bound, so that they stop after the same number of clauses. -/
theorem Outcomes.clauses (hScopes : place.Scopes scope movedScope)
    (hExpression : place.Readers reader moved) (hOperand : place.Readers operand movedOperand)
    (rounds : Nat) {lexemes movedLexemes : List Lexeme}
    (hLexemes : place.Lexemes lexemes movedLexemes) :
    place.Outcomes Eq (Reading.clauses scope reader operand rounds lexemes)
      (Reading.clauses movedScope moved movedOperand rounds movedLexemes) := by
  induction rounds generalizing lexemes movedLexemes with
  | zero => cases hLexemes <;> exact .pure rfl
  | succ rounds ih =>
      obtain ⟨rfl, rfl⟩ | ⟨lexeme, rest, movedLexeme, movedRest, rfl, rfl, hToken, -, hRest⟩ :=
        hLexemes.cases
      · exact .pure rfl
      · refine (Readers.clause hScopes hExpression hOperand hToken hRest).andThen
          fun statement after movedAfter hAfter => (ih hAfter).bind ?_
        rintro statements _ rfl
        exact .pure rfl

/-- The bound of the loop is the number of lexemes, which is the same on both sides. -/
theorem Outcomes.statements {inside movedInside : Scope → List Lexeme → Outcome (List Statement)}
    (hScopes : place.Scopes scope movedScope) (hExpression : place.Readers reader moved)
    (hInside : place.GroupReaders inside movedInside) {lexemes movedLexemes : List Lexeme}
    (hLexemes : place.Lexemes lexemes movedLexemes) :
    place.Outcomes Eq (Reading.statements scope reader inside lexemes)
      (Reading.statements movedScope moved movedInside movedLexemes) := by
  unfold Reading.statements
  rw [← List.Forall₂.length_eq hLexemes]
  exact .clauses hScopes hExpression (.primary hScopes hExpression hInside) _ hLexemes

end Statements

/-- Within one budget, the readers that take from it read the same from the same tokens. A step of
the induction takes one level from both readings. -/
theorem readers_within (place : Relocation) (budget : Nat) :
    (∀ {scope movedScope : Scope}, place.Scopes scope movedScope →
      place.Readers (expression budget scope) (expression budget movedScope)) ∧
    place.GroupReaders (groupBody budget) (groupBody budget) := by
  induction budget with
  | zero =>
      constructor
      · intro scope movedScope hScopes lexemes movedLexemes _
        simp only [expression, hScopes.limit, hScopes.newLimit]
        exact .fail .nestingTooDeep
      · intro scope movedScope lexemes movedLexemes hScopes _
        simp only [groupBody, hScopes.limit, hScopes.newLimit]
        exact .fail .nestingTooDeep
  | succ budget ih =>
      obtain ⟨hExpression, hGroups⟩ := ih
      constructor
      · intro scope movedScope hScopes
        exact (Readers.primary hScopes (hExpression hScopes) hGroups).logical
      · intro scope movedScope lexemes movedLexemes hScopes hLexemes
        exact Outcomes.statements hScopes (hExpression hScopes) hGroups hLexemes

/-- Statements are read from the same tokens in the same way, wherever these stand. -/
theorem Outcomes.scopeBody {scope movedScope : Scope} (hScopes : place.Scopes scope movedScope)
    {lexemes movedLexemes : List Lexeme} (hLexemes : place.Lexemes lexemes movedLexemes)
    (budget : Nat) :
    place.Outcomes Eq (Reading.scopeBody budget scope lexemes)
      (Reading.scopeBody budget movedScope movedLexemes) :=
  .statements hScopes ((place.readers_within budget).1 hScopes) (place.readers_within budget).2
    hLexemes

/-- Where lexemes stand makes no difference to whether they bind variables. -/
theorem Lexemes.letBound {lexemes moved : List Lexeme} (hLexemes : place.Lexemes lexemes moved)
    (options : Options) : options.letBound lexemes = options.letBound moved := by
  unfold Options.letBound
  congr 1
  induction hLexemes with
  | nil => rfl
  | cons hFirst _ ih => rw [List.any_cons, List.any_cons, hFirst.1, ih]

end Relocation

section Shift

/-- The fault so many bytes further on. A fault without an offset stays as it is. -/
def Fault.shift (bytes : Nat) : Fault → Fault
  | .expectedVariable offset => .expectedVariable (offset + bytes)
  | .expectedCollection offset => .expectedCollection (offset + bytes)
  | .expectedExpression offset found => .expectedExpression (offset + bytes) found
  | .unterminatedString offset => .unterminatedString (offset + bytes)
  | .nestingTooDeep limit => .nestingTooDeep limit

/-- The relocation of all offsets by the same number of bytes. -/
def Relocation.shift (bytes limit newLimit : Nat) : Relocation :=
  ⟨fun offset moved => moved = offset + bytes, limit, newLimit⟩

namespace Relocation

/-- Shifted lexemes are a case of moved lexemes. The limits of nesting may be any two. -/
theorem lexemes_shift (bytes limit newLimit : Nat) (lexemes : List Lexeme) :
    (shift bytes limit newLimit).Lexemes lexemes (lexemes.map (Lexeme.shift bytes)) := by
  induction lexemes with
  | nil => exact .nil
  | cons lexeme lexemes ih => exact .cons ⟨rfl, rfl⟩ ih

/-- A fault is shifted, or it names the limit of nesting. -/
theorem Faults.shift_cases {bytes limit newLimit : Nat} {fault moved : Fault}
    (hFaults : (shift bytes limit newLimit).Faults fault moved) :
    ((∀ other, fault ≠ .nestingTooDeep other) ∧ moved = fault.shift bytes) ∨
      (fault = .nestingTooDeep limit ∧ moved = .nestingTooDeep newLimit) := by
  cases hFaults with
  | nestingTooDeep => exact .inr ⟨rfl, rfl⟩
  | expectedVariable hMoves | expectedCollection hMoves | expectedExpression hMoves
  | unterminatedString hMoves =>
      obtain rfl := hMoves
      exact .inl ⟨nofun, rfl⟩

/-- With one limit for both, every fault is shifted. -/
theorem Faults.eq_shift {bytes limit : Nat} {fault moved : Fault}
    (hFaults : (shift bytes limit limit).Faults fault moved) : moved = fault.shift bytes := by
  rcases hFaults.shift_cases with ⟨-, hMoved⟩ | ⟨rfl, rfl⟩
  · exact hMoved
  · rfl

end Relocation

/-- Lexemes that are moved as a whole are read as before, with every fault moved as far. -/
theorem Grammar.scopeBody_shift {scope moved : Scope} {bytes : Nat}
    (hOmits : moved.omitsBodies = scope.omitsBodies) (hLimit : moved.limit = scope.limit)
    (hEnd : moved.endOffset = scope.endOffset + bytes) (budget : Nat) (lexemes : List Lexeme) :
    (scopeBody budget moved (lexemes.map (Lexeme.shift bytes))).result =
      (scopeBody budget scope lexemes).result.mapError (Fault.shift bytes) := by
  have hScopes : (Relocation.shift bytes scope.limit scope.limit).Scopes scope moved :=
    ⟨rfl, hLimit, hOmits.symm, hEnd⟩
  have hResults : Relocation.Results _ _ _ _ := Relocation.Outcomes.scopeBody hScopes
    (Relocation.lexemes_shift bytes scope.limit scope.limit lexemes) budget
  generalize (scopeBody budget scope lexemes).result = result at hResults ⊢
  generalize (scopeBody budget moved _).result = movedResult at hResults ⊢
  cases hResults with
  | ok hValues => rw [hValues]; rfl
  | error hFaults => rw [hFaults.eq_shift]; rfl

end Shift

end QueryOutline
