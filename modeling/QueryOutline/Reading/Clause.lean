import QueryOutline.Reading.Outcome

/-! Where clauses and groups end, found by counting parentheses. A quoted text is a single token,
so that nothing inside it is taken for a parenthesis or a keyword. -/

namespace QueryOutline.Reading

/-- The lexemes behind a token, if they start with it. -/
def eat? (token : Token) : List Lexeme → Option (List Lexeme)
  | [] => none
  | lexeme :: rest => if lexeme.token = token then some rest else none

/-- The lexemes behind a token that may be missing. -/
def eatOptional (token : Token) (lexemes : List Lexeme) : List Lexeme :=
  (eat? token lexemes).getD lexemes

/-- What was taken is the first lexeme. -/
theorem eat?_eq_some {token : Token} {lexemes rest : List Lexeme}
    (hEaten : eat? token lexemes = some rest) :
    ∃ lexeme, lexemes = lexeme :: rest ∧ lexeme.token = token := by
  cases lexemes with
  | nil => simp [eat?] at hEaten
  | cons lexeme lexemes =>
      simp only [eat?] at hEaten
      split at hEaten
      · rename_i hToken
        exact ⟨lexeme, by simp_all, hToken⟩
      · simp at hEaten

theorem eatOptional_suffix (token : Token) (lexemes : List Lexeme) :
    eatOptional token lexemes <:+ lexemes := by
  unfold eatOptional
  cases hEaten : eat? token lexemes with
  | none => exact List.suffix_refl _
  | some rest =>
      obtain ⟨lexeme, rfl, -⟩ := eat?_eq_some hEaten
      exact List.suffix_cons _ _

/-- The lexemes from the end of a clause on, within `nesting` open parentheses. Outside of all
parentheses a clause ends in front of a keyword that starts the next one, and behind a closing
parenthesis that has no partner. -/
def afterClause : (nesting : Nat) → List Lexeme → List Lexeme
  | _, [] => []
  | nesting, lexeme :: rest =>
      match lexeme.token with
      | .keyword word =>
          if nesting = 0 ∧ word.startsClause then lexeme :: rest else afterClause nesting rest
      | .mark .openParen => afterClause (nesting + 1) rest
      | .mark .closeParen =>
          match nesting with
          | 0 => rest
          | nesting + 1 => afterClause nesting rest
      | _ => afterClause nesting rest

/-- A group: the lexemes up to the closing parenthesis, that parenthesis if there is one, and the
lexemes after it. -/
structure Group where
  content : List Lexeme
  closing : Option Lexeme
  rest : List Lexeme

def Group.push (lexeme : Lexeme) (group : Group) : Group :=
  { group with content := lexeme :: group.content }

/-- The group whose opening parenthesis stands in front of the lexemes, within `nesting` more open
parentheses. A group that is not closed takes all lexemes. -/
def splitGroup : (nesting : Nat) → List Lexeme → Group
  | _, [] => ⟨[], none, []⟩
  | nesting, lexeme :: rest =>
      match lexeme.token with
      | .mark .openParen => (splitGroup (nesting + 1) rest).push lexeme
      | .mark .closeParen =>
          match nesting with
          | 0 => ⟨[], some lexeme, rest⟩
          | nesting + 1 => (splitGroup nesting rest).push lexeme
      | _ => (splitGroup nesting rest).push lexeme

/-- A clause ends within the lexemes that it starts. -/
theorem afterClause_suffix (nesting : Nat) (lexemes : List Lexeme) :
    afterClause nesting lexemes <:+ lexemes := by
  fun_induction afterClause nesting lexemes with
  | case1 => exact List.suffix_refl _
  | case2 => exact List.suffix_refl _
  | case5 => exact List.suffix_cons _ _
  | case3 _ _ _ _ _ _ ih | case4 _ _ _ _ ih | case6 _ _ _ _ ih | case7 _ _ _ _ _ _ ih =>
      exact ih.trans (List.suffix_cons _ _)

/-- Nothing is lost when a group is split off. -/
theorem splitGroup_append (nesting : Nat) (lexemes : List Lexeme) :
    (splitGroup nesting lexemes).content ++ (splitGroup nesting lexemes).closing.toList ++
      (splitGroup nesting lexemes).rest = lexemes := by
  fun_induction splitGroup nesting lexemes with
  | case1 => rfl
  | case3 => rfl
  | case2 _ _ _ _ ih | case4 _ _ _ _ ih | case5 _ _ _ _ _ ih =>
      simpa [Group.push] using ih

/-- What holds for all lexemes of one sequence of statements. -/
structure Scope where
  /-- The greatest nesting that is allowed. -/
  limit : Nat
  /-- Whether the whole query binds variables. -/
  letBound : Bool
  /-- Whether the statements stand in a group. -/
  inGroup : Bool
  /-- The offset behind the last lexeme. -/
  endOffset : Nat

namespace Scope

/-- Whether conditions and sort keys are omitted. They are of interest in a query that binds no
variables, and there outside of groups only. -/
def omitsBodies (scope : Scope) : Bool :=
  scope.inGroup || scope.letBound

/-- The offset at which lexemes start. -/
def offset (scope : Scope) : List Lexeme → Nat
  | [] => scope.endOffset
  | lexeme :: _ => lexeme.start

/-- The scope of a group. It ends at the closing parenthesis, or where the scope around it ends if
there is none. -/
def ofGroup (scope : Scope) (group : Group) : Scope :=
  { scope with
    inGroup := true
    endOffset := (group.closing.map Lexeme.start).getD scope.endOffset }

end Scope

def skipClause (scope : Scope) (lexemes : List Lexeme) : Outcome (List Lexeme) := do
  let rest := afterClause 0 lexemes
  .emit (.skipped (scope.offset lexemes) (scope.offset rest))
  pure rest

end QueryOutline.Reading
