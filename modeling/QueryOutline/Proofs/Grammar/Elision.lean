import QueryOutline.Proofs.Grammar.Rules

/-! Which conditions and sort keys are kept. In a group there are none of them, whatever stands
around it, and among the statements of one body either all or none. -/

namespace QueryOutline

def Statement.HasBody : Statement → Prop
  | .filter _ | .sort _ => True
  | _ => False

def Statement.IsOmitted : Statement → Prop
  | .omittedFilter | .omittedSort => True
  | _ => False

theorem Statement.elided_eq_self {statement : Statement} (hBody : ¬statement.HasBody) :
    statement.elided = statement := by
  cases statement with
  | filter _ | sort _ => exact absurd trivial hBody
  | forIn _ _ | omittedFilter | omittedSort | limit _ _ | letBe _ _ => rfl

/-- Taking away bodies changes nothing where there are none. -/
theorem map_elided_eq_self {body : List Statement}
    (hBodies : ∀ statement ∈ body, ¬statement.HasBody) : body.map Statement.elided = body := by
  induction body with
  | nil => rfl
  | cons statement body ih =>
      rw [List.map_cons, Statement.elided_eq_self (hBodies _ (List.mem_cons_self ..)),
        ih fun other hOther => hBodies other (List.mem_cons_of_mem _ hOther)]

namespace Grammar

/-- A statement is as its scope asks: without a body if bodies are omitted, else not without
one. -/
def Conforms (omits : Bool) (statement : Statement) : Prop :=
  if omits then ¬statement.HasBody else ¬statement.IsOmitted

/-- What a clause gives is as its scope asks. -/
theorem Derives.clause_conforms {omits : Bool} {lexemes rest : List Lexeme} {statement : Statement}
    (derivation : Derives (.clause omits lexemes (some statement) rest)) :
    Conforms omits statement := by
  cases derivation with
  | forIn | limitCount | limitBoth | letBe => cases omits <;> exact id
  | filter | omittedFilter | sort | omittedSort => exact id

/-- All statements of a body are as its scope asks. -/
theorem Derives.body_conforms {omits : Bool} {lexemes : List Lexeme} {body : List Statement}
    (derivation : Derives (.body omits lexemes body)) :
    ∀ statement ∈ body, Conforms omits statement := by
  generalize hJudgement : Judgement.body omits lexemes body = judgement at derivation
  induction derivation generalizing lexemes body with
  | bodyEnd =>
      obtain ⟨rfl, rfl, rfl⟩ := Judgement.body.inj hJudgement
      intro statement hMember
      cases hMember
  | bodyStep hClause _ _ ih =>
      obtain ⟨rfl, rfl, rfl⟩ := Judgement.body.inj hJudgement
      intro statement hMember
      rcases List.mem_append.mp hMember with hFirst | hLater
      · rw [Option.mem_toList] at hFirst
        subst hFirst
        exact hClause.clause_conforms
      · exact ih rfl statement hLater
  | _ => cases hJudgement

/-- A group has no bodies to be taken away. -/
theorem Derives.map_elided_group {lexemes : List Lexeme} {body : List Statement}
    (derivation : Derives (.body true lexemes body)) : body.map Statement.elided = body :=
  map_elided_eq_self derivation.body_conforms

end Grammar

end QueryOutline
