import QueryOutline.Proofs.Grammar.Nodes
import QueryOutline.Proofs.Grammar.Statements

/-! Where conditions and sort keys are kept: outside of groups, in a query that binds no
variables, and nowhere else. -/

namespace QueryOutline

open Reading Grammar

/-- A group keeps no condition and no sort keys of its own statements. -/
def Expr.GroupOmitsBodies : Expr → Prop
  | .subquery body => ∀ statement ∈ body, ¬statement.HasBody
  | _ => True

def Statement.IsNoLet : Statement → Prop
  | .letBe _ _ => False
  | _ => True

/-- The query binds variables: it is said to, or the keyword for it is among its lexemes. -/
def BindsVariables (options : Options) (text : String) : Prop :=
  options.letContext = true ∨ ∃ lexeme ∈ lexemes text, lexeme.token = .keyword .letBe

/-- The test on the lexemes says what it should, for a keyword in any case of its letters. -/
theorem letBound_iff {options : Options} {text : String} :
    options.letBound (lexemes text) = true ↔ BindsVariables options text := by
  simp [Options.letBound, BindsVariables]

/-- Only the rule for groups forms a group, and it omits the bodies of its statements. -/
theorem groupOmitsBodies_local (stream : List Lexeme → Prop) :
    Local stream Expr.GroupOmitsBodies fun _ => True where
  group hBody := hBody

/-- Without the keyword among the lexemes, no statement binds a variable. -/
theorem isNoLet_local :
    Local (fun lexemes => ∀ lexeme ∈ lexemes, lexeme.token ≠ .keyword .letBe) (fun _ => True)
      Statement.IsNoLet where
  letBe _ hLexemes hToken _ := absurd hToken (hLexemes _ (List.mem_cons_self ..))

/-- What is read inside a group has no bodies that could be taken away. -/
theorem groupBody_map_elided {budget : Nat} {scope : Scope} {lexemes : List Lexeme}
    {body : List Statement} (hScope : scope.inGroup = true)
    (hBody : (groupBody budget scope lexemes).result = .ok body) :
    body.map Statement.elided = body :=
  (((reads_within budget).2 scope lexemes body hScope).mp hBody).1.map_elided_group

/-- Conditions and sort keys are omitted exactly: in every group, however deep and wherever it
stands; outside of groups too if the query binds variables; and else not there, and then no
statement binds one. So nothing is left to be taken away from what is read inside a group. -/
theorem bodies_omitted_exactly {options : Options} {text : String} {query : Query}
    (hQuery : Query.ofText options text = .ok query) :
    query.Everywhere Expr.GroupOmitsBodies (fun _ => True) ∧
    (BindsVariables options text → ∀ statement ∈ query.body, ¬statement.HasBody) ∧
    (¬BindsVariables options text →
      (∀ statement ∈ query.body, ¬statement.IsOmitted) ∧
      query.Everywhere (fun _ => True) Statement.IsNoLet) ∧
    ∀ (budget : Nat) (scope : Scope) (group : Group) (body : List Statement),
      (groupBody budget (scope.ofGroup group) group.content).result = .ok body →
      body.map Statement.elided = body := by
  obtain ⟨derivation, -⟩ := ofText_ok_iff.mp hQuery
  have hConforms := derivation.body_conforms
  refine ⟨?_, ?_, ?_, ?_⟩
  · exact derivation.everywhere (Hereditary.forall_mem fun _ => True) (groupOmitsBodies_local _)
      fun _ _ => trivial
  · intro hBinds
    rw [letBound_iff.mpr hBinds] at hConforms
    exact hConforms
  · intro hFree
    have hUnbound : options.letBound (lexemes text) = false :=
      Bool.eq_false_iff.mpr fun hBound => hFree (letBound_iff.mp hBound)
    rw [hUnbound] at hConforms
    refine ⟨hConforms, derivation.everywhere (Hereditary.forall_mem _) isNoLet_local ?_⟩
    intro lexeme hMember hToken
    exact hFree (.inr ⟨lexeme, hMember, hToken⟩)
  · intro budget scope group body hBody
    exact groupBody_map_elided rfl hBody

/-- Outside of a group a filter keeps its condition, and in the same query a sort in a group has no
keys. -/
theorem bodies_omitted_exactly_mixed :
    Query.ofText {} "FILTER x LIMIT (SORT y)" =
        .ok ⟨[.filter (.identifier "x"), .limit (.number .zero)
          (.expression (.subquery [.omittedSort]))]⟩ ∧
      ¬BindsVariables {} "FILTER x LIMIT (SORT y)" ∧
      ¬(Statement.filter (.identifier "x")).IsOmitted := by
  have hQuery : Query.ofText {} "FILTER x LIMIT (SORT y)" =
      .ok ⟨[.filter (.identifier "x"), .limit (.number .zero)
        (.expression (.subquery [.omittedSort]))]⟩ := rfl
  have hUnbound : Options.letBound {} (lexemes "FILTER x LIMIT (SORT y)") = false := rfl
  have hFree : ¬BindsVariables {} "FILTER x LIMIT (SORT y)" := by
    rw [← letBound_iff, hUnbound]
    exact Bool.false_ne_true
  exact ⟨hQuery, hFree, ((bodies_omitted_exactly hQuery).2.2.1 hFree).1 _ (List.mem_cons_self ..)⟩

end QueryOutline
