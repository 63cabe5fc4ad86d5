import QueryOutline.Proofs.Depth.Approximation
import QueryOutline.Proofs.Grammar.Sites

/-! The limit of nesting is a threshold. A text has one result that no limit changes, except that
a limit below what the result needs turns it into the fault that the nesting is too deep. -/

namespace QueryOutline.Depth

open Reading Grammar

/-- There is a lexeme for every level that is left in the budget of a place. -/
def Roomy (site : Site) : Prop :=
  site.lexemes.length + site.level ≤ site.budget

/-- Every level of nesting takes a lexeme, so that room is left at whatever is entered. -/
theorem roomy_of_enters (site next : Site) (enters : Enters site next) (hRoom : Roomy site) :
    Roomy next := by
  have hBounds := enters.bounds.2
  unfold Roomy at *
  omega

/-- Where there is room, no budget is used up. -/
theorem not_tooDeep_of_roomy {site : Site} {limit : Nat} (hRoom : Roomy site) :
    ¬site.Fails (.nestingTooDeep limit) := by
  intro hFails
  obtain ⟨stop, hStop, hStops⟩ := Site.stops_within hRoom roomy_of_enters hFails
  generalize hFault : Fault.nestingTooDeep limit = fault at hStops
  cases hStops with
  | expression | group =>
      simp only [Roomy, Site.level, Site.budget] at hStop
      omega
  | nothing | variableName | collectionName => cases hFault
  | @operand _ _ lexeme _ _ =>
      unfold operandFault at hFault
      split at hFault <;> cases hFault

/-- With a limit that is the number of lexemes, no nesting is too deep. -/
theorem ofText_not_tooDeep (text : String) (letContext : Bool) (limit : Nat) :
    Query.ofText ⟨(lexemes text).length, letContext⟩ text ≠ .error (.nestingTooDeep limit) := by
  intro hResult
  rw [ofText_eq_bind] at hResult
  have hBody := Outcome.result_eq_error_of_bind (fun _ => ⟨_, rfl⟩) hResult
  have hFails : (Site.body (lexemes text).length _ (lexemes text)).Fails _ := ⟨_, hBody⟩
  apply not_tooDeep_of_roomy _ hFails
  simp only [Roomy, Site.lexemes, Site.level, Site.budget]
  omega

/-- A reading that gives a query gives it with every limit that is not below its nesting. -/
theorem ofText_ok_of_nesting_le {text : String} {letContext : Bool} {limit other : Nat}
    {query : Query} (hQuery : Query.ofText ⟨limit, letContext⟩ text = .ok query)
    (hNesting : query.nesting ≤ other) : Query.ofText ⟨other, letContext⟩ text = .ok query :=
  ofText_ok_iff.mpr ⟨(ofText_ok_iff.mp hQuery).1, hNesting⟩

/-- A reading that gives a query gives the fault that the nesting is too deep with every limit below
its nesting. -/
theorem ofText_tooDeep_of_lt_nesting {text : String} {letContext : Bool} {limit other : Nat}
    {query : Query} (hQuery : Query.ofText ⟨limit, letContext⟩ text = .ok query)
    (hNesting : other < query.nesting) :
    Query.ofText ⟨other, letContext⟩ text = .error (.nestingTooDeep other) := by
  have hWithin : query.nesting ≤ limit := (ofText_ok_iff.mp hQuery).2
  rcases ofText_approximates (by omega : other ≤ limit) letContext text with hSame | hTooDeep
  · have hEnough : query.nesting ≤ other := (ofText_ok_iff.mp (hSame.trans hQuery)).2
    omega
  · exact hTooDeep

/-- A result that is not the fault that the nesting is too deep stays with greater limits. -/
theorem ofText_eq_of_le {text : String} {letContext : Bool} {small large : Nat}
    (hLimits : small ≤ large)
    (hEnough : ∀ limit, Query.ofText ⟨small, letContext⟩ text ≠ .error (.nestingTooDeep limit)) :
    Query.ofText ⟨large, letContext⟩ text = Query.ofText ⟨small, letContext⟩ text := by
  rcases ofText_approximates hLimits letContext text with hSame | hTooDeep
  · exact hSame.symm
  · exact absurd hTooDeep (hEnough small)

/-- Every limit gives the result that the number of lexemes gives, or the fault that the nesting is
too deep. -/
theorem ofText_eq_or_tooDeep (text : String) (letContext : Bool) (limit : Nat) :
    Query.ofText ⟨limit, letContext⟩ text =
        Query.ofText ⟨(lexemes text).length, letContext⟩ text ∨
      Query.ofText ⟨limit, letContext⟩ text = .error (.nestingTooDeep limit) := by
  rcases Nat.le_total limit (lexemes text).length with hSmaller | hLarger
  · exact ofText_approximates hSmaller letContext text
  · exact .inl (ofText_eq_of_le hLarger (ofText_not_tooDeep text letContext))

/-- The limit of nesting is an exact threshold: with the number of lexemes as the limit nothing is
too deep, and any other limit gives the same query if its nesting is within it, the same fault, or
the fault that the nesting is too deep. A result without that fault stays with greater limits. -/
theorem maxDepth_threshold (text : String) (letContext : Bool) :
    (∀ limit, Query.ofText ⟨(lexemes text).length, letContext⟩ text ≠
      .error (.nestingTooDeep limit)) ∧
    (∀ query, Query.ofText ⟨(lexemes text).length, letContext⟩ text = .ok query →
      ∀ limit, Query.ofText ⟨limit, letContext⟩ text =
        if query.nesting ≤ limit then .ok query else .error (.nestingTooDeep limit)) ∧
    (∀ fault, Query.ofText ⟨(lexemes text).length, letContext⟩ text = .error fault →
      ∀ limit, Query.ofText ⟨limit, letContext⟩ text = .error fault ∨
        Query.ofText ⟨limit, letContext⟩ text = .error (.nestingTooDeep limit)) ∧
    ∀ small large, small ≤ large →
      (∀ limit, Query.ofText ⟨small, letContext⟩ text ≠ .error (.nestingTooDeep limit)) →
      Query.ofText ⟨large, letContext⟩ text = Query.ofText ⟨small, letContext⟩ text := by
  refine ⟨ofText_not_tooDeep text letContext, ?_, ?_, fun _ _ => ofText_eq_of_le⟩
  · intro query hQuery limit
    split
    · rename_i hNesting
      exact ofText_ok_of_nesting_le hQuery hNesting
    · rename_i hNesting
      exact ofText_tooDeep_of_lt_nesting hQuery (Nat.lt_of_not_le hNesting)
  · intro fault hFault limit
    rw [← hFault]
    exact ofText_eq_or_tooDeep text letContext limit

/-- A call in a call in a filter takes three levels. -/
theorem maxDepth_threshold_calls :
    Query.ofText ⟨3, false⟩ "FILTER f(g(x))" =
        .ok ⟨[.filter (.call "F" [.call "G" [.identifier "x"]])]⟩ ∧
      Query.ofText ⟨2, false⟩ "FILTER f(g(x))" = .error (.nestingTooDeep 2) := by
  have hExact := (maxDepth_threshold "FILTER f(g(x))" false).2.1
    ⟨[.filter (.call "F" [.call "G" [.identifier "x"]])]⟩ rfl
  exact ⟨hExact 3, hExact 2⟩

end QueryOutline.Depth
