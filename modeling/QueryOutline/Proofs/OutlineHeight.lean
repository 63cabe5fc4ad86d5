import QueryOutline.Proofs.Grammar.Nodes
import QueryOutline.Proofs.Grammar.Statements
import QueryOutline.Proofs.Outline.Height
import QueryOutline.Proofs.RoundTrip

/-! The height of the outlines that are read. The limit of nesting bounds it up to runs of
properties and of logical operators. Each link of a run takes lexemes but no level of nesting, and
so the limit alone does not bound the height. -/

namespace QueryOutline

namespace Grammar

open Reading

section Bounds

variable {link : Nat}

/-- What the lexemes can add to a height if each of them is a link of a run. -/
def runCost (link : Nat) (lexemes : List Lexeme) : Nat :=
  link * lexemes.length

theorem runCost_cons (lexeme : Lexeme) (lexemes : List Lexeme) :
    runCost link (lexeme :: lexemes) = link + runCost link lexemes := by
  rw [runCost, List.length_cons, Nat.mul_succ, Nat.add_comm]
  rfl

theorem runCost_append (first second : List Lexeme) :
    runCost link (first ++ second) = runCost link first + runCost link second := by
  rw [runCost, List.length_append, Nat.mul_add]
  rfl

/-- Fewer lexemes cost less. This is all that the cases need to know of what a part leaves
behind. -/
theorem runCost_le (link : Nat) {lexemes rest : List Lexeme} (hRest : rest <:+ lexemes) :
    runCost link rest ≤ runCost link lexemes :=
  Nat.mul_le_mul_left link hRest.length_le

/-- Every property behind an object takes its lexemes. The first one may start a run. -/
theorem members_heightBy_le (link : Nat) (object : Expr) (lexemes : List Lexeme) :
    (members object lexemes).1.heightBy link + runCost link (members object lexemes).2 ≤
      object.memberStep 0 + object.heightBy link + runCost link lexemes := by
  fun_induction members object lexemes with
  | case1 object _ _ property _ _ rest ih =>
      have hStep := object.memberStep_le link
      have hRun : (Expr.member object property).memberStep 0 = 0 := rfl
      rw [hRun, Expr.heightBy] at ih
      rw [runCost_cons, runCost_cons]
      omega
  | case2 object lexemes => exact Nat.add_le_add_right (Nat.le_add_left _ _) _

/-- Each property of a name is a link that has taken two lexemes, and only the name itself counts
beyond that. -/
theorem reference_heightBounded (name : String) (lexeme : Lexeme) (rest : List Lexeme) :
    (members (.identifier name) rest).1.heightBy link +
        runCost link (members (.identifier name) rest).2 ≤
      3 * (members (.identifier name) rest).1.nesting + 2 + runCost link (lexeme :: rest) := by
  have hRun := members_heightBy_le link (.identifier name) rest
  have hStep : (Expr.identifier name).memberStep 0 + (Expr.identifier name).heightBy link = 2 := rfl
  rw [runCost_cons]
  omega

/-- The nesting of what is derived bounds its height, up to the links of runs. There are three nodes
to a level: a logical operator, a comparison and a call, or a group, its query and its statement. -/
def Judgement.HeightBounded (link : Nat) : Judgement → Prop
  | .operand lexemes value rest =>
      value.heightBy link + runCost link rest ≤ 3 * value.nesting + 2 + runCost link lexemes
  | .comparison lexemes value rest =>
      value.heightBy link + runCost link rest ≤ 3 * value.nesting + 3 + runCost link lexemes
  | .chain left lexemes value rest =>
      value.heightBy link + runCost link rest ≤
        max (left.logicalStep 0 + left.heightBy link) (3 * value.nesting + 4) +
          runCost link lexemes
  | .expression lexemes value rest =>
      value.heightBy link + runCost link rest ≤ 3 * value.nesting + 4 + runCost link lexemes
  | .arguments lexemes values rest =>
      argumentsHeightBy link values + runCost link rest ≤
        3 * argumentsNesting values + 4 + runCost link lexemes
  | .criteria lexemes values rest =>
      criteriaHeightBy link values + runCost link rest ≤
        3 * criteriaNesting values + 4 + runCost link lexemes
  | .clause _ lexemes value rest =>
      bodyHeightBy link value.toList + runCost link rest ≤
        3 * bodyNesting value.toList + 3 + runCost link lexemes
  | .body _ lexemes values =>
      bodyHeightBy link values ≤ 3 * bodyNesting values + 3 + runCost link lexemes

/-- The bound on the body that a clause gives, put as one on its statement. -/
theorem clause_heightBounded_iff {omits : Bool} {lexemes rest : List Lexeme}
    {statement : Statement} :
    (Judgement.clause omits lexemes (some statement) rest).HeightBounded link ↔
      statement.heightBy link + runCost link rest ≤
        3 * statement.nesting + 3 + runCost link lexemes := by
  simp [Judgement.HeightBounded, bodyHeightBy, bodyNesting]

/-- A clause that gives no expression keeps to the bound. -/
theorem clause_heightBounded_of_le {omits : Bool} {lexemes rest : List Lexeme}
    {value : Option Statement} (hRest : rest <:+ lexemes)
    (hHeight : bodyHeightBy link value.toList ≤ 1) :
    (Judgement.clause omits lexemes value rest).HeightBounded link := by
  have hLess := runCost_le link hRest
  simp only [Judgement.HeightBounded]
  omega

/-- Every rule keeps to the bound. What is left behind a part is never more than what the part was
read from. -/
theorem Derives.heightBounded (link : Nat) {judgement : Judgement}
    (derivation : Derives judgement) : judgement.HeightBounded link := by
  induction derivation with
  | @literal lexeme value rest _ =>
      have hRest := runCost_le link (List.suffix_cons lexeme rest)
      simp only [Judgement.HeightBounded, Expr.heightBy]
      omega
  | parameter _ => exact reference_heightBounded _ _ _
  | name _ _ => exact reference_heightBounded _ _ _
  | emptyCall hName hOpen hClose =>
      have hRest := runCost_le link (Derives.emptyCall hName hOpen hClose).advances.1
      simp only [Judgement.HeightBounded, Expr.heightBy, argumentsHeightBy]
      omega
  | @call lexeme _ rest _ after _ _ hOpen _ hArguments ih =>
      have hInside := runCost_le link ((eat?_suffix hOpen).trans (List.suffix_cons lexeme rest))
      have hAfter := runCost_le link (eatOptional_suffix (.mark .closeParen) after)
      simp only [Judgement.HeightBounded, Expr.heightBy] at ih ⊢
      rw [Expr.nesting_call hArguments.arguments_ne_nil]
      omega
  | @group lexeme rest _ _ _ ih =>
      have hParts := congrArg (runCost link) (splitGroup_append 0 rest)
      rw [runCost_append, runCost_append] at hParts
      simp only [Judgement.HeightBounded, Expr.heightBy, Expr.nesting, runCost_cons] at ih ⊢
      omega
  | single _ _ ih =>
      simp only [Judgement.HeightBounded] at ih ⊢
      omega
  | compare hLeft hOperator hRight ihLeft ihRight =>
      have hMiddle := runCost_le link hLeft.advances.1
      have hSecond := runCost_le link (nextOperator?_suffix hOperator)
      have hRest := runCost_le link hRight.advances.1
      -- No run goes through a comparison, whose left side is an operand.
      have hStep := Expr.logicalStep_of_isOperand link hLeft.isOperand
      simp only [Judgement.HeightBounded, Expr.heightBy, Expr.nesting] at ihLeft ihRight ⊢
      omega
  | chainEnd _ =>
      simp only [Judgement.HeightBounded]
      omega
  | @chainStep _ _ _ _ _ left right _ hOperator hRight hChain ihRight ihChain =>
      obtain ⟨lexeme, rfl, hFound⟩ := nextOperator?_eq_some hOperator
      have hRun := Expr.logicalStep_of_isLogical 0 left right (logicalOperator?_isLogical hFound)
      have hMiddle := runCost_le link hRight.advances.1
      -- The lexeme of the operator pays for the link that the operator adds to the run.
      have hStep := left.logicalStep_le link
      have hNesting := hChain.nesting_le_of_chain
      simp only [Judgement.HeightBounded, hRun, Expr.heightBy, Expr.nesting, runCost_cons]
        at ihRight ihChain hNesting ⊢
      omega
  | @expression _ _ _ first _ hFirst hChain ihFirst ihChain =>
      have hMiddle := runCost_le link hFirst.advances.1
      have hNesting := hChain.nesting_le_of_chain
      have hStep := first.logicalStep_zero_le
      simp only [Judgement.HeightBounded] at ihFirst ihChain ⊢
      omega
  | lastArgument _ _ ih =>
      simp only [Judgement.HeightBounded, argumentsHeightBy, argumentsNesting] at ih ⊢
      omega
  | nextArgument hValue hComma hMore ihValue ihMore =>
      have hSecond := runCost_le link (eat?_suffix hComma)
      have hMiddle := runCost_le link hValue.advances.1
      have hRest := runCost_le link hMore.advances.1
      simp only [Judgement.HeightBounded, argumentsHeightBy, argumentsNesting] at ihValue ihMore ⊢
      omega
  | lastCriterion _ hOrder _ ih =>
      have hRest := runCost_le link (suffix_of_direction_eq hOrder)
      simp only [Judgement.HeightBounded, criteriaHeightBy, Criterion.heightBy, criteriaNesting,
        Criterion.nesting] at ih ⊢
      omega
  | nextCriterion hValue hOrder hComma hMore ihValue ihMore =>
      have hMiddle := runCost_le link hValue.advances.1
      have hOrdered := runCost_le link (suffix_of_direction_eq hOrder)
      have hSecond := runCost_le link (eat?_suffix hComma)
      have hRest := runCost_le link hMore.advances.1
      simp only [Judgement.HeightBounded, criteriaHeightBy, Criterion.heightBy, criteriaNesting,
        Criterion.nesting] at ihValue ihMore ⊢
      omega
  | @forIn omits _ _ _ _ _ _ _ hToken hName hSource hCollection =>
      have hClause : Derives (.clause omits _ _ _) := .forIn hToken hName hSource hCollection
      exact clause_heightBounded_of_le hClause.advances.1
        (by simp [bodyHeightBy, Statement.heightBy])
  | omittedFilter _ =>
      exact clause_heightBounded_of_le (advance_cons (afterClause_suffix _ _)).1
        (by simp [bodyHeightBy, Statement.heightBy])
  | omittedSort _ =>
      exact clause_heightBounded_of_le (advance_cons (afterClause_suffix _ _)).1
        (by simp [bodyHeightBy, Statement.heightBy])
  | skipped _ =>
      exact clause_heightBounded_of_le (advance_cons (afterClause_suffix _ _)).1
        (by simp [bodyHeightBy])
  | filter _ _ ih =>
      rw [clause_heightBounded_iff, Statement.heightBy, Statement.nesting, runCost_cons]
      simp only [Judgement.HeightBounded] at ih
      omega
  | sort _ _ ih =>
      rw [clause_heightBounded_iff, Statement.heightBy, Statement.nesting, runCost_cons]
      simp only [Judgement.HeightBounded] at ih
      omega
  | @limitCount _ _ _ _ count _ _ _ ih =>
      have hCount := Bound.heightBy_ofExpr_le link count
      rw [clause_heightBounded_iff, Statement.heightBy, Statement.nesting, runCost_cons,
        Bound.heightBy, Bound.nesting, Bound.nesting_ofExpr]
      simp only [Judgement.HeightBounded] at ih
      omega
  | limitBoth _ hOffset hComma hCount ihOffset ihCount =>
      have hMiddle := runCost_le link hOffset.advances.1
      have hSecond := runCost_le link (eat?_suffix hComma)
      have hRest := runCost_le link hCount.advances.1
      rw [clause_heightBounded_iff, Statement.heightBy, Statement.nesting, runCost_cons]
      simp only [Judgement.HeightBounded, Bound.heightBy, Bound.nesting] at ihOffset ihCount ⊢
      omega
  | @letBe _ _ _ _ lexemes _ _ _ _ _ ih =>
      have hValue := runCost_le link (eatOptional_suffix (.mark .assign) lexemes)
      rw [clause_heightBounded_iff, Statement.heightBy, Statement.nesting, runCost_cons,
        runCost_cons]
      simp only [Judgement.HeightBounded] at ih
      omega
  | bodyEnd => exact Nat.zero_le _
  | bodyStep hClause _ ihClause ihBody =>
      have hRest := runCost_le link hClause.advances.1
      simp only [Judgement.HeightBounded, bodyHeightBy_append, bodyNesting_append]
        at ihClause ihBody ⊢
      omega

end Bounds

end Grammar

open Grammar

/-- The limit of nesting bounds the height of what is read, if every run is counted as if it had one
link. With every link counted, there is no more than that and one node for each lexeme. -/
theorem ofText_height_le {options : Options} {text : String} {query : Query}
    (hQuery : Query.ofText options text = .ok query) :
    query.levels ≤ 3 * options.maxDepth + 4 ∧
      query.height ≤ 3 * options.maxDepth + 4 + (lexemes text).length := by
  obtain ⟨derivation, hNesting⟩ := ofText_ok_iff.mp hQuery
  unfold Query.nesting at hNesting
  have hLevels := derivation.heightBounded 0
  have hHeight := derivation.heightBounded 1
  simp only [Judgement.HeightBounded, runCost, Nat.zero_mul, Nat.one_mul] at hLevels hHeight
  simp only [Query.levels, Query.height, Query.heightBy]
  omega

/-- A limit in a group in a limit takes one level of nesting, and the run in it counts as if it had
one link. -/
theorem ofText_height_le_group :
    Query.ofText ⟨1, false⟩ "LIMIT (LIMIT a.b.c)" =
        .ok ⟨[.limit (.number .zero) (.expression (.subquery [.limit (.number .zero)
          (.expression (.member (.member (.identifier "a") "b") "c"))]))]⟩ ∧
      Query.levels ⟨[.limit (.number .zero) (.expression (.subquery [.limit (.number .zero)
          (.expression (.member (.member (.identifier "a") "b") "c"))]))]⟩ ≤ 7 := by
  have hQuery : Query.ofText ⟨1, false⟩ "LIMIT (LIMIT a.b.c)" =
      .ok ⟨[.limit (.number .zero) (.expression (.subquery [.limit (.number .zero)
        (.expression (.member (.member (.identifier "a") "b") "c"))]))]⟩ := rfl
  exact ⟨hQuery, (ofText_height_le hQuery).1⟩

section Conjunctions

/-- A name, joined to itself again and again. -/
def conjunction : (links : Nat) → Expr
  | 0 => .identifier "a"
  | links + 1 => .binary .and (conjunction links) (.identifier "a")

def conjunctionQuery (links : Nat) : Query :=
  ⟨[.filter (conjunction links)]⟩

theorem conjunction_everywhere {onExpr : Expr → Prop} {onStatement : Statement → Prop}
    (hName : onExpr (.identifier "a"))
    (hAnd : ∀ left, onExpr (.binary .and left (.identifier "a"))) (links : Nat) :
    (conjunction links).Everywhere onExpr onStatement := by
  induction links with
  | zero => exact hName
  | succ links ih => exact ⟨hAnd _, ih, hName⟩

/-- The links of a run are no levels of nesting. -/
theorem conjunction_nesting (links : Nat) : (conjunction links).nesting = 0 := by
  induction links with
  | zero => simp only [conjunction, Expr.nesting]
  | succ links ih => simp only [conjunction, Expr.nesting, ih, Nat.max_self]

/-- Every link of a conjunction is a node above the others. -/
theorem conjunction_height (links : Nat) : (conjunction links).heightBy 1 = links + 1 := by
  induction links with
  | zero => rfl
  | succ links ih =>
      simp only [conjunction, Expr.heightBy, Expr.logicalStep_one, ih]
      omega

/-- The query, the statement and the name are three nodes more than the links. -/
theorem conjunctionQuery_height (links : Nat) : (conjunctionQuery links).height = links + 3 := by
  simp only [Query.height, Query.heightBy, conjunctionQuery, bodyHeightBy, Statement.heightBy,
    conjunction_height]
  omega

/-- The witness can be written and read back, so that its text exists for every length. -/
theorem conjunctionQuery_wellFormed (links : Nat) : (conjunctionQuery links).WellFormed false := by
  have hName : IsReference "a" :=
    .inl ⟨⟨List.all_eq_true.mp (by decide), .inl ⟨'a', [], rfl, by decide⟩⟩, by decide⟩
  have hFree : (conjunctionQuery links).Everywhere Expr.IsNoLetCall Statement.IsNoLet :=
    ⟨⟨trivial, conjunction_everywhere trivial (fun _ => trivial) links⟩, trivial⟩
  have hJoined : ∀ left, (Expr.binary .and left (.identifier "a")).WellFormed := by
    simp [Expr.WellFormed, Operator.isLogical, Expr.IsLogical]
  refine ⟨⟨⟨trivial, conjunction_everywhere hName hJoined links⟩, trivial⟩, ?_, ?_⟩
  · simp [conjunctionQuery, Statement.IsOmitted]
  · rintro (hBound | hMentions)
    · cases hBound
    · exact absurd hFree hMentions

/-- A filter by a conjunction takes one level of nesting, however long it is. -/
theorem ofText_conjunctionQuery (links : Nat) :
    Query.ofText ⟨1, false⟩ (conjunctionQuery links).text = .ok (conjunctionQuery links) := by
  have hQuery : (conjunctionQuery links).WellFormed (Options.mk 1 false).letContext :=
    conjunctionQuery_wellFormed links
  have hNesting : (conjunctionQuery links).nesting = 1 := by
    simp [Query.nesting, conjunctionQuery, bodyNesting, Statement.nesting, conjunction_nesting]
  exact ofText_ok_iff.mpr ⟨hQuery.derives, hNesting.le⟩

end Conjunctions

/-- The limit of nesting alone does not bound the height of what is read. -/
theorem height_unbounded :
    ¬∃ bound : Nat → Nat, ∀ options text query, Query.ofText options text = .ok query →
      query.height ≤ bound options.maxDepth := by
  rintro ⟨bound, hBound⟩
  have hHeight := hBound ⟨1, false⟩ _ _ (ofText_conjunctionQuery (bound 1))
  rw [conjunctionQuery_height] at hHeight
  simp only at hHeight
  omega

end QueryOutline
