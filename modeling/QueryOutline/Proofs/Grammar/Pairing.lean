import Mathlib.Data.List.Infix
import QueryOutline.Proofs.Grammar.Progress

/-! Parentheses in pairs, and what stands behind them. Where every parenthesis that is opened is
also closed, no group and no clause that is stepped over reaches beyond the end of the lexemes, so
that a clause behind them changes nothing in what the rules derive from them. -/

namespace QueryOutline.Grammar

open Reading

section Counting

def markCount (sign : Mark) (lexemes : List Lexeme) : Nat :=
  lexemes.countP fun lexeme => lexeme.token == .mark sign

/-- The parentheses of the lexemes are in pairs: read from the front, never more of them are closed
than opened, and in the end as many. -/
structure Paired (lexemes : List Lexeme) : Prop where
  fronts : ∀ front, front <+: lexemes → markCount .closeParen front ≤ markCount .openParen front
  total : markCount .openParen lexemes = markCount .closeParen lexemes

instance (lexemes : List Lexeme) : Decidable (Paired lexemes) :=
  decidable_of_iff
    ((∀ front ∈ lexemes.inits, markCount .closeParen front ≤ markCount .openParen front) ∧
      markCount .openParen lexemes = markCount .closeParen lexemes)
    ⟨fun ⟨hFronts, hTotal⟩ => ⟨fun front hFront => hFronts front ((List.mem_inits _ _).mpr hFront),
      hTotal⟩,
      fun hPaired => ⟨fun front hFront => hPaired.fronts front ((List.mem_inits _ _).mp hFront),
        hPaired.total⟩⟩

/-- Every parenthesis that is opened among the lexemes is closed among them, too. There may be more
that close. -/
def Closed (lexemes : List Lexeme) : Prop :=
  ∀ back, back <:+ lexemes → markCount .openParen back ≤ markCount .closeParen back

@[simp]
theorem markCount_append (sign : Mark) (first second : List Lexeme) :
    markCount sign (first ++ second) = markCount sign first + markCount sign second :=
  List.countP_append

theorem markCount_cons_self {sign : Mark} {lexeme : Lexeme} (hToken : lexeme.token = .mark sign)
    (lexemes : List Lexeme) : markCount sign (lexeme :: lexemes) = markCount sign lexemes + 1 := by
  simp [markCount, hToken]

theorem markCount_cons_ne {sign : Mark} {lexeme : Lexeme} (hToken : lexeme.token ≠ .mark sign)
    (lexemes : List Lexeme) : markCount sign (lexeme :: lexemes) = markCount sign lexemes := by
  simp [markCount, hToken]

/-- In pairs means that what is opened is closed, and that nothing else is closed either. -/
theorem Paired.closed {lexemes : List Lexeme} (hPaired : Paired lexemes) : Closed lexemes := by
  rintro back ⟨front, rfl⟩
  have hFront := hPaired.fronts front (List.prefix_append _ _)
  have hTotal := hPaired.total
  rw [markCount_append, markCount_append] at hTotal
  omega

/-- What is opened in the end part is closed in it, since nothing follows it in the whole. -/
theorem Closed.of_suffix {lexemes rest : List Lexeme} (hClosed : Closed lexemes)
    (hRest : rest <:+ lexemes) : Closed rest :=
  fun back hBack => hClosed back (hBack.trans hRest)

theorem Closed.tail {lexeme : Lexeme} {lexemes : List Lexeme}
    (hClosed : Closed (lexeme :: lexemes)) : Closed lexemes :=
  hClosed.of_suffix (List.suffix_cons _ _)

/-- The parentheses of the lexemes are in pairs if `nesting` of them were opened before. -/
structure PairedWithin (nesting : Nat) (lexemes : List Lexeme) : Prop where
  fronts : ∀ front, front <+: lexemes →
    markCount .closeParen front ≤ markCount .openParen front + nesting
  total : markCount .openParen lexemes + nesting = markCount .closeParen lexemes

theorem Paired.within {lexemes : List Lexeme} (hPaired : Paired lexemes) :
    PairedWithin 0 lexemes :=
  ⟨hPaired.fronts, hPaired.total⟩

namespace PairedWithin

variable {nesting : Nat} {lexeme : Lexeme} {lexemes : List Lexeme}

theorem eq_zero (hPaired : PairedWithin nesting []) : nesting = 0 := by
  have hTotal := hPaired.total
  simp only [markCount, List.countP_nil] at hTotal
  omega

/-- An opening parenthesis is one more that has been opened before what follows. -/
theorem openParen (hToken : lexeme.token = .mark .openParen)
    (hPaired : PairedWithin nesting (lexeme :: lexemes)) : PairedWithin (nesting + 1) lexemes where
  fronts front hFront := by
    have hCount := hPaired.fronts (lexeme :: front) (List.cons_prefix_cons.mpr ⟨rfl, hFront⟩)
    rw [markCount_cons_self hToken, markCount_cons_ne (by simp [hToken])] at hCount
    omega
  total := by
    have hCount := hPaired.total
    rw [markCount_cons_self hToken, markCount_cons_ne (by simp [hToken])] at hCount
    omega

/-- No parenthesis is closed that was not opened before. -/
theorem closeParen (hToken : lexeme.token = .mark .closeParen)
    (hPaired : PairedWithin nesting (lexeme :: lexemes)) :
    ∃ outer, nesting = outer + 1 ∧ PairedWithin outer lexemes := by
  have hFirst := hPaired.fronts [lexeme] (List.cons_prefix_cons.mpr ⟨rfl, List.nil_prefix⟩)
  rw [markCount_cons_self hToken, markCount_cons_ne (by simp [hToken])] at hFirst
  simp only [markCount, List.countP_nil] at hFirst
  refine ⟨nesting - 1, by omega, ?_, ?_⟩
  · intro front hFront
    have hCount := hPaired.fronts (lexeme :: front) (List.cons_prefix_cons.mpr ⟨rfl, hFront⟩)
    rw [markCount_cons_self hToken, markCount_cons_ne (by simp [hToken])] at hCount
    omega
  · have hCount := hPaired.total
    rw [markCount_cons_self hToken, markCount_cons_ne (by simp [hToken])] at hCount
    omega

theorem plain (hOpen : lexeme.token ≠ .mark .openParen) (hClose : lexeme.token ≠ .mark .closeParen)
    (hPaired : PairedWithin nesting (lexeme :: lexemes)) : PairedWithin nesting lexemes where
  fronts front hFront := by
    have hCount := hPaired.fronts (lexeme :: front) (List.cons_prefix_cons.mpr ⟨rfl, hFront⟩)
    rwa [markCount_cons_ne hOpen, markCount_cons_ne hClose] at hCount
  total := by
    have hCount := hPaired.total
    rwa [markCount_cons_ne hOpen, markCount_cons_ne hClose] at hCount

end PairedWithin

end Counting

section Following

/-- Whether the token starts a clause, of a known kind or not. -/
def startsClause : Token → Bool
  | .keyword word => word.startsClause
  | _ => false

/-- Nothing, or a token that starts a clause and whatever is behind it. -/
def StartsClause (lexemes : List Lexeme) : Prop :=
  ∀ lexeme ∈ lexemes.head?, startsClause lexeme.token = true

variable {more : List Lexeme}

/-- A token that starts no clause is taken from the lexemes or not at all: what follows them does
not offer it. -/
theorem StartsClause.eat?_append (hMore : StartsClause more) {token : Token}
    (hToken : startsClause token = false) (lexemes : List Lexeme) :
    eat? token (lexemes ++ more) = (eat? token lexemes).map (· ++ more) := by
  cases lexemes with
  | cons lexeme lexemes =>
      simp only [List.cons_append, eat?]
      split <;> rfl
  | nil =>
      cases more with
      | nil => rfl
      | cons lexeme more =>
          have hOther : lexeme.token ≠ token := by
            rintro rfl
            simp [hMore lexeme rfl] at hToken
          simp [eat?, hOther]

theorem StartsClause.eat?_append_none (hMore : StartsClause more) {token : Token}
    {lexemes : List Lexeme} (hToken : startsClause token = false)
    (hNone : eat? token lexemes = none) : eat? token (lexemes ++ more) = none := by
  rw [hMore.eat?_append hToken, hNone]
  rfl

theorem StartsClause.eat?_append_some (hMore : StartsClause more) {token : Token}
    {lexemes rest : List Lexeme} (hToken : startsClause token = false)
    (hEaten : eat? token lexemes = some rest) :
    eat? token (lexemes ++ more) = some (rest ++ more) := by
  rw [hMore.eat?_append hToken, hEaten]
  rfl

/-- What may be missing in front of a clause is not found in it. -/
theorem StartsClause.eatOptional_append (hMore : StartsClause more) {token : Token}
    (hToken : startsClause token = false) (lexemes : List Lexeme) :
    eatOptional token (lexemes ++ more) = eatOptional token lexemes ++ more := by
  unfold eatOptional
  rw [hMore.eat?_append hToken]
  cases eat? token lexemes <;> rfl

/-- An operator is none of the tokens that start a clause, so that an expression does not go on with
what follows. -/
theorem StartsClause.nextOperator?_append (hMore : StartsClause more)
    {operator? : Token → Option Operator}
    (hOperator : ∀ {token}, startsClause token = true → operator? token = none)
    (lexemes : List Lexeme) :
    nextOperator? operator? (lexemes ++ more) =
      (nextOperator? operator? lexemes).map fun found => (found.1, found.2 ++ more) := by
  cases lexemes with
  | cons lexeme lexemes =>
      simp only [List.cons_append, nextOperator?]
      cases operator? lexeme.token <;> rfl
  | nil =>
      cases more with
      | nil => rfl
      | cons lexeme more => simp [nextOperator?, hOperator (hMore lexeme rfl)]

theorem StartsClause.nextOperator?_append_none (hMore : StartsClause more)
    {operator? : Token → Option Operator} {lexemes : List Lexeme}
    (hOperator : ∀ {token}, startsClause token = true → operator? token = none)
    (hNone : nextOperator? operator? lexemes = none) :
    nextOperator? operator? (lexemes ++ more) = none := by
  rw [hMore.nextOperator?_append hOperator, hNone]
  rfl

theorem StartsClause.nextOperator?_append_some (hMore : StartsClause more)
    {operator? : Token → Option Operator} {lexemes rest : List Lexeme} {operator : Operator}
    (hOperator : ∀ {token}, startsClause token = true → operator? token = none)
    (hNext : nextOperator? operator? lexemes = some (operator, rest)) :
    nextOperator? operator? (lexemes ++ more) = some (operator, rest ++ more) := by
  rw [hMore.nextOperator?_append hOperator, hNext]
  rfl

/-- The words among the comparison operators start no clause. -/
theorem comparison?_of_startsClause {token : Token} (hToken : startsClause token = true) :
    comparison? token = none := by
  cases token with
  | keyword word => cases word <;> first | rfl | cases hToken
  | _ => cases hToken

theorem logicalOperator?_of_startsClause {token : Token} (hToken : startsClause token = true) :
    logicalOperator? token = none := by
  cases token with
  | keyword word => cases word <;> first | rfl | cases hToken
  | _ => cases hToken

/-- A direction is a keyword, but none that starts a clause. -/
theorem StartsClause.direction_append (hMore : StartsClause more) (lexemes : List Lexeme) :
    direction (lexemes ++ more) = ((direction lexemes).1, (direction lexemes).2 ++ more) := by
  unfold direction
  rw [hMore.eat?_append rfl]
  cases eat? (.keyword .desc) lexemes with
  | none => exact congrArg (Prod.mk _) (hMore.eatOptional_append rfl lexemes)
  | some rest => rfl

/-- A run of properties ends with the lexemes, since a clause starts with no dot. -/
theorem StartsClause.members_append (hMore : StartsClause more) (object : Expr)
    (lexemes : List Lexeme) :
    members object (lexemes ++ more) =
      ((members object lexemes).1, (members object lexemes).2 ++ more) := by
  fun_induction members object lexemes with
  | case1 object _ _ property _ _ rest ih => exact ih
  | case2 object lexemes hNone =>
      apply members_eq_self
      intro dot named rest name hLexemes hDot hName
      -- Fewer than two of the lexemes cannot be a dot and a name, since a clause is behind them.
      rcases lexemes with _ | ⟨first, _ | ⟨second, others⟩⟩
      · have hFirst := hMore dot (by simp_all)
        simp [hDot, startsClause] at hFirst
      · have hFirst := hMore named (by simp_all)
        simp [hName, startsClause] at hFirst
      · obtain ⟨_, start, stop⟩ := first
        obtain ⟨_, nextStart, nextStop⟩ := second
        obtain ⟨rfl, hOthers⟩ := List.cons.inj hLexemes
        obtain ⟨rfl, -⟩ := List.cons.inj hOthers
        obtain rfl := hDot
        obtain rfl := hName
        exact hNone _ _ _ _ _ _ rfl

theorem afterClause_cons_plain {lexeme : Lexeme} (hKeyword : ∀ word, lexeme.token ≠ .keyword word)
    (hOpen : lexeme.token ≠ .mark .openParen) (hClose : lexeme.token ≠ .mark .closeParen)
    (nesting : Nat) (rest : List Lexeme) :
    afterClause nesting (lexeme :: rest) = afterClause nesting rest := by
  rw [afterClause.eq_def]
  split <;> simp_all

/-- In front of a clause nothing is stepped over. -/
theorem StartsClause.afterClause_eq (hMore : StartsClause more) : afterClause 0 more = more := by
  cases more with
  | nil => rfl
  | cons lexeme more =>
      have hFirst := hMore lexeme rfl
      unfold startsClause at hFirst
      split at hFirst
      · rename_i word hToken
        simp [afterClause, hToken, hFirst]
      · cases hFirst

/-- A clause that is stepped over ends at the latest in front of the next one, if all parentheses
that are open in it are closed by then. -/
theorem StartsClause.afterClause_append (hMore : StartsClause more) {nesting : Nat}
    {lexemes : List Lexeme}
    (hClosed : markCount .openParen lexemes + nesting ≤ markCount .closeParen lexemes) :
    afterClause nesting (lexemes ++ more) = afterClause nesting lexemes ++ more := by
  fun_induction afterClause nesting lexemes with
  | case1 nesting =>
      obtain rfl : nesting = 0 := Nat.le_zero.mp (Nat.le_trans (Nat.le_add_left _ _) hClosed)
      exact hMore.afterClause_eq
  | case2 nesting lexeme rest word hToken hStop => simp [afterClause, hToken, hStop]
  | case3 nesting lexeme rest word hToken hGo ih =>
      rw [markCount_cons_ne (by simp [hToken]), markCount_cons_ne (by simp [hToken])] at hClosed
      simp only [List.cons_append, afterClause, hToken, hGo, if_false]
      exact ih hClosed
  | case4 nesting lexeme rest hToken ih =>
      rw [markCount_cons_self hToken, markCount_cons_ne (by simp [hToken])] at hClosed
      simp only [List.cons_append, afterClause, hToken]
      exact ih (by omega)
  | case5 lexeme rest hToken => simp [afterClause, hToken]
  | case6 lexeme rest hToken nesting ih =>
      rw [markCount_cons_ne (by simp [hToken]), markCount_cons_self hToken] at hClosed
      simp only [List.cons_append, afterClause, hToken]
      exact ih (by omega)
  | case7 nesting lexeme rest hKeyword hOpen hClose ih =>
      rw [markCount_cons_ne hOpen, markCount_cons_ne hClose] at hClosed
      rw [List.cons_append, afterClause_cons_plain hKeyword hOpen hClose]
      exact ih hClosed

/-- A group that is closed among the lexemes is the same whatever stands behind them. -/
theorem splitGroup_append_of_lt {nesting : Nat} {lexemes : List Lexeme}
    (hClosed : markCount .openParen lexemes + nesting < markCount .closeParen lexemes)
    (more : List Lexeme) :
    splitGroup nesting (lexemes ++ more) =
      { splitGroup nesting lexemes with rest := (splitGroup nesting lexemes).rest ++ more } := by
  fun_induction splitGroup nesting lexemes with
  | case1 nesting => simp [markCount] at hClosed
  | case2 nesting lexeme rest hToken ih =>
      rw [markCount_cons_self hToken, markCount_cons_ne (by simp [hToken])] at hClosed
      simp only [List.cons_append, splitGroup, hToken, ih (by omega), Group.push]
  | case3 lexeme rest hToken => simp only [List.cons_append, splitGroup, hToken]
  | case4 lexeme rest hToken nesting ih =>
      rw [markCount_cons_ne (by simp [hToken]), markCount_cons_self hToken] at hClosed
      simp only [List.cons_append, splitGroup, hToken, ih (by omega), Group.push]
  | case5 nesting lexeme rest hOpen hClose ih =>
      rw [markCount_cons_ne hOpen, markCount_cons_ne hClose] at hClosed
      rw [List.cons_append, splitGroup_cons_plain hOpen hClose, ih hClosed]
      rfl

end Following

section Derivations

def Judgement.lexemes : Judgement → List Lexeme
  | .operand lexemes _ _ | .comparison lexemes _ _ | .chain _ lexemes _ _
  | .expression lexemes _ _ | .arguments lexemes _ _ | .criteria lexemes _ _
  | .clause _ lexemes _ _ | .body _ lexemes _ => lexemes

/-- The judgement with more lexemes behind those that are left. A body leaves none, so that it is
the same. -/
def Judgement.followedBy (more : List Lexeme) : Judgement → Judgement
  | .operand lexemes value rest => .operand (lexemes ++ more) value (rest ++ more)
  | .comparison lexemes value rest => .comparison (lexemes ++ more) value (rest ++ more)
  | .chain left lexemes value rest => .chain left (lexemes ++ more) value (rest ++ more)
  | .expression lexemes value rest => .expression (lexemes ++ more) value (rest ++ more)
  | .arguments lexemes values rest => .arguments (lexemes ++ more) values (rest ++ more)
  | .criteria lexemes values rest => .criteria (lexemes ++ more) values (rest ++ more)
  | .clause omits lexemes value rest => .clause omits (lexemes ++ more) value (rest ++ more)
  | .body omits lexemes values => .body omits lexemes values

variable {more : List Lexeme}

/-- A clause behind the lexemes leaves every derivation as it is. -/
theorem Derives.followedBy {judgement : Judgement} (derivation : Derives judgement)
    (hMore : StartsClause more) (hClosed : Closed judgement.lexemes) :
    Derives (judgement.followedBy more) := by
  induction derivation with
  | literal hLiteral => exact .literal hLiteral
  | @parameter lexeme name rest hToken =>
      have hValue : Derives (.operand (lexeme :: (rest ++ more)) _ _) := .parameter hToken
      rwa [hMore.members_append] at hValue
  | @name lexeme name rest hToken hNoCall =>
      have hValue := Derives.name hToken (hMore.eat?_append_none rfl hNoCall)
      rwa [hMore.members_append] at hValue
  | emptyCall hName hOpen hClose =>
      exact .emptyCall hName (hMore.eat?_append_some rfl hOpen) (hMore.eat?_append_some rfl hClose)
  | call hName hOpen hEnd _ ih =>
      have hInside := hClosed.tail.of_suffix (eat?_suffix hOpen)
      have hValue := Derives.call hName (hMore.eat?_append_some rfl hOpen)
        (hMore.eat?_append_none rfl hEnd) (ih hInside)
      rwa [hMore.eatOptional_append rfl] at hValue
  | @group lexeme rest body hOpen hBody _ =>
      have hEnough := hClosed _ (List.suffix_refl _)
      simp only [Judgement.lexemes] at hEnough
      rw [markCount_cons_self hOpen, markCount_cons_ne (by simp [hOpen])] at hEnough
      have hSplit : splitGroup 0 (rest ++ more) = _ := splitGroup_append_of_lt (by omega) more
      have hValue : Derives (.operand (lexeme :: (rest ++ more)) (.subquery body) _) :=
        .group hOpen (by rwa [hSplit])
      rwa [hSplit] at hValue
  | single _ hEnd ih =>
      exact .single (ih hClosed) (hMore.nextOperator?_append_none comparison?_of_startsClause hEnd)
  | compare hLeft hOperator _ ihLeft ihRight =>
      have hSecond := hClosed.of_suffix ((nextOperator?_suffix hOperator).trans hLeft.advances.1)
      exact .compare (ihLeft hClosed)
        (hMore.nextOperator?_append_some comparison?_of_startsClause hOperator) (ihRight hSecond)
  | chainEnd hEnd =>
      exact .chainEnd (hMore.nextOperator?_append_none logicalOperator?_of_startsClause hEnd)
  | chainStep hOperator hRight _ ihRight ihChain =>
      have hSecond := hClosed.of_suffix (nextOperator?_suffix hOperator)
      exact .chainStep
        (hMore.nextOperator?_append_some logicalOperator?_of_startsClause hOperator)
        (ihRight hSecond) (ihChain (hSecond.of_suffix hRight.advances.1))
  | expression hFirst _ ihFirst ihChain =>
      exact .expression (ihFirst hClosed) (ihChain (hClosed.of_suffix hFirst.advances.1))
  | lastArgument _ hEnd ih => exact .lastArgument (ih hClosed) (hMore.eat?_append_none rfl hEnd)
  | nextArgument hValue hComma _ ihValue ihMore =>
      have hSecond := hClosed.of_suffix ((eat?_suffix hComma).trans hValue.advances.1)
      exact .nextArgument (ihValue hClosed) (hMore.eat?_append_some rfl hComma) (ihMore hSecond)
  | @lastCriterion _ middle _ _ _ _ hOrder hEnd ih =>
      have hDirection := hMore.direction_append middle
      rw [hOrder] at hDirection
      exact .lastCriterion (ih hClosed) hDirection (hMore.eat?_append_none rfl hEnd)
  | @nextCriterion _ middle _ _ _ _ _ _ hValue hOrder hComma _ ihValue ihMore =>
      have hDirection := hMore.direction_append middle
      have hOrdered := direction_suffix middle
      rw [hOrder] at hDirection hOrdered
      have hSecond := hClosed.of_suffix
        ((eat?_suffix hComma).trans (hOrdered.trans hValue.advances.1))
      exact .nextCriterion (ihValue hClosed) hDirection (hMore.eat?_append_some rfl hComma)
        (ihMore hSecond)
  | @forIn _ _ _ _ _ _ middle rest hToken hName hSource hCollection =>
      have hBehind : eatOptional (.keyword .isIn) (middle ++ more) = _ :=
        hMore.eatOptional_append rfl middle
      rw [hSource] at hBehind
      exact .forIn hToken hName hBehind hCollection
  | filter hToken _ ih => exact .filter hToken (ih hClosed.tail)
  | @omittedFilter lexeme lexemes hToken =>
      have hClause : Derives (.clause true (lexeme :: (lexemes ++ more)) _ _) :=
        .omittedFilter hToken
      rwa [hMore.afterClause_append (hClosed.tail _ (List.suffix_refl _))] at hClause
  | sort hToken _ ih => exact .sort hToken (ih hClosed.tail)
  | @omittedSort lexeme lexemes hToken =>
      have hClause : Derives (.clause true (lexeme :: (lexemes ++ more)) _ _) :=
        .omittedSort hToken
      rwa [hMore.afterClause_append (hClosed.tail _ (List.suffix_refl _))] at hClause
  | limitCount hToken _ hEnd ih =>
      exact .limitCount hToken (ih hClosed.tail) (hMore.eat?_append_none rfl hEnd)
  | limitBoth hToken hOffset hComma _ ihOffset ihCount =>
      have hSecond := hClosed.tail.of_suffix ((eat?_suffix hComma).trans hOffset.advances.1)
      exact .limitBoth hToken (ihOffset hClosed.tail) (hMore.eat?_append_some rfl hComma)
        (ihCount hSecond)
  | @letBe _ _ _ _ lexemes _ _ hToken hName _ ih =>
      have hValue := ih (hClosed.tail.tail.of_suffix (eatOptional_suffix _ _))
      rw [Judgement.followedBy, ← hMore.eatOptional_append rfl] at hValue
      exact .letBe hToken hName hValue
  | @skipped omits lexeme lexemes hToken =>
      have hClause : Derives (.clause omits (lexeme :: (lexemes ++ more)) _ _) := .skipped hToken
      rwa [hMore.afterClause_append (hClosed.tail _ (List.suffix_refl _))] at hClause
  | bodyEnd => exact .bodyEnd
  | bodyStep hClause hBody => exact .bodyStep hClause hBody

end Derivations

end QueryOutline.Grammar
