import QueryOutline.Proofs.Grammar.Progress

/-! When what is derived from one sequence of lexemes is derived from another one. It is enough that
the places where the rules look at the lexemes are related one by one: a token that is taken is
there in both, one that is missed is missing in both, and so on. Every rule then leaves behind what
is related again. -/

namespace QueryOutline

/-- Whether a token is taken for what it is by every rule that takes it. A quote without its partner
is taken by none, and the signs of the logical operators stand for words. -/
def Token.isSteady : Token → Bool
  | .openString _ | .mark .both | .mark .either => false
  | _ => true

namespace Grammar

open Reading

/-- The tokens of which a rule asks whether they are next. -/
def askedFor : List Token :=
  [.mark .openParen, .mark .closeParen, .mark .comma, .mark .assign, .keyword .isIn, .keyword .asc,
    .keyword .desc]

/-- Wherever a rule looks at lexemes, it finds the same in those that are related to them. -/
structure Transfers (related : List Lexeme → List Lexeme → Prop) : Prop where
  uncons : ∀ {lexeme lexemes others}, lexeme.token.isSteady = true →
    related (lexeme :: lexemes) others →
    ∃ other more, others = other :: more ∧ other.token = lexeme.token ∧ related lexemes more
  /-- At the very end a closing parenthesis may be there in the second sequence only. -/
  missing : ∀ {token lexemes others}, token ∈ askedFor →
    token ≠ .mark .closeParen ∨ lexemes ≠ [] → related lexemes others →
    eat? token lexemes = none → eat? token others = none
  optional : ∀ {token lexemes others}, token ∈ askedFor → related lexemes others →
    related (eatOptional token lexemes) (eatOptional token others)
  logical : ∀ {lexemes others operator rest}, related lexemes others →
    nextOperator? logicalOperator? lexemes = some (operator, rest) →
    ∃ more, nextOperator? logicalOperator? others = some (operator, more) ∧ related rest more
  noOperator : ∀ {operator? lexemes others},
    operator? = comparison? ∨ operator? = logicalOperator? → related lexemes others →
    nextOperator? operator? lexemes = none → nextOperator? operator? others = none
  members : ∀ {lexemes others} (object : Expr), related lexemes others →
    (members object others).1 = (members object lexemes).1 ∧
      related (members object lexemes).2 (members object others).2
  group : ∀ {lexemes others}, related lexemes others →
    related (splitGroup 0 lexemes).content (splitGroup 0 others).content ∧
      related (splitGroup 0 lexemes).rest (splitGroup 0 others).rest
  afterClause : ∀ {lexemes others}, related lexemes others →
    related (afterClause 0 lexemes) (afterClause 0 others)
  skipped : ∀ {lexeme lexemes others}, opensStatement lexeme.token = false →
    related (lexeme :: lexemes) others →
    ∃ other more, others = other :: more ∧ opensStatement other.token = false ∧
      related lexemes more
  ended : ∀ {others} (omits : Bool), related [] others → Derives (.body omits others [])

/-- The same value is derived from all lexemes that are related to those of the judgement, and what
is left behind it is related, too. -/
def Judgement.Transferred (related : List Lexeme → List Lexeme → Prop) : Judgement → Prop
  | .operand lexemes value rest => ∀ others, related lexemes others →
      ∃ more, related rest more ∧ Derives (.operand others value more)
  | .comparison lexemes value rest => ∀ others, related lexemes others →
      ∃ more, related rest more ∧ Derives (.comparison others value more)
  | .chain left lexemes value rest => ∀ others, related lexemes others →
      ∃ more, related rest more ∧ Derives (.chain left others value more)
  | .expression lexemes value rest => ∀ others, related lexemes others →
      ∃ more, related rest more ∧ Derives (.expression others value more)
  | .arguments lexemes values rest => ∀ others, related lexemes others →
      ∃ more, related rest more ∧ Derives (.arguments others values more)
  | .criteria lexemes values rest => ∀ others, related lexemes others →
      ∃ more, related rest more ∧ Derives (.criteria others values more)
  | .clause omits lexemes value rest => ∀ others, related lexemes others →
      ∃ more, related rest more ∧ Derives (.clause omits others value more)
  | .body omits lexemes values => ∀ others, related lexemes others →
      Derives (.body omits others values)

/-- A token for which something is found is steady, if nothing is found for those that are not. -/
theorem isSteady_of_found {α : Type} {find : Token → Option α} {token : Token} {found : α}
    (hQuote : ∀ value, find (.openString value) = none) (hBoth : find (.mark .both) = none)
    (hEither : find (.mark .either) = none) (hFound : find token = some found) :
    token.isSteady = true := by
  unfold Token.isSteady
  split <;> simp_all

namespace Transfers

variable {related : List Lexeme → List Lexeme → Prop} {lexeme : Lexeme}
  {lexemes others rest : List Lexeme} {token : Token} (hTransfers : Transfers related)

include hTransfers

/-- A lexeme with a given token is related to one with the same token. -/
theorem take (hToken : lexeme.token = token) (hSteady : token.isSteady = true)
    (hRelated : related (lexeme :: lexemes) others) :
    ∃ other more, others = other :: more ∧ other.token = token ∧ related lexemes more := by
  subst hToken
  exact hTransfers.uncons hSteady hRelated

/-- A token that stands for something is found again, because the tokens that may differ stand for
nothing here. -/
theorem found {α : Type} {find : Token → Option α} {value : α}
    (hQuote : ∀ value, find (.openString value) = none) (hBoth : find (.mark .both) = none)
    (hEither : find (.mark .either) = none) (hFound : find lexeme.token = some value)
    (hRelated : related (lexeme :: lexemes) others) :
    ∃ other more, others = other :: more ∧ find other.token = some value ∧
      related lexemes more := by
  have hSteady := isSteady_of_found hQuote hBoth hEither hFound
  obtain ⟨other, more, rfl, hToken, hRest⟩ := hTransfers.uncons hSteady hRelated
  exact ⟨other, more, rfl, by rw [hToken, hFound], hRest⟩

/-- A steady token is taken in both or in neither. -/
theorem eat? (hSteady : token.isSteady = true) (hRelated : related lexemes others)
    (hEaten : Reading.eat? token lexemes = some rest) :
    ∃ more, Reading.eat? token others = some more ∧ related rest more := by
  obtain ⟨lexeme, rfl, hToken⟩ := eat?_eq_some hEaten
  obtain ⟨other, more, rfl, hOther, hRest⟩ := hTransfers.take hToken hSteady hRelated
  exact ⟨more, by simp [Reading.eat?, hOther], hRest⟩

/-- The comparison operators are steady tokens, unlike the signs of the logical ones. -/
theorem comparison {operator : Operator} (hRelated : related lexemes others)
    (hNext : nextOperator? comparison? lexemes = some (operator, rest)) :
    ∃ more, nextOperator? comparison? others = some (operator, more) ∧ related rest more := by
  obtain ⟨lexeme, rfl, hOperator⟩ := nextOperator?_eq_some hNext
  obtain ⟨other, more, rfl, hOther, hRest⟩ :=
    hTransfers.found (fun _ => rfl) rfl rfl hOperator hRelated
  exact ⟨more, by simp [nextOperator?, hOther], hRest⟩

theorem direction {order : Direction} (hRelated : related lexemes others)
    (hOrder : Reading.direction lexemes = (order, rest)) :
    ∃ more, Reading.direction others = (order, more) ∧ related rest more := by
  unfold Reading.direction at hOrder ⊢
  cases hEaten : Reading.eat? (.keyword .desc) lexemes with
  | some behind =>
      obtain ⟨more, hMore, hRest⟩ := hTransfers.eat? rfl hRelated hEaten
      simp only [hEaten, Prod.mk.injEq] at hOrder
      obtain ⟨rfl, rfl⟩ := hOrder
      exact ⟨more, by simp only [hMore], hRest⟩
  | none =>
      have hMissing := hTransfers.missing (by decide) (.inl (by decide)) hRelated hEaten
      simp only [hEaten, Prod.mk.injEq] at hOrder
      obtain ⟨rfl, rfl⟩ := hOrder
      exact ⟨_, by simp only [hMissing], hTransfers.optional (by decide) hRelated⟩

end Transfers

/-- Where the lexemes are related one look at a time, every derivation is transferred. -/
theorem Derives.transfers {related : List Lexeme → List Lexeme → Prop}
    (hTransfers : Transfers related) {judgement : Judgement} (derivation : Derives judgement) :
    judgement.Transferred related := by
  induction derivation with
  | literal hLiteral =>
      intro others hRelated
      obtain ⟨other, more, rfl, hOther, hRest⟩ :=
        hTransfers.found (fun _ => rfl) rfl rfl hLiteral hRelated
      exact ⟨more, hRest, .literal hOther⟩
  | parameter hToken =>
      intro others hRelated
      obtain ⟨other, more, rfl, hOther, hRest⟩ := hTransfers.take hToken rfl hRelated
      obtain ⟨hValue, hBehind⟩ := hTransfers.members _ hRest
      exact ⟨_, hBehind, hValue ▸ .parameter hOther⟩
  | name hToken hNoCall =>
      intro others hRelated
      obtain ⟨other, more, rfl, hOther, hRest⟩ := hTransfers.take hToken rfl hRelated
      obtain ⟨hValue, hBehind⟩ := hTransfers.members _ hRest
      have hMissing := hTransfers.missing (by decide) (.inl (by decide)) hRest hNoCall
      exact ⟨_, hBehind, hValue ▸ .name hOther hMissing⟩
  | emptyCall hName hOpen hClose =>
      intro others hRelated
      obtain ⟨other, more, rfl, hOther, hRest⟩ :=
        hTransfers.found (fun _ => rfl) rfl rfl hName hRelated
      obtain ⟨inside, hOpened, hInside⟩ := hTransfers.eat? rfl hRest hOpen
      obtain ⟨after, hClosed, hAfter⟩ := hTransfers.eat? rfl hInside hClose
      exact ⟨after, hAfter, .emptyCall hOther hOpened hClosed⟩
  | call hName hOpen hMore hArguments ih =>
      intro others hRelated
      obtain ⟨other, more, rfl, hOther, hRest⟩ :=
        hTransfers.found (fun _ => rfl) rfl rfl hName hRelated
      obtain ⟨inside, hOpened, hInside⟩ := hTransfers.eat? rfl hRest hOpen
      -- There is an argument, so that the lexemes do not end behind the parenthesis.
      have hSome := List.ne_nil_of_length_pos
        (Nat.lt_of_le_of_lt (Nat.zero_le _) hArguments.advances.2)
      have hMissing := hTransfers.missing (by decide) (.inr hSome) hInside hMore
      obtain ⟨after, hAfter, hDerived⟩ := ih inside hInside
      exact ⟨_, hTransfers.optional (by decide) hAfter, .call hOther hOpened hMissing hDerived⟩
  | group hOpen _ ih =>
      intro others hRelated
      obtain ⟨other, more, rfl, hOther, hRest⟩ := hTransfers.take hOpen rfl hRelated
      obtain ⟨hContent, hBehind⟩ := hTransfers.group hRest
      exact ⟨_, hBehind, .group hOther (ih _ hContent)⟩
  | single _ hEnd ih =>
      intro others hRelated
      obtain ⟨more, hMore, hDerived⟩ := ih others hRelated
      exact ⟨more, hMore, .single hDerived (hTransfers.noOperator (.inl rfl) hMore hEnd)⟩
  | compare _ hOperator _ ihLeft ihRight =>
      intro others hRelated
      obtain ⟨middle, hMiddle, hLeft⟩ := ihLeft others hRelated
      obtain ⟨second, hNext, hSecond⟩ := hTransfers.comparison hMiddle hOperator
      obtain ⟨more, hMore, hRight⟩ := ihRight second hSecond
      exact ⟨more, hMore, .compare hLeft hNext hRight⟩
  | chainEnd hEnd =>
      intro others hRelated
      exact ⟨others, hRelated, .chainEnd (hTransfers.noOperator (.inr rfl) hRelated hEnd)⟩
  | chainStep hOperator _ _ ihRight ihChain =>
      intro others hRelated
      obtain ⟨second, hNext, hSecond⟩ := hTransfers.logical hRelated hOperator
      obtain ⟨middle, hMiddle, hRight⟩ := ihRight second hSecond
      obtain ⟨more, hMore, hChain⟩ := ihChain middle hMiddle
      exact ⟨more, hMore, .chainStep hNext hRight hChain⟩
  | expression _ _ ihFirst ihChain =>
      intro others hRelated
      obtain ⟨middle, hMiddle, hFirst⟩ := ihFirst others hRelated
      obtain ⟨more, hMore, hChain⟩ := ihChain middle hMiddle
      exact ⟨more, hMore, .expression hFirst hChain⟩
  | lastArgument _ hEnd ih =>
      intro others hRelated
      obtain ⟨more, hMore, hValue⟩ := ih others hRelated
      have hMissing := hTransfers.missing (by decide) (.inl (by decide)) hMore hEnd
      exact ⟨more, hMore, .lastArgument hValue hMissing⟩
  | nextArgument _ hComma _ ihValue ihMore =>
      intro others hRelated
      obtain ⟨middle, hMiddle, hValue⟩ := ihValue others hRelated
      obtain ⟨second, hNext, hSecond⟩ := hTransfers.eat? rfl hMiddle hComma
      obtain ⟨more, hMore, hOthers⟩ := ihMore second hSecond
      exact ⟨more, hMore, .nextArgument hValue hNext hOthers⟩
  | lastCriterion _ hOrder hEnd ih =>
      intro others hRelated
      obtain ⟨middle, hMiddle, hValue⟩ := ih others hRelated
      obtain ⟨more, hDirection, hMore⟩ := hTransfers.direction hMiddle hOrder
      have hMissing := hTransfers.missing (by decide) (.inl (by decide)) hMore hEnd
      exact ⟨more, hMore, .lastCriterion hValue hDirection hMissing⟩
  | nextCriterion _ hOrder hComma _ ihValue ihMore =>
      intro others hRelated
      obtain ⟨middle, hMiddle, hValue⟩ := ihValue others hRelated
      obtain ⟨ordered, hDirection, hOrdered⟩ := hTransfers.direction hMiddle hOrder
      obtain ⟨second, hNext, hSecond⟩ := hTransfers.eat? rfl hOrdered hComma
      obtain ⟨more, hMore, hOthers⟩ := ihMore second hSecond
      exact ⟨more, hMore, .nextCriterion hValue hDirection hNext hOthers⟩
  | @forIn _ _ _ _ _ _ middle _ hToken hName hSource hCollection =>
      intro others hRelated
      obtain ⟨opening, _, rfl, hOpening, hRest⟩ := hTransfers.take hToken rfl hRelated
      obtain ⟨named, behind, rfl, hNamed, hBehind⟩ := hTransfers.take hName rfl hRest
      have hOptional : related (eatOptional (.keyword .isIn) middle) _ :=
        hTransfers.optional (by decide) hBehind
      rw [hSource] at hOptional
      obtain ⟨source, more, hMore, hFound, hLeft⟩ :=
        hTransfers.found (fun _ => rfl) rfl rfl hCollection hOptional
      exact ⟨more, hLeft, .forIn hOpening hNamed hMore hFound⟩
  | filter hToken _ ih =>
      intro others hRelated
      obtain ⟨opening, _, rfl, hOpening, hRest⟩ := hTransfers.take hToken rfl hRelated
      obtain ⟨more, hMore, hCondition⟩ := ih _ hRest
      exact ⟨more, hMore, .filter hOpening hCondition⟩
  | omittedFilter hToken =>
      intro others hRelated
      obtain ⟨opening, _, rfl, hOpening, hRest⟩ := hTransfers.take hToken rfl hRelated
      exact ⟨_, hTransfers.afterClause hRest, .omittedFilter hOpening⟩
  | sort hToken _ ih =>
      intro others hRelated
      obtain ⟨opening, _, rfl, hOpening, hRest⟩ := hTransfers.take hToken rfl hRelated
      obtain ⟨more, hMore, hCriteria⟩ := ih _ hRest
      exact ⟨more, hMore, .sort hOpening hCriteria⟩
  | omittedSort hToken =>
      intro others hRelated
      obtain ⟨opening, _, rfl, hOpening, hRest⟩ := hTransfers.take hToken rfl hRelated
      exact ⟨_, hTransfers.afterClause hRest, .omittedSort hOpening⟩
  | limitCount hToken _ hEnd ih =>
      intro others hRelated
      obtain ⟨opening, _, rfl, hOpening, hRest⟩ := hTransfers.take hToken rfl hRelated
      obtain ⟨more, hMore, hCount⟩ := ih _ hRest
      have hMissing := hTransfers.missing (by decide) (.inl (by decide)) hMore hEnd
      exact ⟨more, hMore, .limitCount hOpening hCount hMissing⟩
  | limitBoth hToken _ hComma _ ihOffset ihCount =>
      intro others hRelated
      obtain ⟨opening, _, rfl, hOpening, hRest⟩ := hTransfers.take hToken rfl hRelated
      obtain ⟨middle, hMiddle, hOffset⟩ := ihOffset _ hRest
      obtain ⟨second, hNext, hSecond⟩ := hTransfers.eat? rfl hMiddle hComma
      obtain ⟨more, hMore, hCount⟩ := ihCount second hSecond
      exact ⟨more, hMore, .limitBoth hOpening hOffset hNext hCount⟩
  | letBe hToken hName _ ih =>
      intro others hRelated
      obtain ⟨opening, _, rfl, hOpening, hRest⟩ := hTransfers.take hToken rfl hRelated
      obtain ⟨named, behind, rfl, hNamed, hBehind⟩ := hTransfers.take hName rfl hRest
      obtain ⟨more, hMore, hValue⟩ := ih _ (hTransfers.optional (by decide) hBehind)
      exact ⟨more, hMore, .letBe hOpening hNamed hValue⟩
  | skipped hToken =>
      intro others hRelated
      obtain ⟨other, more, rfl, hOther, hRest⟩ := hTransfers.skipped hToken hRelated
      exact ⟨_, hTransfers.afterClause hRest, .skipped hOther⟩
  | bodyEnd =>
      intro others hRelated
      exact hTransfers.ended _ hRelated
  | bodyStep _ _ ihClause ihBody =>
      intro others hRelated
      obtain ⟨more, hMore, hClause⟩ := ihClause others hRelated
      exact .bodyStep hClause (ihBody more hMore)

end Grammar

end QueryOutline
