import QueryOutline.Proofs.Grammar.Elision
import QueryOutline.Proofs.Grammar.Enclosure

/-! What the rules take from the lexemes. An expression closes no parenthesis that it has not
opened, and outside of its parentheses it takes the keyword of a statement for the name of a
function only. Nor does a clause that is stepped over take such a keyword outside of parentheses. -/

namespace QueryOutline.Grammar

open Reading

section SelfContained

/-- With `nesting` parentheses open in front of the lexemes, they close no more than are open, and a
keyword of a statement among them that is outside of all parentheses names a function: it has an
opening parenthesis directly behind it. -/
def SelfContained : (nesting : Nat) → List Lexeme → Prop
  | _, [] => True
  | nesting, lexeme :: rest =>
      (lexeme.token = .mark .closeParen → nesting ≠ 0) ∧
      (opensStatement lexeme.token = true → nesting = 0 →
        ∃ inside, eat? (.mark .openParen) rest = some inside) ∧
      SelfContained (nestingBehind nesting lexeme) rest

/-- With `nesting` parentheses open in front of the lexemes, a keyword of a statement among them
that is outside of all parentheses names a function. They may close more than are open. -/
def OnlyCalls : (nesting : Nat) → List Lexeme → Prop
  | _, [] => True
  | nesting, lexeme :: rest =>
      (opensStatement lexeme.token = true → nesting = 0 →
        ∃ inside, eat? (.mark .openParen) rest = some inside) ∧
      OnlyCalls (nestingBehind nesting lexeme) rest

/-- A token that is taken is taken also if the lexemes go on. -/
theorem eat?_append_of_eq_some {token : Token} {lexemes rest : List Lexeme}
    (hEaten : eat? token lexemes = some rest) (more : List Lexeme) :
    eat? token (lexemes ++ more) = some (rest ++ more) := by
  obtain ⟨lexeme, rfl, hToken⟩ := eat?_eq_some hEaten
  simp [eat?, hToken]

variable {nesting inner outer : Nat} {lexemes : List Lexeme}

/-- More open parentheses in front allow more to be closed, and leave fewer keywords outside. -/
theorem SelfContained.mono (hLe : inner ≤ outer) (hInner : SelfContained inner lexemes) :
    SelfContained outer lexemes := by
  induction lexemes generalizing inner outer with
  | nil => trivial
  | cons lexeme lexemes ih =>
      obtain ⟨hClose, hCall, hRest⟩ := hInner
      refine ⟨fun hToken => ?_, fun hToken hZero => hCall hToken (by omega),
        ih (nestingBehind_mono hLe lexeme) hRest⟩
      have hPositive := hClose hToken
      omega

/-- What comes second starts with the parentheses that the first has left open. -/
theorem SelfContained.append {more : List Lexeme} (hFirst : SelfContained nesting lexemes)
    (hSecond : SelfContained (openParens nesting lexemes) more) :
    SelfContained nesting (lexemes ++ more) := by
  induction lexemes generalizing nesting with
  | nil => exact hSecond
  | cons lexeme lexemes ih =>
      obtain ⟨hClose, hCall, hRest⟩ := hFirst
      refine ⟨hClose, fun hToken hZero => ?_, ih hRest hSecond⟩
      obtain ⟨inside, hEaten⟩ := hCall hToken hZero
      exact ⟨inside ++ more, eat?_append_of_eq_some hEaten more⟩

/-- Parentheses that are open in front stay open. -/
theorem SelfContained.openParens_add (hContained : SelfContained nesting lexemes) (outside : Nat) :
    openParens (nesting + outside) lexemes = openParens nesting lexemes + outside := by
  induction lexemes generalizing nesting with
  | nil => rfl
  | cons lexeme lexemes ih =>
      obtain ⟨hClose, -, hRest⟩ := hContained
      have hBehind : nestingBehind (nesting + outside) lexeme =
          nestingBehind nesting lexeme + outside := by
        unfold nestingBehind
        split
        · omega
        · have hPositive := hClose ‹_›
          omega
        · rfl
      rw [openParens_cons, openParens_cons, hBehind, ih hRest]

/-- Without the condition on closing parentheses, what is said of keywords remains. -/
theorem SelfContained.onlyCalls (hContained : SelfContained nesting lexemes) :
    OnlyCalls nesting lexemes := by
  induction lexemes generalizing nesting with
  | nil => trivial
  | cons lexeme lexemes ih => exact ⟨hContained.2.1, ih hContained.2.2⟩

/-- Where no keyword is outside of parentheses, there is none to name a function. -/
theorem Enclosed.onlyCalls (hEnclosed : Enclosed nesting lexemes) : OnlyCalls nesting lexemes := by
  induction lexemes generalizing nesting with
  | nil => trivial
  | cons lexeme lexemes ih =>
      obtain ⟨hFirst, hRest⟩ := enclosed_cons_iff.mp hEnclosed
      exact ⟨fun hToken hZero => absurd hZero (hFirst hToken), ih hRest⟩

theorem OnlyCalls.mono (hLe : inner ≤ outer) (hInner : OnlyCalls inner lexemes) :
    OnlyCalls outer lexemes := by
  induction lexemes generalizing inner outer with
  | nil => trivial
  | cons lexeme lexemes ih =>
      exact ⟨fun hToken hZero => hInner.1 hToken (by omega),
        ih (nestingBehind_mono hLe lexeme) hInner.2⟩

end SelfContained

section Taking

/-- What is read from the lexemes up to the rest is self-contained. -/
def Takes (lexemes rest : List Lexeme) : Prop :=
  ∃ taken, lexemes = taken ++ rest ∧ SelfContained 0 taken

namespace Takes

variable {lexeme : Lexeme} {lexemes middle rest : List Lexeme}

theorem refl (lexemes : List Lexeme) : Takes lexemes lexemes :=
  ⟨[], rfl, trivial⟩

/-- What is taken in two steps is self-contained if both steps are. Parentheses that the first
leaves open do no harm to the second. -/
theorem trans (hFirst : Takes lexemes middle) (hSecond : Takes middle rest) :
    Takes lexemes rest := by
  obtain ⟨first, rfl, hFirst⟩ := hFirst
  obtain ⟨second, rfl, hSecond⟩ := hSecond
  exact ⟨first ++ second, (List.append_assoc ..).symm,
    hFirst.append (hSecond.mono (Nat.zero_le _))⟩

/-- A lexeme that neither closes a parenthesis nor starts a statement is taken by itself. -/
theorem single (hClose : lexeme.token ≠ .mark .closeParen)
    (hToken : opensStatement lexeme.token = false) (rest : List Lexeme) :
    Takes (lexeme :: rest) rest :=
  ⟨[lexeme], rfl, fun hClosing => absurd hClosing hClose,
    fun hOpens => absurd hOpens (by simp [hToken]), trivial⟩

/-- A single token is self-contained unless it is a closing parenthesis or the keyword of a
statement. -/
theorem of_eat? {token : Token} (hClose : token ≠ .mark .closeParen)
    (hToken : opensStatement token = false) (hEaten : eat? token lexemes = some rest) :
    Takes lexemes rest := by
  obtain ⟨lexeme, rfl, rfl⟩ := eat?_eq_some hEaten
  exact single hClose hToken rest

theorem eatOptional {token : Token} (hClose : token ≠ .mark .closeParen)
    (hToken : opensStatement token = false) (lexemes : List Lexeme) :
    Takes lexemes (Reading.eatOptional token lexemes) := by
  unfold Reading.eatOptional
  cases hEaten : eat? token lexemes with
  | none => exact refl lexemes
  | some rest => exact of_eat? hClose hToken hEaten

/-- An operator is neither a closing parenthesis nor the keyword of a statement. -/
theorem of_nextOperator? {operator? : Token → Option Operator} {operator : Operator}
    (hClose : operator? (.mark .closeParen) = none)
    (hOpens : ∀ {token}, opensStatement token = true → operator? token = none)
    (hNext : nextOperator? operator? lexemes = some (operator, rest)) : Takes lexemes rest := by
  obtain ⟨lexeme, rfl, hFound⟩ := nextOperator?_eq_some hNext
  apply single
  · intro hToken
    simp [hToken, hClose] at hFound
  · by_contra hToken
    simp [hOpens (Bool.not_eq_false _ ▸ hToken)] at hFound

theorem direction (lexemes : List Lexeme) : Takes lexemes (Reading.direction lexemes).2 := by
  unfold Reading.direction
  split
  · rename_i rest hEaten
    exact of_eat? (by simp) rfl hEaten
  · exact eatOptional (by simp) rfl lexemes

/-- Dots and names are neither parentheses nor keywords. -/
theorem members (object : Expr) (lexemes : List Lexeme) :
    Takes lexemes (Reading.members object lexemes).2 := by
  fun_induction Reading.members object lexemes with
  | case1 object _ _ property _ _ rest ih =>
      exact ((single (by simp) rfl _).trans (single (by simp) rfl _)).trans ih
  | case2 => exact refl _

/-- A name, its parenthesis and what is taken behind it, with the closing parenthesis if it is
there. -/
theorem call {name : String} {inside after : List Lexeme}
    (hName : callee? lexeme.token = some name)
    (hOpen : eat? (.mark .openParen) lexemes = some inside) (hInside : Takes inside after) :
    Takes (lexeme :: lexemes) (Reading.eatOptional (.mark .closeParen) after) := by
  obtain ⟨paren, rfl, hParen⟩ := eat?_eq_some hOpen
  obtain ⟨taken, rfl, hTaken⟩ := hInside
  have hPlain : nestingBehind 0 lexeme = 0 := by
    apply nestingBehind_plain <;> intro hToken <;> simp [hToken, callee?] at hName
  have hOpened : nestingBehind 0 paren = 1 := nestingBehind_open hParen 0
  have hFront : SelfContained 0 (lexeme :: paren :: taken) := by
    refine ⟨fun hToken => by simp [hToken, callee?] at hName, fun _ _ => ⟨taken, ?_⟩, ?_⟩
    · simp only [eat?, hParen, if_true]
    · rw [hPlain]
      refine ⟨by simp [hParen], by simp [hParen, opensStatement], ?_⟩
      rw [hOpened]
      exact hTaken.mono (Nat.zero_le 1)
  unfold Reading.eatOptional
  cases hClose : eat? (.mark .closeParen) after with
  | none => exact ⟨lexeme :: paren :: taken, rfl, hFront⟩
  | some rest =>
      obtain ⟨closing, rfl, hClosing⟩ := eat?_eq_some hClose
      refine ⟨lexeme :: paren :: taken ++ [closing], by simp, hFront.append ?_⟩
      have hStillOpen := hTaken.openParens_add 1
      rw [Nat.zero_add] at hStillOpen
      rw [openParens_cons, openParens_cons, hPlain, hOpened, hStillOpen]
      exact ⟨fun _ => Nat.succ_ne_zero _, by simp [hClosing, opensStatement], trivial⟩

end Takes

/-- A group and the parenthesis that closes it are within the one that opens it. -/
theorem selfContained_splitGroup (nesting : Nat) (lexemes : List Lexeme) :
    SelfContained (nesting + 1)
      ((splitGroup nesting lexemes).content ++ (splitGroup nesting lexemes).closing.toList) := by
  fun_induction splitGroup nesting lexemes with
  | case1 => trivial
  | case2 nesting lexeme rest hToken ih =>
      refine ⟨by simp [hToken], by simp [hToken, opensStatement], ?_⟩
      rw [nestingBehind_open hToken]
      exact ih
  | case3 lexeme rest hToken =>
      exact ⟨fun _ => Nat.succ_ne_zero _, by simp [hToken, opensStatement], trivial⟩
  | case4 lexeme rest hToken nesting ih =>
      refine ⟨fun _ => Nat.succ_ne_zero _, by simp [hToken, opensStatement], ?_⟩
      rw [nestingBehind_close hToken]
      exact ih
  | case5 nesting lexeme rest hOpen hClose ih =>
      refine ⟨fun hToken => absurd hToken hClose,
        fun _ hZero => absurd hZero (Nat.succ_ne_zero _), ?_⟩
      rw [nestingBehind_plain hOpen hClose]
      exact ih

/-- A group is self-contained with its opening parenthesis, whether it is closed or not. -/
theorem Takes.group {lexeme : Lexeme} (hOpen : lexeme.token = .mark .openParen)
    (lexemes : List Lexeme) : Takes (lexeme :: lexemes) (splitGroup 0 lexemes).rest := by
  refine ⟨lexeme :: ((splitGroup 0 lexemes).content ++ (splitGroup 0 lexemes).closing.toList),
    congrArg (lexeme :: ·) (splitGroup_append 0 lexemes).symm, by simp [hOpen],
    by simp [hOpen, opensStatement], ?_⟩
  rw [nestingBehind_open hOpen]
  exact selfContained_splitGroup 0 lexemes

def Judgement.Taking : Judgement → Prop
  | .operand lexemes _ rest | .comparison lexemes _ rest | .chain _ lexemes _ rest
  | .expression lexemes _ rest | .arguments lexemes _ rest | .criteria lexemes _ rest =>
      Takes lexemes rest
  | .clause _ _ _ _ | .body _ _ _ => True

/-- Expressions are self-contained. -/
theorem Derives.takes {judgement : Judgement} (derivation : Derives judgement) :
    judgement.Taking := by
  induction derivation with
  | @literal lexeme value rest hLiteral =>
      apply Takes.single
      · intro hToken
        simp [hToken, literal?] at hLiteral
      · unfold literal? at hLiteral
        split at hLiteral <;> simp_all [opensStatement]
  | parameter hToken =>
      exact (Takes.single (by simp [hToken]) (by simp [hToken, opensStatement]) _).trans
        (Takes.members _ _)
  | name hToken _ =>
      exact (Takes.single (by simp [hToken]) (by simp [hToken, opensStatement]) _).trans
        (Takes.members _ _)
  | @emptyCall lexeme name rest inside after hName hOpen hClose =>
      have hTaken := Takes.call hName hOpen (Takes.refl inside)
      rwa [eatOptional, hClose] at hTaken
  | call hName hOpen _ _ ih => exact Takes.call hName hOpen ih
  | group hOpen _ _ => exact Takes.group hOpen _
  | single _ _ ih => exact ih
  | compare _ hOperator _ ihLeft ihRight =>
      have hBetween := Takes.of_nextOperator? rfl
        (fun hToken => comparison?_of_startsClause (startsClause_of_opensStatement hToken))
        hOperator
      exact (ihLeft.trans hBetween).trans ihRight
  | chainEnd _ => exact Takes.refl _
  | chainStep hOperator _ _ ihRight ihChain =>
      have hBetween := Takes.of_nextOperator? rfl
        (fun hToken => logicalOperator?_of_startsClause (startsClause_of_opensStatement hToken))
        hOperator
      exact (hBetween.trans ihRight).trans ihChain
  | expression _ _ ihFirst ihChain => exact ihFirst.trans ihChain
  | lastArgument _ _ ih => exact ih
  | nextArgument _ hComma _ ihValue ihMore =>
      exact (ihValue.trans (Takes.of_eat? (by simp) rfl hComma)).trans ihMore
  | @lastCriterion _ middle _ _ _ _ hOrder _ ih =>
      have hDirection := Takes.direction middle
      rw [hOrder] at hDirection
      exact Takes.trans ih hDirection
  | @nextCriterion _ middle _ _ _ _ _ _ _ hOrder hComma _ ihValue ihMore =>
      have hDirection := Takes.direction middle
      rw [hOrder] at hDirection
      exact ((Takes.trans ihValue hDirection).trans (Takes.of_eat? (by simp) rfl hComma)).trans
        ihMore
  | forIn | filter | omittedFilter | sort | omittedSort | limitCount | limitBoth | letBe
  | skipped | bodyEnd | bodyStep => trivial

end Taking

section Clauses

/-- A clause that is stepped over takes no keyword of a statement outside of parentheses. -/
theorem enclosed_afterClause (nesting : Nat) (lexemes : List Lexeme) :
    ∃ taken, lexemes = taken ++ afterClause nesting lexemes ∧ Enclosed nesting taken := by
  induction lexemes generalizing nesting with
  | nil => exact ⟨[], rfl, enclosed_nil _⟩
  | cons lexeme lexemes ih =>
      rw [afterClause_cons]
      split
      · exact ⟨[], rfl, enclosed_nil _⟩
      rename_i hGo
      have hFirst : opensStatement lexeme.token = true → nesting ≠ 0 := by
        intro hToken hZero
        exact hGo ⟨hZero, startsClause_of_opensStatement hToken⟩
      split
      · exact ⟨[lexeme], rfl, enclosed_cons_iff.mpr ⟨hFirst, enclosed_nil _⟩⟩
      · obtain ⟨taken, hRest, hTaken⟩ := ih (nestingBehind nesting lexeme)
        exact ⟨lexeme :: taken, congrArg (lexeme :: ·) hRest,
          enclosed_cons_iff.mpr ⟨hFirst, hTaken⟩⟩

/-- A clause that is stepped over ends in front of the first keyword outside of its parentheses. -/
theorem Derives.clause_enclosed {omits : Bool} {lexemes rest : List Lexeme}
    (derivation : Derives (.clause omits lexemes none rest)) :
    ∃ taken, lexemes = taken ++ rest ∧ Enclosed 0 taken := by
  cases derivation with
  | @skipped _ lexeme more hToken =>
      obtain ⟨taken, hMore, hTaken⟩ := enclosed_afterClause 0 more
      refine ⟨lexeme :: taken, congrArg (lexeme :: ·) hMore, enclosed_cons_iff.mpr ⟨?_, ?_⟩⟩
      · simp [hToken]
      · exact hTaken.mono (Nat.zero_le _)

/-- A clause that is not stepped over is self-contained behind its keyword. -/
theorem Derives.clause_takes {omits : Bool} {lexeme : Lexeme} {lexemes rest : List Lexeme}
    {statement : Statement} (hKept : ¬statement.IsOmitted)
    (derivation : Derives (.clause omits (lexeme :: lexemes) (some statement) rest)) :
    Takes lexemes rest := by
  cases derivation with
  | @forIn _ _ named source _ _ middle _ _ hName hSource hCollection =>
      have hBehind : Takes middle (Reading.eatOptional (.keyword .isIn) middle) :=
        Takes.eatOptional (by simp) rfl middle
      rw [hSource] at hBehind
      have hLast : Takes (source :: rest) rest := by
        apply Takes.single
        · intro hToken
          simp [hToken, collection?] at hCollection
        · unfold collection? at hCollection
          split at hCollection <;> simp_all [opensStatement]
      exact ((Takes.single (by simp [hName]) (by simp [hName, opensStatement]) _).trans
        hBehind).trans hLast
  | filter _ hCondition => exact hCondition.takes
  | sort _ hCriteria => exact hCriteria.takes
  | omittedFilter | omittedSort => exact absurd trivial hKept
  | limitCount _ hCount _ => exact hCount.takes
  | limitBoth _ hOffset hComma hCount =>
      exact (Takes.trans hOffset.takes (Takes.of_eat? (by simp) rfl hComma)).trans hCount.takes
  | @letBe _ _ named _ more _ _ _ hName hValue =>
      exact ((Takes.single (by simp [hName]) (by simp [hName, opensStatement]) _).trans
        (Takes.eatOptional (by simp) rfl more)).trans hValue.takes

/-- No clause takes the keyword of a statement behind its first lexeme, other than in parentheses or
for the name of a function. -/
theorem Derives.clause_onlyCalls {omits : Bool} {lexemes rest : List Lexeme}
    {value : Option Statement} (derivation : Derives (.clause omits lexemes value rest)) :
    ∃ lexeme taken, lexemes = lexeme :: (taken ++ rest) ∧ OnlyCalls 0 taken := by
  obtain ⟨lexeme, more, rfl⟩ := derivation.clause_cons
  suffices hTaken : ∃ taken, more = taken ++ rest ∧ OnlyCalls 0 taken by
    obtain ⟨taken, rfl, hTaken⟩ := hTaken
    exact ⟨lexeme, taken, rfl, hTaken⟩
  have hSkipped : ∃ taken, more = taken ++ afterClause 0 more ∧ OnlyCalls 0 taken := by
    obtain ⟨taken, hMore, hTaken⟩ := enclosed_afterClause 0 more
    exact ⟨taken, hMore, hTaken.onlyCalls⟩
  cases value with
  | none =>
      cases derivation with
      | skipped _ => exact hSkipped
  | some statement =>
      by_cases hOmitted : statement.IsOmitted
      · cases derivation with
        | omittedFilter _ | omittedSort _ => exact hSkipped
        | _ => exact hOmitted.elim
      · obtain ⟨taken, hMore, hTaken⟩ := derivation.clause_takes hOmitted
        exact ⟨taken, hMore, hTaken.onlyCalls⟩

end Clauses

end QueryOutline.Grammar
