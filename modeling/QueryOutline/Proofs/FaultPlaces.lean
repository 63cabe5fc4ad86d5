import QueryOutline.Proofs.Grammar.Sites
import QueryOutline.Proofs.Lexeme.Joining

/-! Where faults are placed. The offset of a fault is that of the lexeme at which the reading
stopped, or that of the end of the text. A group is read by itself, but its lexemes stand in one
piece among those of the text, and a closing parenthesis is behind them if not the end of the
text. -/

namespace QueryOutline

def Fault.offset? : Fault → Option Nat
  | .expectedVariable offset | .expectedCollection offset | .expectedExpression offset _
  | .unterminatedString offset => some offset
  | .nestingTooDeep _ => none

/-- Whether a token stands for a value or starts one: a literal, a quote, a name, a parameter or an
opening parenthesis. -/
def Token.startsValue : Token → Bool
  | .number _ | .float _ | .string _ | .openString _ | .boolean _ | .null | .identifier _
  | .parameter _ | .mark .openParen => true
  | .keyword _ | .mark _ | .symbol _ => false

/-- The offset of a place in a text with this number of bytes, given by the lexemes from it on. -/
def placeOffset (bytes : Nat) (back : List Lexeme) : Nat :=
  (back.head?.map Lexeme.start).getD bytes

/-- A fault says what is at its offset, in a text with this number of bytes and these lexemes. -/
def Fault.Placed (bytes : Nat) (lexemes : List Lexeme) : Fault → Prop
  | .expectedVariable offset =>
      ∃ front opening back, lexemes = front ++ opening :: back ∧ offset = placeOffset bytes back ∧
        (opening.token = .keyword .forIn ∨ opening.token = .keyword .letBe) ∧
        ∀ lexeme ∈ back.head?, ∀ name, lexeme.token ≠ .identifier name
  | .expectedCollection offset =>
      ∃ front back, lexemes = front ++ back ∧ offset = placeOffset bytes back ∧
        ∀ lexeme ∈ back.head?, Reading.collection? lexeme.token = none
  | .expectedExpression offset (some found) =>
      ∃ front lexeme back, lexemes = front ++ lexeme :: back ∧ offset = lexeme.start ∧
        found = lexeme.token ∧ found.startsValue = false
  | .expectedExpression offset none =>
      ∃ front back, lexemes = front ++ back ∧ offset = placeOffset bytes back ∧
        ∀ lexeme ∈ back.head?, lexeme.token = .mark .closeParen
  | .unterminatedString offset =>
      ∃ front lexeme, lexemes = front ++ [lexeme] ∧ offset = lexeme.start ∧ lexeme.stop = bytes ∧
        ∃ value, lexeme.token = .openString value
  | .nestingTooDeep _ => True

/-- The offset of a fault is that of a lexeme, or that of the end of the text. -/
theorem Fault.Placed.offset_cases {bytes : Nat} {lexemes : List Lexeme} {fault : Fault}
    (hPlaced : fault.Placed bytes lexemes) :
    ∀ offset ∈ fault.offset?, offset = bytes ∨ ∃ lexeme ∈ lexemes, offset = lexeme.start := by
  have hPlace : ∀ front back, lexemes = front ++ back → placeOffset bytes back = bytes ∨
      ∃ lexeme ∈ lexemes, placeOffset bytes back = lexeme.start := by
    rintro front back rfl
    cases back with
    | nil => exact .inl rfl
    | cons lexeme back => exact .inr ⟨lexeme, by simp, rfl⟩
  intro offset hOffset
  cases fault with
  | expectedVariable _ =>
      obtain rfl := Option.some.inj hOffset
      obtain ⟨front, opening, back, hLexemes, rfl, -⟩ := hPlaced
      exact hPlace (front ++ [opening]) back (by simp [hLexemes])
  | expectedCollection _ =>
      obtain rfl := Option.some.inj hOffset
      obtain ⟨front, back, hLexemes, rfl, -⟩ := hPlaced
      exact hPlace front back hLexemes
  | expectedExpression _ found =>
      obtain rfl := Option.some.inj hOffset
      cases found with
      | none =>
          obtain ⟨front, back, hLexemes, rfl, -⟩ := hPlaced
          exact hPlace front back hLexemes
      | some found =>
          obtain ⟨front, lexeme, back, rfl, rfl, -⟩ := hPlaced
          exact .inr ⟨lexeme, by simp, rfl⟩
  | unterminatedString _ =>
      obtain rfl := Option.some.inj hOffset
      obtain ⟨front, lexeme, rfl, rfl, -⟩ := hPlaced
      exact .inr ⟨lexeme, by simp, rfl⟩
  | nestingTooDeep _ => cases hOffset

namespace Grammar

open Reading

section Groups

def Site.scope : Site → Scope
  | .operand _ scope _ | .comparison _ scope _ | .chain _ scope _ | .expression _ scope _
  | .arguments _ scope _ | .criteria _ scope _ | .clause _ scope _ _ | .body _ scope _
  | .group _ scope _ => scope

/-- What is entered is in the same scope and reads the end of the lexemes, or it is a group. -/
theorem Enters.suffix_or_group {site next : Site} (enters : Enters site next) :
    (next.scope = site.scope ∧ next.lexemes <:+ site.lexemes) ∨
      ∃ lexeme rest, site.lexemes = lexeme :: rest ∧
        next.scope = site.scope.ofGroup (splitGroup 0 rest) ∧
        next.lexemes = (splitGroup 0 rest).content := by
  cases enters with
  | group _ => exact .inr ⟨_, _, rfl, rfl, rfl⟩
  | arguments _ hOpen _ =>
      exact .inl ⟨rfl, (eat?_suffix hOpen).trans (List.suffix_cons _ _)⟩
  | right hLeft hOperator =>
      exact .inl ⟨rfl, (nextOperator?_suffix hOperator).trans hLeft.advances.1⟩
  | link hOperator => exact .inl ⟨rfl, nextOperator?_suffix hOperator⟩
  | nextLink hOperator hRight =>
      exact .inl ⟨rfl, hRight.advances.1.trans (nextOperator?_suffix hOperator)⟩
  | chain hFirst => exact .inl ⟨rfl, hFirst.advances.1⟩
  | nextArgument hValue hComma =>
      exact .inl ⟨rfl, (eat?_suffix hComma).trans hValue.advances.1⟩
  | nextKey hValue hComma =>
      exact .inl ⟨rfl, ((eat?_suffix hComma).trans (direction_suffix _)).trans hValue.advances.1⟩
  | nextBound _ hOffset hComma =>
      exact .inl ⟨rfl, ((eat?_suffix hComma).trans hOffset.advances.1).trans
        (List.suffix_cons _ _)⟩
  | value _ _ =>
      exact .inl ⟨rfl, ((eatOptional_suffix _ _).trans (List.suffix_cons _ _)).trans
        (List.suffix_cons _ _)⟩
  | nextClause hClause => exact .inl ⟨rfl, hClause.advances.1⟩
  | condition _ _ | keys _ _ | bound _ => exact .inl ⟨rfl, List.suffix_cons _ _⟩
  | left | first | argument | key | clause | body => exact .inl ⟨rfl, List.suffix_refl _⟩

end Groups

section Places

/-- The lexemes of a place stand in one piece among those of the text, and its scope ends where the
lexemes behind them start. If there are any, the first of them is a closing parenthesis. -/
def Site.Within (bytes : Nat) (whole : List Lexeme) (site : Site) : Prop :=
  ∃ front behind, whole = front ++ (site.lexemes ++ behind) ∧
    site.scope.endOffset = placeOffset bytes behind ∧
    ∀ closing ∈ behind.head?, closing.token = .mark .closeParen

variable {bytes : Nat} {whole : List Lexeme}

/-- Whatever is entered stands in one piece, too. -/
theorem Enters.within (site next : Site) (enters : Enters site next)
    (hWithin : site.Within bytes whole) : next.Within bytes whole := by
  obtain ⟨front, behind, hWhole, hEnd, hClosing⟩ := hWithin
  rcases enters.suffix_or_group with ⟨hScope, taken, hTaken⟩ |
    ⟨lexeme, rest, hLexemes, hScope, hContent⟩
  · refine ⟨front ++ taken, behind, ?_, hScope ▸ hEnd, hClosing⟩
    rw [hWhole, ← hTaken]
    simp only [List.append_assoc]
  · obtain ⟨hUnclosed, hClosed⟩ := splitGroup_closing 0 rest
    have hRest := splitGroup_append 0 rest
    generalize splitGroup 0 rest = group at hScope hContent hUnclosed hClosed hRest
    subst hRest
    refine ⟨front ++ [lexeme], group.closing.toList ++ (group.rest ++ behind), ?_, ?_, ?_⟩
    · rw [hWhole, hLexemes, hContent]
      simp
    · rw [hScope, Scope.ofGroup]
      cases hGroup : group.closing with
      | none => simpa [hUnclosed hGroup] using hEnd
      | some closing => rfl
    · cases hGroup : group.closing with
      | none => simpa [hUnclosed hGroup] using hClosing
      | some closing => simpa using hClosed closing hGroup

/-- The offset of the lexemes that are left of a place is that of the same place in the text. -/
theorem Scope.offset_eq {scope : Scope} {behind : List Lexeme}
    (hEnd : scope.endOffset = placeOffset bytes behind) (lexemes : List Lexeme) :
    scope.offset lexemes = placeOffset bytes (lexemes ++ behind) := by
  cases lexemes with
  | nil => exact hEnd
  | cons lexeme lexemes => rfl

/-- What holds for the next lexeme that is left of a place, and for a closing parenthesis, holds for
the next lexeme of the text. -/
theorem forall_head?_append {next : Lexeme → Prop} {lexemes behind : List Lexeme}
    (hFirst : ∀ lexeme rest, lexemes = lexeme :: rest → next lexeme)
    (hClosing : ∀ closing ∈ behind.head?, closing.token = .mark .closeParen)
    (hParen : ∀ lexeme, lexeme.token = .mark .closeParen → next lexeme) :
    ∀ lexeme ∈ (lexemes ++ behind).head?, next lexeme := by
  cases lexemes with
  | nil => exact fun lexeme hHead => hParen lexeme (hClosing lexeme hHead)
  | cons first lexemes =>
      intro lexeme hHead
      obtain rfl := Option.some.inj hHead
      exact hFirst first lexemes rfl

/-- No operand starts with a lexeme that is a quote without its partner, or that neither is nor
starts a value. -/
theorem StartsNoOperand.operandFault_cases {lexeme : Lexeme} {rest : List Lexeme}
    (hNone : StartsNoOperand lexeme rest) :
    ((∃ value, lexeme.token = .openString value) ∧
      operandFault lexeme = .unterminatedString lexeme.start) ∨
    (lexeme.token.startsValue = false ∧
      operandFault lexeme = .expectedExpression lexeme.start (some lexeme.token)) := by
  unfold StartsNoOperand at hNone
  split at hNone <;> simp_all [Token.startsValue, operandFault]

/-- A reading that stops within a text places its fault there. -/
theorem Stops.placed {text : String} {site : Site} {fault : Fault} (stops : Stops site fault)
    (hWithin : site.Within (Text.byteSize text.toList) (lexemes text)) :
    fault.Placed (Text.byteSize text.toList) (lexemes text) := by
  obtain ⟨front, behind, hWhole, hEnd, hClosing⟩ := hWithin
  cases stops with
  | expression | group => trivial
  | nothing => exact ⟨front, behind, hWhole, hEnd, hClosing⟩
  | @operand _ _ lexeme rest hNone =>
      rcases hNone.operandFault_cases with ⟨⟨value, hToken⟩, hFault⟩ | ⟨hToken, hFault⟩
      · have hOpen : lexeme.token.isOpenString = true := by
          rw [hToken]
          rfl
        obtain ⟨hLast, hStop⟩ : rest ++ behind = [] ∧
            lexeme.stop = 0 + Text.byteSize text.toList := Scanner.openString_last hOpen hWhole
        rw [Nat.zero_add] at hStop
        rw [hFault]
        refine ⟨front, lexeme, ?_, rfl, hStop, value, hToken⟩
        rw [hWhole, Site.lexemes, List.cons_append, hLast]
      · rw [hFault]
        exact ⟨front, lexeme, rest ++ behind, hWhole, rfl, rfl, hToken⟩
  | @variableName _ _ lexeme rest hToken hNone =>
      refine ⟨front, lexeme, rest ++ behind, hWhole, Scope.offset_eq hEnd rest, hToken, ?_⟩
      refine forall_head?_append ?_ hClosing ?_
      · intro named more hRest name
        exact hNone named more name hRest
      · intro closing hParen name
        simp [hParen]
  | @collectionName _ _ lexeme named _ rest hToken hName hNone =>
      obtain ⟨taken, hTaken⟩ := eatOptional_suffix (.keyword .isIn) rest
      refine ⟨front ++ lexeme :: named :: taken, eatOptional (.keyword .isIn) rest ++ behind, ?_,
        Scope.offset_eq hEnd _, ?_⟩
      · rw [hWhole, Site.lexemes]
        conv => lhs; rw [← hTaken]
        simp
      · refine forall_head?_append ?_ hClosing ?_
        · intro source more hSource
          exact Option.eq_none_iff_forall_ne_some.mpr
            fun collection => hNone source more collection hSource
        · intro closing hParen
          simp [hParen, collection?]

end Places

end Grammar

open Grammar

/-- Faults are placed where they are. The offset of a fault is that of a lexeme of the text or that
of its end, and the fault says of the lexeme there what is true of it. A name is expected behind the
keyword of a loop or of a binding and in front of something else. Where an expression is expected,
the fault names the lexeme that is there, or no lexeme at the end of the text and at the parenthesis
that closes a group. A quote without its partner is the last lexeme and goes on up to the end. -/
theorem ofText_fault_placed {options : Options} {text : String} {fault : Fault}
    (hFault : Query.ofText options text = .error fault) :
    (∀ offset ∈ fault.offset?, offset = Text.byteSize text.toList ∨
      ∃ lexeme ∈ lexemes text, offset = lexeme.start) ∧
    fault.Placed (Text.byteSize text.toList) (lexemes text) := by
  suffices hPlaced : fault.Placed (Text.byteSize text.toList) (lexemes text) from
    ⟨hPlaced.offset_cases, hPlaced⟩
  rw [ofText_eq_bind] at hFault
  have hBody := Outcome.result_eq_error_of_bind (fun _ => ⟨_, rfl⟩) hFault
  have hFails : (Site.body options.maxDepth
      (options.scope (Text.byteSize text.toList) (lexemes text)) (lexemes text)).Fails fault :=
    ⟨_, hBody⟩
  have hStart : (Site.body options.maxDepth
      (options.scope (Text.byteSize text.toList) (lexemes text)) (lexemes text)).Within
        (Text.byteSize text.toList) (lexemes text) :=
    ⟨[], [], (List.append_nil _).symm, rfl, nofun⟩
  obtain ⟨stop, hWithin, hStops⟩ := Site.stops_within hStart Enters.within hFails
  exact hStops.placed hWithin

/-- In a group that ends too early, the fault is placed at its closing parenthesis. -/
theorem ofText_fault_placed_group :
    Query.ofText {} "LIMIT (LIMIT )" = .error (.expectedExpression 13 none) ∧
      ∃ front back, lexemes "LIMIT (LIMIT )" = front ++ back ∧ 13 = placeOffset 14 back ∧
        ∀ lexeme ∈ back.head?, lexeme.token = .mark .closeParen := by
  have hFault : Query.ofText {} "LIMIT (LIMIT )" = .error (.expectedExpression 13 none) := rfl
  exact ⟨hFault, (ofText_fault_placed hFault).2⟩

end QueryOutline
