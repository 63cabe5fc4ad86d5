import QueryOutline.Proofs.Grammar.Statements
import QueryOutline.Proofs.Grammar.Transfer
import QueryOutline.Proofs.Lexeme.Joining

/-! Closing parentheses at the end of a text. A group or a call that is not closed is read up to the
end as if it were closed there, and a closing parenthesis without a partner is stepped over, so that
a query stays the same however many of them are written behind it. -/

namespace QueryOutline

open Text

namespace Grammar

open Reading

/-- The second sequence of lexemes is the first with closing parentheses behind it. A quote without
its partner at the end of the first takes them, and stays without. -/
inductive Trailed : List Lexeme → List Lexeme → Prop where
  | parens {parens : List Lexeme}
      (hParens : ∀ lexeme ∈ parens, lexeme.token = .mark .closeParen) : Trailed [] parens
  | quote {quote taking : Lexeme} (hQuote : quote.token.isOpenString = true)
      (hTaking : taking.token.isOpenString = true) : Trailed [quote] [taking]
  | cons (lexeme : Lexeme) {lexemes trailed : List Lexeme} (hRest : Trailed lexemes trailed) :
      Trailed (lexeme :: lexemes) (lexeme :: trailed)

/-- A quote without its partner is the one token that the parentheses can change. -/
theorem isOpenString_of_isSteady {token : Token} (hSteady : token.isSteady = true) :
    token.isOpenString = false := by
  cases token with
  | openString value => cases hSteady
  | _ => rfl

theorem isOpenString_of_mem_askedFor {token : Token} (hAsked : token ∈ askedFor) :
    token.isOpenString = false :=
  (by decide : ∀ token ∈ askedFor, token.isOpenString = false) token hAsked

/-- Where something is found for a token but nothing for open quotes, the token is none of them. -/
theorem isOpenString_of_found {α : Type} {find : Token → Option α} {token : Token} {found : α}
    (hQuote : ∀ value, find (.openString value) = none) (hFound : find token = some found) :
    token.isOpenString = false := by
  cases token with
  | openString value => simp [hQuote] at hFound
  | _ => rfl

namespace Trailed

variable {lexeme : Lexeme} {lexemes trailed rest : List Lexeme} {token : Token}

theorem nil : Trailed [] [] :=
  .parens (List.forall_mem_nil _)

/-- A lexeme other than an open quote is still there. -/
theorem uncons (hTrailed : Trailed (lexeme :: lexemes) trailed)
    (hClosed : lexeme.token.isOpenString = false) :
    ∃ more, trailed = lexeme :: more ∧ Trailed lexemes more := by
  cases hTrailed with
  | quote hQuote => simp [hClosed] at hQuote
  | cons _ hRest => exact ⟨_, rfl, hRest⟩

/-- What is taken is in front of the parentheses, and what is left has them behind it. -/
theorem eat?_eq_some (hTrailed : Trailed lexemes trailed) (hToken : token.isOpenString = false)
    (hEaten : eat? token lexemes = some rest) :
    ∃ more, eat? token trailed = some more ∧ Trailed rest more := by
  obtain ⟨lexeme, rfl, rfl⟩ := Reading.eat?_eq_some hEaten
  obtain ⟨more, rfl, hRest⟩ := hTrailed.uncons hToken
  exact ⟨more, by simp [eat?], hRest⟩

/-- A token that is missing is missed still, unless it is a parenthesis at the very end. -/
theorem eat?_eq_none (hTrailed : Trailed lexemes trailed) (hToken : token.isOpenString = false)
    (hParen : token ≠ .mark .closeParen ∨ lexemes ≠ []) (hNone : eat? token lexemes = none) :
    eat? token trailed = none := by
  cases hTrailed with
  | parens hParens =>
      cases trailed with
      | nil => rfl
      | cons paren parens =>
          have hFirst := hParens paren (List.mem_cons_self ..)
          rcases hParen with hOther | hSome
          · simp [eat?, hFirst, hOther.symm]
          · exact absurd rfl hSome
  | @quote quote taking hQuote hTaking =>
      have hOther : taking.token ≠ token := by
        rintro rfl
        simp [hToken] at hTaking
      simp [eat?, hOther]
  | cons lexeme hRest => simpa [eat?] using hNone

/-- A token that is missing at the end is not found among the parentheses, unless it is one of
them. -/
theorem eatOptional (hTrailed : Trailed lexemes trailed) (hToken : token.isOpenString = false) :
    Trailed (eatOptional token lexemes) (eatOptional token trailed) := by
  unfold Reading.eatOptional
  cases hEaten : eat? token lexemes with
  | some rest =>
      obtain ⟨more, hMore, hRest⟩ := hTrailed.eat?_eq_some hToken hEaten
      simpa [hMore] using hRest
  | none =>
      cases lexemes with
      | cons lexeme lexemes =>
          rw [hTrailed.eat?_eq_none hToken (.inr (List.cons_ne_nil _ _)) hEaten]
          exact hTrailed
      | nil =>
          -- At the end, one of the parentheses may be what was missing.
          cases hTrailed with
          | parens hParens =>
              cases hMore : eat? token trailed with
              | none => exact .parens hParens
              | some more =>
                  obtain ⟨paren, rfl, -⟩ := Reading.eat?_eq_some hMore
                  exact .parens fun lexeme hMember =>
                    hParens lexeme (List.mem_cons_of_mem _ hMember)

section Operators

variable {operator? : Token → Option Operator} {operator : Operator}
  (hQuote : ∀ value, operator? (.openString value) = none)

include hQuote

theorem nextOperator?_eq_some (hTrailed : Trailed lexemes trailed)
    (hNext : nextOperator? operator? lexemes = some (operator, rest)) :
    ∃ more, nextOperator? operator? trailed = some (operator, more) ∧ Trailed rest more := by
  obtain ⟨lexeme, rfl, hOperator⟩ := Reading.nextOperator?_eq_some hNext
  obtain ⟨more, rfl, hRest⟩ := hTrailed.uncons (isOpenString_of_found hQuote hOperator)
  exact ⟨more, by simp [nextOperator?, hOperator], hRest⟩

/-- A closing parenthesis is no operator, so that no expression goes on with it. -/
theorem nextOperator?_eq_none (hParen : operator? (.mark .closeParen) = none)
    (hTrailed : Trailed lexemes trailed) (hNone : nextOperator? operator? lexemes = none) :
    nextOperator? operator? trailed = none := by
  cases hTrailed with
  | parens hParens =>
      cases trailed with
      | nil => rfl
      | cons paren parens =>
          simp [nextOperator?, hParens paren (List.mem_cons_self ..), hParen]
  | @quote quote taking _ hTaking =>
      cases hToken : taking.token with
      | openString value => simp [nextOperator?, hToken, hQuote]
      | _ => simp [hToken, Token.isOpenString] at hTaking
  | cons lexeme hRest => simpa [nextOperator?] using hNone

end Operators

theorem members (hTrailed : Trailed lexemes trailed) (object : Expr) :
    (members object trailed).1 = (members object lexemes).1 ∧
      Trailed (members object lexemes).2 (members object trailed).2 := by
  fun_induction Reading.members object lexemes generalizing trailed with
  | case1 object _ _ property _ _ rest ih =>
      obtain ⟨_, rfl, hNamed⟩ := hTrailed.uncons rfl
      obtain ⟨more, rfl, hRest⟩ := hNamed.uncons rfl
      rw [Reading.members]
      exact ih hRest
  | case2 object lexemes hNone =>
      have hSame : Reading.members object trailed = (object, trailed) := by
        apply members_eq_self
        rintro dot named rest name rfl hDot hName
        -- The dot and the name were there before: neither is a parenthesis or an open quote.
        cases hTrailed with
        | parens hParens => simp [hParens dot (List.mem_cons_self ..)] at hDot
        | cons _ hRest =>
            cases hRest with
            | parens hParens => simp [hParens named (List.mem_cons_self ..)] at hName
            | quote _ hTaking => simp [hName, Token.isOpenString] at hTaking
            | cons _ _ =>
                obtain ⟨_, _, _⟩ := dot
                obtain ⟨_, _, _⟩ := named
                obtain rfl := hDot
                obtain rfl := hName
                exact hNone _ _ _ _ _ _ rfl
      rw [hSame]
      exact ⟨rfl, hTrailed⟩

/-- A closing parenthesis without a partner ends the clause that is stepped over, and the others are
left. -/
theorem afterClause (hTrailed : Trailed lexemes trailed) (nesting : Nat) :
    Trailed (afterClause nesting lexemes) (afterClause nesting trailed) := by
  induction hTrailed generalizing nesting with
  | @parens parens hParens =>
      exact .parens fun lexeme hMember =>
        hParens lexeme ((afterClause_suffix nesting parens).subset hMember)
  | @quote quote taking hQuote hTaking =>
      have hSkipped : ∀ {lexeme : Lexeme}, lexeme.token.isOpenString = true →
          Reading.afterClause nesting [lexeme] = [] := by
        intro lexeme hOpen
        cases hToken : lexeme.token with
        | openString value => simp [Reading.afterClause, hToken]
        | _ => simp [hToken, Token.isOpenString] at hOpen
      rw [hSkipped hQuote, hSkipped hTaking]
      exact .nil
  | cons lexeme hRest ih =>
      cases hToken : lexeme.token with
      | keyword word =>
          simp only [Reading.afterClause, hToken]
          split
          · exact .cons lexeme hRest
          · exact ih nesting
      | mark sign =>
          cases sign with
          | openParen =>
              simp only [Reading.afterClause, hToken]
              exact ih (nesting + 1)
          | closeParen =>
              simp only [Reading.afterClause, hToken]
              cases nesting with
              | zero => exact hRest
              | succ nesting => exact ih nesting
          | _ =>
              simp only [Reading.afterClause, hToken]
              exact ih nesting
      | _ =>
          simp only [Reading.afterClause, hToken]
          exact ih nesting

theorem push {group other : Group} (hContent : Trailed group.content other.content)
    (hRest : Trailed group.rest other.rest) (lexeme : Lexeme) :
    Trailed (group.push lexeme).content (other.push lexeme).content ∧
      Trailed (group.push lexeme).rest (other.push lexeme).rest :=
  ⟨.cons lexeme hContent, hRest⟩

/-- A group that is not closed is closed by one of the parentheses behind it, if there are enough of
them, and those that are left stand behind the group. -/
theorem splitGroup (hTrailed : Trailed lexemes trailed) (nesting : Nat) :
    Trailed (splitGroup nesting lexemes).content (splitGroup nesting trailed).content ∧
      Trailed (splitGroup nesting lexemes).rest (splitGroup nesting trailed).rest := by
  induction hTrailed generalizing nesting with
  | @parens parens hParens =>
      constructor
      · exact .parens fun lexeme hMember =>
          hParens lexeme ((splitGroup_prefix_content nesting parens).subset hMember)
      · exact .parens fun lexeme hMember =>
          hParens lexeme ((splitGroup_rest_suffix nesting parens).subset hMember)
  | @quote quote taking hQuote hTaking =>
      have hContent : ∀ {lexeme : Lexeme}, lexeme.token.isOpenString = true →
          Reading.splitGroup nesting [lexeme] = ⟨[lexeme], none, []⟩ := by
        intro lexeme hOpen
        cases hToken : lexeme.token with
        | openString value => simp [Reading.splitGroup, hToken, Group.push]
        | _ => simp [hToken, Token.isOpenString] at hOpen
      rw [hContent hQuote, hContent hTaking]
      exact ⟨.quote hQuote hTaking, .nil⟩
  | cons lexeme hRest ih =>
      by_cases hOpen : lexeme.token = .mark .openParen
      · rw [splitGroup_cons_open hOpen, splitGroup_cons_open hOpen]
        exact push (ih (nesting + 1)).1 (ih (nesting + 1)).2 lexeme
      by_cases hClose : lexeme.token = .mark .closeParen
      · cases nesting with
        | zero =>
            simp only [Reading.splitGroup, hClose]
            exact ⟨.nil, hRest⟩
        | succ nesting =>
            rw [splitGroup_cons_close hClose, splitGroup_cons_close hClose]
            exact push (ih nesting).1 (ih nesting).2 lexeme
      · rw [splitGroup_cons_plain hOpen hClose, splitGroup_cons_plain hOpen hClose]
        exact push (ih nesting).1 (ih nesting).2 lexeme

/-- No keyword is a parenthesis or an open quote, so that a query binds variables as before. -/
theorem letBound (hTrailed : Trailed lexemes trailed) (options : Options) :
    options.letBound trailed = options.letBound lexemes := by
  unfold Options.letBound
  congr 1
  induction hTrailed with
  | @parens parens hParens =>
      apply List.any_eq_false.mpr
      intro lexeme hMember
      simp [hParens lexeme hMember]
  | @quote quote taking hQuote hTaking =>
      have hOther : ∀ {lexeme : Lexeme}, lexeme.token.isOpenString = true →
          (lexeme.token == .keyword .letBe) = false := by
        intro lexeme hOpen
        cases hToken : lexeme.token with
        | openString value => rfl
        | _ => simp [hToken, Token.isOpenString] at hOpen
      simp [hOther hQuote, hOther hTaking]
  | cons lexeme _ ih => simp [ih]

end Trailed

section Derivations

/-- Closing parentheses by themselves are stepped over. -/
theorem derives_body_parens {parens : List Lexeme} (omits : Bool)
    (hParens : ∀ lexeme ∈ parens, lexeme.token = .mark .closeParen) :
    Derives (.body omits parens []) := by
  induction hLength : parens.length using Nat.strongRecOn generalizing parens with
  | ind length ih =>
      cases parens with
      | nil => exact .bodyEnd
      | cons paren parens =>
          have hSuffix := afterClause_suffix 0 parens
          have hLess := hSuffix.length_le
          have hStray : opensStatement paren.token = false := by
            rw [hParens paren (List.mem_cons_self ..)]
            rfl
          simp only [List.length_cons] at hLength
          refine .bodyStep (.skipped hStray) (ih _ (by omega) ?_ rfl)
          exact fun lexeme hMember =>
            hParens lexeme (List.mem_cons_of_mem _ (hSuffix.subset hMember))

/-- A quote without its partner starts no statement, so that its clause is stepped over to the
end. -/
theorem opensStatement_of_isOpenString {token : Token} (hOpen : token.isOpenString = true) :
    opensStatement token = false := by
  cases token with
  | openString => rfl
  | _ => cases hOpen

/-- Every rule finds what it looks for as before if closing parentheses are put behind the
lexemes. -/
theorem Trailed.transfers : Transfers Trailed where
  uncons hSteady hTrailed := by
    obtain ⟨more, rfl, hRest⟩ := hTrailed.uncons (isOpenString_of_isSteady hSteady)
    exact ⟨_, more, rfl, rfl, hRest⟩
  missing hAsked hParen hTrailed :=
    hTrailed.eat?_eq_none (isOpenString_of_mem_askedFor hAsked) hParen
  optional hAsked hTrailed := hTrailed.eatOptional (isOpenString_of_mem_askedFor hAsked)
  logical hTrailed hNext := hTrailed.nextOperator?_eq_some (fun _ => rfl) hNext
  noOperator hOperator hTrailed hNone := by
    rcases hOperator with rfl | rfl
    · exact hTrailed.nextOperator?_eq_none (fun _ => rfl) rfl hNone
    · exact hTrailed.nextOperator?_eq_none (fun _ => rfl) rfl hNone
  members object hTrailed := hTrailed.members object
  group hTrailed := hTrailed.splitGroup 0
  afterClause hTrailed := hTrailed.afterClause 0
  skipped hToken hTrailed := by
    cases hTrailed with
    | quote _ hTaking => exact ⟨_, _, rfl, opensStatement_of_isOpenString hTaking, .nil⟩
    | cons _ hRest => exact ⟨_, _, rfl, hToken, hRest⟩
  ended omits hTrailed := by
    cases hTrailed with
    | parens hParens => exact derives_body_parens omits hParens

/-- A body stays the same if closing parentheses are put behind its lexemes. -/
theorem Derives.staysTrailed {omits : Bool} {lexemes : List Lexeme} {values : List Statement}
    (derivation : Derives (.body omits lexemes values)) :
    ∀ trailed, Trailed lexemes trailed → Derives (.body omits trailed values) :=
  derivation.transfers Trailed.transfers

end Derivations

end Grammar

open Grammar

section Texts

/-- Without a quote in it, no text closes a string. A backslash cannot make one. -/
theorem scanQuoted_closed_of_not_mem {quote : Char} {text : List Char} (hNone : quote ∉ text) :
    (scanQuoted quote text).closed = false := by
  fun_induction scanQuoted quote text with
  | case1 => rfl
  | case2 => exact absurd (List.mem_cons_self ..) hNone
  | case3 => rfl
  | case4 escaped text scan hQuote ih =>
      exact ih fun hMember => hNone (List.mem_cons_of_mem _ (List.mem_cons_of_mem _ hMember))
  | case5 c text hQuote hPlain scan ih =>
      exact ih fun hMember => hNone (List.mem_cons_of_mem _ hMember)

/-- A quote without its partner stays so if no such quote is put behind it. -/
theorem scanQuoted_closed_append {quote : Char} {text more : List Char} (hNone : quote ∉ more)
    (hOpen : (scanQuoted quote text).closed = false) :
    (scanQuoted quote (text ++ more)).closed = false := by
  fun_induction scanQuoted quote text with
  | case1 => exact scanQuoted_closed_of_not_mem hNone
  | case2 => cases hOpen
  | case3 hQuote =>
      -- A backslash at the end takes away the meaning of the first character behind it.
      cases more with
      | nil => exact scanQuoted_closed_of_not_mem (by simpa using Ne.symm hQuote)
      | cons c more =>
          rw [List.singleton_append, scanQuoted_backslash (Ne.symm hQuote)]
          exact scanQuoted_closed_of_not_mem fun hMember => hNone (List.mem_cons_of_mem _ hMember)
  | case4 escaped text scan hQuote ih =>
      rw [List.cons_append, List.cons_append, scanQuoted_backslash (Ne.symm hQuote)]
      exact ih hOpen
  | case5 c text hQuote hPlain scan ih =>
      rw [List.cons_append, scanQuoted_plain hQuote hPlain]
      exact ih hOpen

/-- An open string stays open if parentheses are put behind it. -/
theorem scanToken_append_of_open {afterDot : Bool} {c : Char} {text : List Char}
    (hOpen : (scanToken afterDot c text).token.isOpenString = true) (count : Nat) :
    (scanToken afterDot c (text ++ List.replicate count ')')).token.isOpenString = true := by
  have hQuote := quote_of_openString hOpen
  have hNone : c ∉ List.replicate count ')' := by
    intro hMember
    obtain rfl := List.eq_of_mem_replicate hMember
    simp at hQuote
  rw [scanToken_quote hQuote, scanString_isOpenString, Bool.not_eq_true'] at hOpen ⊢
  exact scanQuoted_closed_append hNone hOpen

/-- Closing parentheses are lexemes one by one, wherever they stand. -/
theorem lexemes_parens (count offset : Nat) (afterDot : Bool) :
    ∀ lexeme ∈ (Scanner.mk (List.replicate count ')') offset afterDot).lexemes,
      lexeme.token = .mark .closeParen := by
  induction count generalizing offset afterDot with
  | zero => simp
  | succ count ih =>
      rw [List.replicate_succ, Scanner.lexemes_closeParen]
      exact List.forall_mem_cons.mpr ⟨rfl, ih _ _⟩

/-- Parentheses behind a text are lexemes behind its own, unless an open quote takes them. -/
theorem lexemes_trailed (count : Nat) (text : List Char) (offset : Nat) (afterDot : Bool) :
    Trailed (Scanner.mk text offset afterDot).lexemes
      (Scanner.mk (text ++ List.replicate count ')') offset afterDot).lexemes := by
  induction text, offset, afterDot using Scanner.induction with
  | hEnd offset afterDot => exact .parens (lexemes_parens count offset afterDot)
  | hBlank c text offset afterDot hBlank ih =>
      rw [Scanner.lexemes_blank hBlank, List.cons_append, Scanner.lexemes_blank hBlank]
      exact ih
  | hSolid c text offset afterDot hSolid ih =>
      rw [Scanner.lexemes_solid hSolid, List.cons_append, Scanner.lexemes_solid hSolid]
      cases hOpen : (scanToken afterDot c text).token.isOpenString with
      | true =>
          have hTaking := scanToken_append_of_open hOpen count
          simp only [scanToken_rest_of_openString hOpen, scanToken_rest_of_openString hTaking,
            Scanner.lexemes_nil]
          exact .quote hOpen hTaking
      | false =>
          have hApart : StartsApart (List.replicate count ')') := by
            intro c hFirst
            obtain rfl := List.eq_of_mem_replicate (List.mem_of_mem_head? hFirst)
            decide
          rw [scanToken_append_apart hApart hOpen]
          exact .cons _ ih

end Texts

/-- Closing parentheses behind a text that can be read change nothing in what is read: those that
were missing close the groups, the calls and the clauses that were open at the end, and the others
are stepped over. -/
theorem ofText_append_parens {options : Options} {text : String} {query : Query} (count : Nat)
    (hQuery : Query.ofText options text = .ok query) :
    Query.ofText options (text ++ String.ofList (List.replicate count ')')) = .ok query := by
  obtain ⟨hBody, hNesting⟩ := ofText_ok_iff.mp hQuery
  have hTrailed : Trailed (lexemes text)
      (lexemes (text ++ String.ofList (List.replicate count ')'))) := by
    have hLexemes := lexemes_trailed count text.toList 0 false
    rwa [lexemes, lexemes, Scanner.ofText, Scanner.ofText, String.toList_append,
      String.toList_ofList]
  refine ofText_ok_iff.mpr ⟨?_, hNesting⟩
  rw [hTrailed.letBound options]
  exact hBody.staysTrailed _ hTrailed

/-- A call in a group in a group, all of them open, is closed piece by piece and beyond, and an open
quote in a clause that is stepped over takes whatever is put behind it. -/
theorem ofText_append_parens_open :
    (∀ count ∈ [2, 9], Query.ofText ⟨4, false⟩
        ("LIMIT (LIMIT (LIMIT F(a.b" ++ String.ofList (List.replicate count ')')) =
      .ok ⟨[.limit (.number .zero) (.expression (.subquery [.limit (.number .zero)
        (.expression (.subquery [.limit (.number .zero) (.expression (.call "F"
          [.member (.identifier "a") "b"]))]))]))]⟩) ∧
    Query.ofText ⟨4, false⟩ ("FILTER (RETURN 'it\\" ++ String.ofList (List.replicate 3 ')')) =
      .ok ⟨[.filter (.subquery [])]⟩ := by
  have hNested : Query.ofText ⟨4, false⟩ "LIMIT (LIMIT (LIMIT F(a.b" =
      .ok ⟨[.limit (.number .zero) (.expression (.subquery [.limit (.number .zero)
        (.expression (.subquery [.limit (.number .zero) (.expression (.call "F"
          [.member (.identifier "a") "b"]))]))]))]⟩ := rfl
  have hLexemes : lexemes "FILTER (RETURN 'it\\" = [⟨.keyword .filter, 0, 6⟩,
      ⟨.mark .openParen, 7, 8⟩, ⟨.keyword .returns, 8, 14⟩, ⟨.openString "it", 15, 19⟩] := by
    decide +kernel
  have hQuoted : Query.ofText ⟨4, false⟩ "FILTER (RETURN 'it\\" =
      .ok ⟨[.filter (.subquery [])]⟩ := by
    rw [Query.ofText, Query.read, hLexemes]
    rfl
  exact ⟨fun count _ => ofText_append_parens count hNested, ofText_append_parens 3 hQuoted⟩

end QueryOutline
