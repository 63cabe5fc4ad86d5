import Mathlib.Data.List.Forall2
import QueryOutline.Proofs.Grammar.Enclosure
import QueryOutline.Proofs.Grammar.Statements
import QueryOutline.Proofs.Grammar.Transfer

/-! The logical operators have a sign and a word each. Where a query is read, the signs may be
replaced by the words, as many of them as one likes and wherever they stand. The converse does not
hold: a word in front of an opening parenthesis may be the name of a function, and a sign is
none. -/

namespace QueryOutline

/-- The second token is the first, or the word for the logical operator whose sign the first is. -/
inductive Token.SpelledOut : Token → Token → Prop where
  | same (token : Token) : Token.SpelledOut token token
  | both : Token.SpelledOut (.mark .both) (.keyword .and)
  | either : Token.SpelledOut (.mark .either) (.keyword .or)

namespace Grammar

open Reading

section Tokens

variable {token word : Token} (hSpelled : token.SpelledOut word)

include hSpelled

/-- Only the signs of the logical operators can be replaced, and they are not steady. -/
theorem eq_of_isSteady (hSteady : token.isSteady = true) : word = token := by
  cases hSpelled with
  | same => rfl
  | both | either => cases hSteady

/-- No rule asks for a sign or a word of the logical operators, so that the answer is the same for
both. -/
theorem eq_iff_of_mem_askedFor {asked : Token} (hAsked : asked ∈ askedFor) :
    word = asked ↔ token = asked := by
  cases hSpelled with
  | same => rfl
  | both | either =>
      constructor <;> rintro rfl <;> exact absurd hAsked (by decide)

/-- The sign and the word stand for the same operator. -/
theorem logicalOperator?_spelledOut : logicalOperator? word = logicalOperator? token := by
  cases hSpelled <;> rfl

theorem comparison?_spelledOut : comparison? word = comparison? token := by
  cases hSpelled <;> rfl

theorem opensStatement_spelledOut : opensStatement word = opensStatement token := by
  cases hSpelled <;> rfl

/-- The words of the operators are keywords, but none that starts a clause. -/
theorem startsClause_spelledOut : startsClause word = startsClause token := by
  cases hSpelled <;> rfl

end Tokens

/-- Some signs of logical operators among the lexemes are replaced by their words. Where the lexemes
stand in a text makes no difference. -/
def SpelledOut : List Lexeme → List Lexeme → Prop :=
  List.Forall₂ fun lexeme word => lexeme.token.SpelledOut word.token

namespace SpelledOut

variable {lexeme : Lexeme} {lexemes words rest : List Lexeme} {token : Token}

theorem uncons (hSteady : lexeme.token.isSteady = true)
    (hSpelled : SpelledOut (lexeme :: lexemes) words) :
    ∃ word more, words = word :: more ∧ word.token = lexeme.token ∧ SpelledOut lexemes more := by
  obtain ⟨word, more, hFirst, hRest, rfl⟩ := List.forall₂_cons_left_iff.mp hSpelled
  exact ⟨word, more, rfl, eq_of_isSteady hFirst hSteady, hRest⟩

/-- What is asked for and is not there is not there after the replacement either. -/
theorem eat?_eq_none (hAsked : token ∈ askedFor) (hSpelled : SpelledOut lexemes words)
    (hNone : eat? token lexemes = none) : eat? token words = none := by
  cases hSpelled with
  | nil => rfl
  | cons hFirst _ => simpa [eat?, eq_iff_of_mem_askedFor hFirst hAsked] using hNone

theorem eatOptional (hAsked : token ∈ askedFor) (hSpelled : SpelledOut lexemes words) :
    SpelledOut (eatOptional token lexemes) (eatOptional token words) := by
  unfold Reading.eatOptional
  cases hSpelled with
  | nil => exact .nil
  | @cons first word lexemes words hFirst hRest =>
      by_cases hToken : first.token = token
      · have hWord := (eq_iff_of_mem_askedFor hFirst hAsked).mpr hToken
        simp only [eat?, hToken, hWord, if_true, Option.getD_some]
        exact hRest
      · have hWord := mt (eq_iff_of_mem_askedFor hFirst hAsked).mp hToken
        simp only [eat?, hToken, hWord, if_false, Option.getD_none]
        exact .cons hFirst hRest

theorem nextOperator?_logical {operator : Operator} (hSpelled : SpelledOut lexemes words)
    (hNext : nextOperator? logicalOperator? lexemes = some (operator, rest)) :
    ∃ more, nextOperator? logicalOperator? words = some (operator, more) ∧
      SpelledOut rest more := by
  obtain ⟨lexeme, rfl, hOperator⟩ := nextOperator?_eq_some hNext
  obtain ⟨word, more, hFirst, hRest, rfl⟩ := List.forall₂_cons_left_iff.mp hSpelled
  exact ⟨more, by simp [nextOperator?, logicalOperator?_spelledOut hFirst, hOperator], hRest⟩

theorem nextOperator?_eq_none {operator? : Token → Option Operator}
    (hOperator : operator? = comparison? ∨ operator? = logicalOperator?)
    (hSpelled : SpelledOut lexemes words) (hNone : nextOperator? operator? lexemes = none) :
    nextOperator? operator? words = none := by
  cases hSpelled with
  | nil => rfl
  | cons hFirst _ =>
      rcases hOperator with rfl | rfl
      · simpa [nextOperator?, comparison?_spelledOut hFirst] using hNone
      · simpa [nextOperator?, logicalOperator?_spelledOut hFirst] using hNone

/-- No sign is a dot or a name, so that a run of properties is as long as before. -/
theorem members (object : Expr) (hSpelled : SpelledOut lexemes words) :
    (members object words).1 = (members object lexemes).1 ∧
      SpelledOut (members object lexemes).2 (members object words).2 := by
  fun_induction Reading.members object lexemes generalizing words with
  | case1 object _ _ property _ _ rest ih =>
      obtain ⟨dot, _, rfl, hDot, hNamed⟩ := hSpelled.uncons rfl
      obtain ⟨named, more, rfl, hName, hRest⟩ := hNamed.uncons rfl
      rw [members_property hDot hName]
      exact ih hRest
  | case2 object lexemes hNone =>
      have hSame : Reading.members object words = (object, words) := by
        apply members_eq_self
        rintro dot named rest name rfl hDot hName
        -- Neither a dot nor a name is the word of an operator, so that both were there before.
        obtain ⟨⟨_, _, _⟩, _, hFirst, hMore, rfl⟩ := List.forall₂_cons_right_iff.mp hSpelled
        obtain ⟨⟨_, _, _⟩, _, hSecond, -, rfl⟩ := List.forall₂_cons_right_iff.mp hMore
        rw [hDot] at hFirst
        rw [hName] at hSecond
        cases hFirst
        cases hSecond
        exact hNone _ _ _ _ _ _ rfl
      rw [hSame]
      exact ⟨rfl, hSpelled⟩

theorem nestingBehind_eq {word : Lexeme} (hFirst : lexeme.token.SpelledOut word.token)
    (nesting : Nat) : nestingBehind nesting word = nestingBehind nesting lexeme := by
  unfold nestingBehind
  generalize lexeme.token = token at hFirst
  generalize word.token = other at hFirst
  cases hFirst <;> rfl

/-- A clause that is stepped over ends at the same place, since neither a sign nor its word ends
it. -/
theorem afterClause (hSpelled : SpelledOut lexemes words) (nesting : Nat) :
    SpelledOut (afterClause nesting lexemes) (afterClause nesting words) := by
  induction hSpelled generalizing nesting with
  | nil => exact .nil
  | cons hFirst hRest ih =>
      have hClose := eq_iff_of_mem_askedFor hFirst (by decide : .mark .closeParen ∈ askedFor)
      simp only [afterClause_cons, startsClause_spelledOut hFirst, hClose, nestingBehind_eq hFirst]
      split
      · exact .cons hFirst hRest
      split
      · exact hRest
      · exact ih _

/-- Neither a sign nor its word is a parenthesis. -/
theorem splitGroup (hSpelled : SpelledOut lexemes words) (nesting : Nat) :
    SpelledOut (splitGroup nesting lexemes).content (splitGroup nesting words).content ∧
      SpelledOut (splitGroup nesting lexemes).rest (splitGroup nesting words).rest := by
  induction hSpelled generalizing nesting with
  | nil => exact ⟨.nil, .nil⟩
  | @cons lexeme word lexemes words hFirst hRest ih =>
      have hOpens := eq_iff_of_mem_askedFor hFirst (by decide : .mark .openParen ∈ askedFor)
      have hCloses := eq_iff_of_mem_askedFor hFirst (by decide : .mark .closeParen ∈ askedFor)
      have hPush : ∀ nesting, SpelledOut ((Reading.splitGroup nesting lexemes).push lexeme).content
            ((Reading.splitGroup nesting words).push word).content ∧
          SpelledOut ((Reading.splitGroup nesting lexemes).push lexeme).rest
            ((Reading.splitGroup nesting words).push word).rest :=
        fun nesting => ⟨.cons hFirst (ih nesting).1, (ih nesting).2⟩
      by_cases hOpen : lexeme.token = .mark .openParen
      · rw [splitGroup_cons_open hOpen, splitGroup_cons_open (hOpens.mpr hOpen)]
        exact hPush (nesting + 1)
      by_cases hClose : lexeme.token = .mark .closeParen
      · cases nesting with
        | zero =>
            simp only [Reading.splitGroup, hClose, hCloses.mpr hClose]
            exact ⟨.nil, hRest⟩
        | succ nesting =>
            rw [splitGroup_cons_close hClose, splitGroup_cons_close (hCloses.mpr hClose)]
            exact hPush nesting
      · rw [splitGroup_cons_plain hOpen hClose,
          splitGroup_cons_plain (mt hOpens.mp hOpen) (mt hCloses.mp hClose)]
        exact hPush nesting

/-- Whatever is derived from lexemes is derived with the words in place of the signs. -/
theorem transfers : Transfers SpelledOut where
  uncons := uncons
  missing hAsked _ := eat?_eq_none hAsked
  optional := eatOptional
  logical := nextOperator?_logical
  noOperator := nextOperator?_eq_none
  members := members
  group hSpelled := hSpelled.splitGroup 0
  afterClause hSpelled := hSpelled.afterClause 0
  skipped hToken hSpelled := by
    obtain ⟨word, more, hFirst, hRest, rfl⟩ := List.forall₂_cons_left_iff.mp hSpelled
    exact ⟨word, more, rfl, by rw [opensStatement_spelledOut hFirst, hToken], hRest⟩
  ended omits hSpelled := by
    rw [List.forall₂_nil_left_iff.mp hSpelled]
    exact .bodyEnd

end SpelledOut

/-- A body that is read is read in the same way if any signs of logical operators are replaced by
their words, wherever these signs stand: between conditions, in clauses that are stepped over, in
groups and in front of parentheses. -/
theorem scopeBody_spelledOut {budget : Nat} {scope : Scope} {lexemes words : List Lexeme}
    {body : List Statement} (hSpelled : SpelledOut lexemes words)
    (hRead : (scopeBody budget scope lexemes).result = .ok body) :
    (scopeBody budget scope words).result = .ok body := by
  rw [scopeBody_ok_iff] at hRead ⊢
  exact ⟨hRead.1.transfers SpelledOut.transfers words hSpelled, hRead.2⟩

/-- Two of three signs are replaced, one in front of a group and one in a clause that is stepped
over. -/
theorem scopeBody_spelledOut_group :
    SpelledOut (lexemes "FILTER a && (b) || c RETURN &&")
        (lexemes "FILTER a AND (b) || c RETURN AND") ∧
      (scopeBody 2 ⟨2, false, false, 32⟩ (lexemes "FILTER a AND (b) || c RETURN AND")).result =
        .ok [.filter (.binary .or (.binary .and (.identifier "a") (.subquery []))
          (.identifier "c"))] := by
  have hSigns : lexemes "FILTER a && (b) || c RETURN &&" =
      [⟨.keyword .filter, 0, 6⟩, ⟨.identifier "a", 7, 8⟩, ⟨.mark .both, 9, 11⟩,
        ⟨.mark .openParen, 12, 13⟩, ⟨.identifier "b", 13, 14⟩, ⟨.mark .closeParen, 14, 15⟩,
        ⟨.mark .either, 16, 18⟩, ⟨.identifier "c", 19, 20⟩, ⟨.keyword .returns, 21, 27⟩,
        ⟨.mark .both, 28, 30⟩] := by
    decide +kernel
  have hWords : lexemes "FILTER a AND (b) || c RETURN AND" =
      [⟨.keyword .filter, 0, 6⟩, ⟨.identifier "a", 7, 8⟩, ⟨.keyword .and, 9, 12⟩,
        ⟨.mark .openParen, 13, 14⟩, ⟨.identifier "b", 14, 15⟩, ⟨.mark .closeParen, 15, 16⟩,
        ⟨.mark .either, 17, 19⟩, ⟨.identifier "c", 20, 21⟩, ⟨.keyword .returns, 22, 28⟩,
        ⟨.keyword .and, 29, 32⟩] := by
    decide +kernel
  have hSpelled : SpelledOut (lexemes "FILTER a && (b) || c RETURN &&")
      (lexemes "FILTER a AND (b) || c RETURN AND") := by
    rw [hSigns, hWords]
    exact .cons (.same _) (.cons (.same _) (.cons .both (.cons (.same _) (.cons (.same _)
      (.cons (.same _) (.cons (.same _) (.cons (.same _) (.cons (.same _)
        (.cons .both .nil)))))))))
  refine ⟨hSpelled, scopeBody_spelledOut hSpelled ?_⟩
  rw [hSigns]
  rfl

end Grammar

end QueryOutline
