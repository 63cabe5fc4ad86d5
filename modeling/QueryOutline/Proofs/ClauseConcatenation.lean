import QueryOutline.Proofs.Grammar.Relocation
import QueryOutline.Proofs.Grammar.Sequences

/-! Queries that are written one behind the other. A text whose clauses can be read, followed by a
space and by another text that starts with a clause, is read as the first and then as the second. A
fault of the second is found as far behind as the second was moved. -/

namespace QueryOutline

open Grammar Reading Text

theorem endsInDot_eq_false {lexemes : List Lexeme}
    (hNoDot : ∀ lexeme ∈ lexemes.getLast?, lexeme.token ≠ .mark .dot) :
    endsInDot false lexemes = false := by
  unfold endsInDot
  cases hLast : lexemes.getLast? with
  | none => rfl
  | some lexeme => simpa using hNoDot lexeme hLast

/-- The lexemes of two texts with a space between them are those of the first and, moved behind it,
those of the second. -/
theorem lexemes_append_space {front : String} (back : String)
    (hClosed : QuotesClosed (lexemes front))
    (hNoDot : ∀ lexeme ∈ (lexemes front).getLast?, lexeme.token ≠ .mark .dot) :
    lexemes (front ++ " " ++ back) =
      lexemes front ++ (lexemes back).map (Lexeme.shift (byteSize front.toList + 1)) := by
  have hSpace : StartsApart (' ' :: back.toList) := startsApart_cons.mpr (by decide)
  have hText : (front ++ " " ++ back).toList = front.toList ++ ' ' :: back.toList := by simp
  rw [lexemes, Scanner.ofText, hText, Scanner.lexemes_append hSpace front.toList 0 false hClosed]
  change lexemes front ++ (Scanner.mk _ _ (endsInDot false (lexemes front))).lexemes = _
  rw [endsInDot_eq_false hNoDot, Scanner.lexemes_blank (by decide), Nat.zero_add, lexemes_at]
  rfl

theorem letBound_append (options : Options) (front back : List Lexeme) :
    options.letBound (front ++ back) = (options.letBound front || options.letBound back) := by
  simp [Options.letBound, Bool.or_assoc, Bool.or_left_comm]

theorem letBound_shift (options : Options) (bytes : Nat) (lexemes : List Lexeme) :
    options.letBound (lexemes.map (Lexeme.shift bytes)) = options.letBound lexemes :=
  ((Relocation.lexemes_shift bytes 0 0 lexemes).letBound options).symm

theorem Grammar.StartsClause.shift {lexemes : List Lexeme} (hClause : StartsClause lexemes)
    (bytes : Nat) : StartsClause (lexemes.map (Lexeme.shift bytes)) := by
  cases lexemes with
  | nil => exact nofun
  | cons lexeme lexemes =>
      rintro _ ⟨⟩
      exact hClause lexeme rfl

/-- Clauses in front of others are read as they are alone, and so are the others, but with every
fault as far behind as they were moved. -/
theorem Grammar.Derives.scopeBody_append_shift {scope alone : Scope} {front back : List Lexeme}
    {values : List Statement} {budget bytes : Nat}
    (derivation : Derives (.body scope.omitsBodies front values))
    (hNesting : bodyNesting values ≤ budget) (hClosed : Closed front) (hBack : StartsClause back)
    (hOmits : scope.omitsBodies = alone.omitsBodies) (hLimit : scope.limit = alone.limit)
    (hEnd : scope.endOffset = alone.endOffset + bytes) :
    (scopeBody budget scope (front ++ back.map (Lexeme.shift bytes))).result =
      ((scopeBody budget alone back).result.mapError (Fault.shift bytes)).map (values ++ ·) := by
  rw [derivation.scopeBody_append hNesting hClosed (hBack.shift bytes),
    scopeBody_shift hOmits hLimit hEnd]

/-- Clauses that can be read by themselves, in front of a text that starts with a clause: what is
read is the clauses of both, or the fault of the second, as many bytes further on as it was moved.
Nothing else is needed of the second text, which may have faults and open parentheses. -/
theorem ofText_append_space {options : Options} {front back : String} {query : Query}
    (hPaired : Paired (lexemes front)) (hClosed : QuotesClosed (lexemes front))
    (hNoDot : ∀ lexeme ∈ (lexemes front).getLast?, lexeme.token ≠ .mark .dot)
    (hBack : StartsClause (lexemes back))
    (hLet : options.letBound (lexemes front) = options.letBound (lexemes back))
    (hFront : Query.ofText options front = .ok query) :
    Query.ofText options (front ++ " " ++ back) =
      match Query.ofText options back with
      | .ok other => .ok ⟨query.body ++ other.body⟩
      | .error fault => .error (fault.shift (byteSize front.toList + 1)) := by
  obtain ⟨hDerived, hNesting⟩ := ofText_ok_iff.mp hFront
  have hLexemes := lexemes_append_space back hClosed hNoDot
  have hBytes : byteSize (front ++ " " ++ back).toList =
      byteSize back.toList + (byteSize front.toList + 1) := by
    have hSpace : byteSize " ".toList = 1 := rfl
    simp only [String.toList_append, byteSize_append, hSpace]
    omega
  generalize front ++ " " ++ back = text at hLexemes hBytes ⊢
  -- Both texts bind variables or neither does, and so does what they make up.
  have hLetBound : options.letBound (lexemes text) = options.letBound (lexemes front) := by
    rw [hLexemes, letBound_append, letBound_shift, ← hLet, Bool.or_self]
  have hOmits : (options.scope (byteSize text.toList) (lexemes text)).omitsBodies =
      (options.scope (byteSize back.toList) (lexemes back)).omitsBodies := hLetBound.trans hLet
  have hOmitsFront : options.letBound (lexemes front) =
      (options.scope (byteSize text.toList) (lexemes text)).omitsBodies := hLetBound.symm
  rw [hOmitsFront] at hDerived
  have hBody := hDerived.scopeBody_append_shift hNesting hPaired.closed hBack hOmits rfl hBytes
  rw [← hLexemes] at hBody
  rw [ofText_eq_map, ofText_eq_map, hBody]
  cases (scopeBody options.maxDepth _ (lexemes back)).result <;> rfl

/-- Behind the same clauses, others can be read that leave a parenthesis open, and a fault of others
is found where they have been moved to. -/
theorem ofText_append_space_both :
    Query.ofText ⟨4, false⟩ ("FOR d IN docs FILTER LEN(d.a) > d" ++ " " ++ "COLLECT (d LIMIT d") =
      .ok ⟨[.forIn "d" "docs", .filter (.binary .greater
        (.call "LEN" [.member (.identifier "d") "a"]) (.identifier "d"))]⟩ ∧
    Query.ofText ⟨4, false⟩ ("FOR d IN docs FILTER LEN(d.a) > d" ++ " " ++ "SORT d.a, LIMIT d)") =
      .error (.expectedExpression 44 (some (.keyword .limit))) := by
  have hFront : Query.ofText ⟨4, false⟩ "FOR d IN docs FILTER LEN(d.a) > d" =
      .ok ⟨[.forIn "d" "docs", .filter (.binary .greater
        (.call "LEN" [.member (.identifier "d") "a"]) (.identifier "d"))]⟩ := rfl
  have hNoDot : ∀ lexeme ∈ (lexemes "FOR d IN docs FILTER LEN(d.a) > d").getLast?,
      lexeme.token ≠ .mark .dot := by decide +kernel
  constructor
  · refine (ofText_append_space (by decide +kernel) (by decide +kernel) hNoDot ?_
      (by decide +kernel) hFront).trans rfl
    rintro _ ⟨⟩
    rfl
  · refine (ofText_append_space (by decide +kernel) (by decide +kernel) hNoDot ?_
      (by decide +kernel) hFront).trans rfl
    rintro _ ⟨⟩
    rfl

end QueryOutline
