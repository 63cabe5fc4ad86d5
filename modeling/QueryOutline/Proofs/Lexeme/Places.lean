import QueryOutline.Proofs.Lexeme.Joining

/-! Where the lexemes of a text lie. Each of them is what the scanner finds at the place where it
starts, knowing nothing of the lexemes in front but whether the last one is a dot. They follow one
another without overlap, and what lies between them are blanks. -/

namespace QueryOutline

open Text

/-- An item of a list that is put together is in the first part or in the second. -/
theorem append_eq_append_cons {α : Type} {first second before behind : List α} {item : α}
    (hList : first ++ second = before ++ item :: behind) :
    (∃ more, first = before ++ item :: more) ∨
      ∃ more, before = first ++ more ∧ second = more ++ item :: behind := by
  obtain ⟨more, hBefore, hSecond⟩ | ⟨more, hFirst, hRest⟩ := List.append_eq_append_iff.mp hList
  · exact .inr ⟨more, hBefore, hSecond⟩
  · cases more with
    | nil => exact .inr ⟨[], by simpa using hFirst.symm, hRest.symm⟩
    | cons other more =>
        obtain ⟨rfl, -⟩ := List.cons.inj hRest
        exact .inl ⟨more, hFirst⟩

namespace Scanner

section Places

variable {text : List Char} {offset : Nat} {afterDot : Bool}

/-- A lexeme is scanned from the place where it starts. -/
theorem exists_scan {front back : List Lexeme} {lexeme : Lexeme}
    (hLexemes : (Scanner.mk text offset afterDot).lexemes = front ++ lexeme :: back) :
    ∃ (before : List Char) (c : Char) (rest : List Char), text = before ++ c :: rest ∧
      isBlank c = false ∧
      lexeme = ⟨(scanToken (endsInDot afterDot front) c rest).token, offset + byteSize before,
        offset + byteSize before +
          byteSize (scanToken (endsInDot afterDot front) c rest).source⟩ := by
  induction text, offset, afterDot using Scanner.induction generalizing front with
  | hEnd => simp at hLexemes
  | hBlank d text offset afterDot hBlank ih =>
      rw [lexemes_blank hBlank] at hLexemes
      obtain ⟨before, c, rest, rfl, hSolid, hLexeme⟩ := ih hLexemes
      refine ⟨d :: before, c, rest, rfl, hSolid, ?_⟩
      rw [byteSize, ← Nat.add_assoc, hLexeme]
  | hSolid d text offset afterDot hSolid ih =>
      rw [lexemes_solid hSolid] at hLexemes
      cases front with
      | nil =>
          obtain ⟨rfl, -⟩ := List.cons.inj hLexemes
          exact ⟨[], d, text, rfl, hSolid, rfl⟩
      | cons first front =>
          obtain ⟨rfl, hBehind⟩ := List.cons.inj hLexemes
          obtain ⟨before, c, rest, hText, hSolid, hLexeme⟩ := ih hBehind
          refine ⟨(scanToken afterDot d text).source ++ before, c, rest, ?_, hSolid, ?_⟩
          · rw [List.append_assoc, ← hText, scanToken_append]
          · rw [endsInDot_cons, byteSize_append, ← Nat.add_assoc, hLexeme]

/-- Lexemes are scanned from the front, so that none starts before the place where the scanner
is. -/
theorem offset_le_start {lexeme : Lexeme}
    (hMember : lexeme ∈ (Scanner.mk text offset afterDot).lexemes) : offset ≤ lexeme.start := by
  obtain ⟨front, back, hLexemes⟩ := List.append_of_mem hMember
  obtain ⟨before, c, rest, -, -, rfl⟩ := exists_scan hLexemes
  exact Nat.le_add_right _ _

/-- No lexeme starts before those in front of it have ended. -/
theorem pairwise_lexemes (text : List Char) (offset : Nat) (afterDot : Bool) :
    (Scanner.mk text offset afterDot).lexemes.Pairwise fun left right =>
      left.stop ≤ right.start := by
  induction text, offset, afterDot using Scanner.induction with
  | hEnd => exact .nil
  | hBlank c text offset afterDot hBlank ih => rwa [lexemes_blank hBlank]
  | hSolid c text offset afterDot hSolid ih =>
      rw [lexemes_solid hSolid]
      exact .cons (fun _ => offset_le_start) ih

/-- A character of the text is a blank, or it lies in a lexeme from its first byte to its last. -/
theorem blank_or_held {before behind : List Char} {c : Char}
    (hText : text = before ++ c :: behind) :
    isBlank c = true ∨ ∃ lexeme ∈ (Scanner.mk text offset afterDot).lexemes,
      lexeme.start ≤ offset + byteSize before ∧
        offset + byteSize before + c.utf8Size ≤ lexeme.stop := by
  induction text, offset, afterDot using Scanner.induction generalizing before with
  | hEnd => simp at hText
  | hBlank d text offset afterDot hBlank ih =>
      rw [lexemes_blank hBlank]
      cases before with
      | nil =>
          obtain ⟨rfl, -⟩ := List.cons.inj hText
          exact .inl hBlank
      | cons d' before =>
          obtain ⟨rfl, hRest⟩ := List.cons.inj hText
          rw [byteSize, ← Nat.add_assoc]
          exact ih hRest
  | hSolid d text offset afterDot hSolid ih =>
      rw [lexemes_solid hSolid]
      rw [← scanToken_append afterDot d text] at hText
      rcases append_eq_append_cons hText with ⟨more, hSource⟩ | ⟨more, hBefore, hRest⟩
      · refine .inr ⟨_, List.mem_cons_self .., Nat.le_add_right _ _, ?_⟩
        simp only [hSource, byteSize_append, byteSize]
        omega
      · rw [hBefore, byteSize_append, ← Nat.add_assoc]
        rcases ih hRest with hBlank | ⟨lexeme, hMember, hHeld⟩
        · exact .inl hBlank
        · exact .inr ⟨lexeme, List.mem_cons_of_mem _ hMember, hHeld⟩

end Places

/-- Taking the next lexeme again and again gives these lexemes, and then there are no more. -/
inductive Gives : Scanner → List Lexeme → Prop where
  | done {scanner : Scanner} (hEnd : scanner.next.1 = none) : Gives scanner []
  | step {scanner after : Scanner} {lexeme : Lexeme} {lexemes : List Lexeme}
      (hNext : scanner.next = (some lexeme, after)) (hRest : Gives after lexemes) :
      Gives scanner (lexeme :: lexemes)

/-- Every scanner comes to an end, and has then given its lexemes. -/
theorem gives_lexemes (scanner : Scanner) : scanner.Gives scanner.lexemes := by
  induction hLength : scanner.rest.length using Nat.strongRecOn generalizing scanner with
  | ind length ih =>
      rw [lexemes_eq]
      rcases hNext : scanner.next with ⟨found, after⟩
      cases found with
      | none => exact .done (by rw [hNext])
      | some lexeme =>
          have hShorter := next_rest_length_lt hNext
          exact .step hNext (ih _ (by omega) after rfl)

end Scanner

/-- The lexeme takes its source out of the text, between what is before it and what is behind it. -/
structure Lexeme.CutFrom (text : String) (before source behind : List Char) (lexeme : Lexeme) :
    Prop where
  parts : text.toList = before ++ (source ++ behind)
  start : lexeme.start = byteSize before
  stop : lexeme.stop = byteSize before + byteSize source

/-- Each lexeme of a text is cut from where its token is scanned. -/
theorem Lexeme.exists_cutFrom {text : String} {front back : List Lexeme} {lexeme : Lexeme}
    (hLexemes : lexemes text = front ++ lexeme :: back) :
    ∃ (before : List Char) (c : Char) (rest : List Char), isBlank c = false ∧
      lexeme.token = (scanToken (endsInDot false front) c rest).token ∧
      lexeme.CutFrom text before (scanToken (endsInDot false front) c rest).source
        (scanToken (endsInDot false front) c rest).rest := by
  obtain ⟨before, c, rest, hText, hSolid, rfl⟩ := Scanner.exists_scan hLexemes
  refine ⟨before, c, rest, hSolid, rfl, ?_, Nat.zero_add _, ?_⟩
  · rw [scanToken_append]
    exact hText
  · simp only [Nat.zero_add]

end QueryOutline
