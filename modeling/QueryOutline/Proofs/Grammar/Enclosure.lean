import QueryOutline.Proofs.Grammar.Pairing

/-! Which parentheses are open at a place among lexemes, and which keywords stand outside of all of
them. A closing parenthesis without a partner closes nothing, so that this makes sense for all
lexemes, whether their parentheses are in pairs or not. -/

namespace QueryOutline.Grammar

open Reading

section Open

def nestingBehind (nesting : Nat) (lexeme : Lexeme) : Nat :=
  match lexeme.token with
  | .mark .openParen => nesting + 1
  | .mark .closeParen => nesting - 1
  | _ => nesting

/-- The parentheses that are open behind the lexemes, if `nesting` are open in front of them. -/
def openParens (nesting : Nat) (lexemes : List Lexeme) : Nat :=
  lexemes.foldl nestingBehind nesting

variable {nesting : Nat} {lexeme : Lexeme}

theorem nestingBehind_open (hToken : lexeme.token = .mark .openParen) (nesting : Nat) :
    nestingBehind nesting lexeme = nesting + 1 := by
  simp only [nestingBehind, hToken]

/-- A closing parenthesis without a partner leaves none open, as the difference of natural numbers
does. -/
theorem nestingBehind_close (hToken : lexeme.token = .mark .closeParen) (nesting : Nat) :
    nestingBehind nesting lexeme = nesting - 1 := by
  simp only [nestingBehind, hToken]

theorem nestingBehind_plain (hOpen : lexeme.token ≠ .mark .openParen)
    (hClose : lexeme.token ≠ .mark .closeParen) (nesting : Nat) :
    nestingBehind nesting lexeme = nesting := by
  unfold nestingBehind
  split <;> simp_all

theorem openParens_cons (nesting : Nat) (lexeme : Lexeme) (lexemes : List Lexeme) :
    openParens nesting (lexeme :: lexemes) = openParens (nestingBehind nesting lexeme) lexemes :=
  rfl

theorem nestingBehind_mono {inner outer : Nat} (hLe : inner ≤ outer) (lexeme : Lexeme) :
    nestingBehind inner lexeme ≤ nestingBehind outer lexeme := by
  unfold nestingBehind
  split <;> omega

/-- With more parentheses open in front, no fewer are open behind. -/
theorem openParens_mono {inner outer : Nat} (hLe : inner ≤ outer) (lexemes : List Lexeme) :
    openParens inner lexemes ≤ openParens outer lexemes := by
  induction lexemes generalizing inner outer with
  | nil => exact hLe
  | cons lexeme lexemes ih => exact ih (nestingBehind_mono hLe lexeme)

/-- A keyword that starts a statement is no parenthesis. -/
theorem nestingBehind_of_opensStatement (hToken : opensStatement lexeme.token = true)
    (nesting : Nat) : nestingBehind nesting lexeme = nesting := by
  apply nestingBehind_plain
  · intro hOpen
    simp [hOpen, opensStatement] at hToken
  · intro hClose
    simp [hClose, opensStatement] at hToken

theorem startsClause_of_opensStatement {token : Token} (hToken : opensStatement token = true) :
    startsClause token = true := by
  unfold opensStatement at hToken
  split at hToken <;> first | rfl | cases hToken

/-- Where a clause ends, by the parentheses that are open: in front of the next one, behind a
closing parenthesis without a partner, or further on. -/
theorem afterClause_cons (nesting : Nat) (lexeme : Lexeme) (rest : List Lexeme) :
    afterClause nesting (lexeme :: rest) =
      if nesting = 0 ∧ startsClause lexeme.token then lexeme :: rest
      else if nesting = 0 ∧ lexeme.token = .mark .closeParen then rest
      else afterClause (nestingBehind nesting lexeme) rest := by
  by_cases hOpen : lexeme.token = .mark .openParen
  · simp [afterClause, hOpen, startsClause, nestingBehind]
  by_cases hClose : lexeme.token = .mark .closeParen
  · cases nesting <;> simp [afterClause, hClose, startsClause, nestingBehind]
  rw [nestingBehind_plain hOpen hClose]
  by_cases hKeyword : ∃ word, lexeme.token = .keyword word
  · obtain ⟨word, hWord⟩ := hKeyword
    simp [afterClause, hWord, startsClause]
  · have hStarts : startsClause lexeme.token = false := by
      unfold startsClause
      split <;> simp_all
    rw [afterClause_cons_plain (not_exists.mp hKeyword) hOpen hClose, if_neg (by simp [hStarts]),
      if_neg fun hBoth => hClose hBoth.2]

end Open

section Keywords

/-- Where the keywords of statements stand outside of all parentheses, if `nesting` of them are open
in front of the lexemes. A place is given by the lexemes from it on. -/
def outerKeywords : (nesting : Nat) → List Lexeme → List (List Lexeme)
  | _, [] => []
  | nesting, lexeme :: rest =>
      (if nesting = 0 ∧ opensStatement lexeme.token then [lexeme :: rest] else []) ++
        outerKeywords (nestingBehind nesting lexeme) rest

/-- A place among the lexemes is the first of them or one behind it, with the parentheses that the
first one leaves open. -/
theorem mem_outerKeywords_cons {nesting : Nat} {lexeme : Lexeme} {lexemes place : List Lexeme} :
    place ∈ outerKeywords nesting (lexeme :: lexemes) ↔
      (place = lexeme :: lexemes ∧ nesting = 0 ∧ opensStatement lexeme.token = true) ∨
        place ∈ outerKeywords (nestingBehind nesting lexeme) lexemes := by
  rw [outerKeywords, List.mem_append]
  apply or_congr_left
  split
  · rename_i hOuter
    simp [hOuter]
  · rename_i hInner
    simp [hInner]

/-- The keywords that are outside of the parentheses of a whole keep their order in its end. -/
theorem outerKeywords_sublist_append (nesting : Nat) (front lexemes : List Lexeme) :
    (outerKeywords (openParens nesting front) lexemes).Sublist
      (outerKeywords nesting (front ++ lexemes)) := by
  induction front generalizing nesting with
  | nil => exact List.Sublist.refl _
  | cons lexeme front ih => exact (ih _).trans (List.sublist_append_right _ _)

/-- With `nesting` parentheses open in front of the lexemes, every keyword of a statement among them
stands within parentheses. -/
def Enclosed (nesting : Nat) (lexemes : List Lexeme) : Prop :=
  ∀ index : Fin lexemes.length, opensStatement (lexemes.get index).token = true →
    openParens nesting (lexemes.take index) ≠ 0

instance (nesting : Nat) (lexemes : List Lexeme) : Decidable (Enclosed nesting lexemes) :=
  inferInstanceAs (Decidable (∀ _ : Fin lexemes.length, _ → _))

/-- A keyword of a statement that is outside of all parentheses with `inner` of them open in front
of the lexemes is also outside of them with `outer`. So where no parentheses are opened behind them,
the `outer` ones hold no such keyword. -/
def Sheltered (inner outer : Nat) (lexemes : List Lexeme) : Prop :=
  ∀ index : Fin lexemes.length, opensStatement (lexemes.get index).token = true →
    openParens inner (lexemes.take index) = 0 → openParens outer (lexemes.take index) = 0

instance (inner outer : Nat) (lexemes : List Lexeme) : Decidable (Sheltered inner outer lexemes) :=
  inferInstanceAs (Decidable (∀ _ : Fin lexemes.length, _ → _ → _))

variable {nesting inner outer : Nat} {lexeme : Lexeme} {lexemes : List Lexeme}

/-- A keyword at the front needs a parenthesis that is open already. -/
theorem enclosed_cons_iff :
    Enclosed nesting (lexeme :: lexemes) ↔
      (opensStatement lexeme.token = true → nesting ≠ 0) ∧
        Enclosed (nestingBehind nesting lexeme) lexemes :=
  Fin.forall_fin_succ

theorem enclosed_nil (nesting : Nat) : Enclosed nesting [] :=
  fun index => index.elim0

/-- More open parentheses in front enclose at least as much. -/
theorem Enclosed.mono (hLe : inner ≤ outer) (hEnclosed : Enclosed inner lexemes) :
    Enclosed outer lexemes := by
  intro index hToken
  have hInner := hEnclosed index hToken
  have hMore := openParens_mono hLe (lexemes.take index)
  omega

/-- A keyword at the front is compared with what is open there, and the rest with what is open
behind it. -/
theorem sheltered_cons_iff :
    Sheltered inner outer (lexeme :: lexemes) ↔
      (opensStatement lexeme.token = true → inner = 0 → outer = 0) ∧
        Sheltered (nestingBehind inner lexeme) (nestingBehind outer lexeme) lexemes :=
  Fin.forall_fin_succ

namespace Sheltered

theorem refl (nesting : Nat) (lexemes : List Lexeme) : Sheltered nesting nesting lexemes :=
  fun _ _ hOutside => hOutside

theorem trans {middle : Nat} (hInner : Sheltered inner middle lexemes)
    (hOuter : Sheltered middle outer lexemes) : Sheltered inner outer lexemes :=
  fun index hToken hOutside => hOuter index hToken (hInner index hToken hOutside)

/-- What is sheltered as a whole is sheltered at its end, with what the front leaves open. -/
theorem of_append {front : List Lexeme} (hSheltered : Sheltered inner outer (front ++ lexemes)) :
    Sheltered (openParens inner front) (openParens outer front) lexemes := by
  induction front generalizing inner outer with
  | nil => exact hSheltered
  | cons lexeme front ih => exact ih (sheltered_cons_iff.mp hSheltered).2

/-- Where a statement starts, none of the sheltering parentheses is open. -/
theorem eq_zero (hSheltered : Sheltered 0 outer (lexeme :: lexemes))
    (hToken : opensStatement lexeme.token = true) : outer = 0 :=
  (sheltered_cons_iff.mp hSheltered).1 hToken rfl

/-- Behind a part without outer keywords the same is to be shown as in front of it. -/
theorem append {part : List Lexeme} (hPart : Enclosed inner part)
    (hRest : Sheltered (openParens inner part) (openParens outer part) lexemes) :
    Sheltered inner outer (part ++ lexemes) := by
  induction part generalizing inner outer with
  | nil => exact hRest
  | cons lexeme part ih =>
      obtain ⟨hFirst, hPart⟩ := enclosed_cons_iff.mp hPart
      exact sheltered_cons_iff.mpr ⟨fun hToken hZero => absurd hZero (hFirst hToken),
        ih hPart hRest⟩

/-- With more parentheses open inside there are fewer outer keywords. -/
theorem mono {fewer : Nat} (hLe : fewer ≤ inner) (hSheltered : Sheltered fewer outer lexemes) :
    Sheltered inner outer lexemes := by
  intro index hToken hOutside
  have hFewer := openParens_mono hLe (lexemes.take index)
  exact hSheltered index hToken (by omega)

end Sheltered

end Keywords

end QueryOutline.Grammar
