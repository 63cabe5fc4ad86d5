import QueryOutline.Proofs.Writing.Scanning

/-! Parentheses are written in pairs, so that the content of a group is found again by counting
them. -/

namespace QueryOutline

open Reading

/-- The parentheses among the pieces are in pairs. -/
inductive Balanced : List Piece → Prop where
  | nil : Balanced []
  | single {piece : Piece} (hOpen : piece ≠ .mark .openParen) (hClose : piece ≠ .mark .closeParen) :
      Balanced [piece]
  | append {first second : List Piece} (hFirst : Balanced first) (hSecond : Balanced second) :
      Balanced (first ++ second)
  | enclosed {pieces : List Piece} (hInside : Balanced pieces) :
      Balanced ([.mark .openParen] ++ pieces ++ [.mark .closeParen])

namespace Balanced

theorem flatMap {α : Type} {pieces : α → List Piece} {items : List α}
    (hItems : ∀ item ∈ items, Balanced (pieces item)) : Balanced (items.flatMap pieces) := by
  induction items with
  | nil => exact nil
  | cons item items ih =>
      obtain ⟨hItem, hMore⟩ := List.forall_mem_cons.mp hItems
      exact hItem.append (ih hMore)

/-- Commas are no parentheses. -/
theorem commaed {items : List (List Piece)} (hItems : ∀ pieces ∈ items, Balanced pieces) :
    Balanced (commaed items) := by
  induction items with
  | nil => exact nil
  | cons first items ih =>
      obtain ⟨hFirst, hMore⟩ := List.forall_mem_cons.mp hItems
      cases items with
      | nil => simpa [QueryOutline.commaed, List.intercalate] using hFirst
      | cons second items =>
          rw [commaed_cons_cons]
          exact hFirst.append ((single (by simp) (by simp)).append (ih hMore))

theorem operator (operator : Operator) : Balanced [operator.piece] := by
  cases operator <;> exact single (by simp [Operator.piece]) (by simp [Operator.piece])

theorem bound {bound : Bound}
    (hValue : ∀ value, bound = .expression value → Balanced value.pieces) :
    Balanced bound.pieces := by
  cases bound with
  | number value => exact single (by simp) (by simp)
  | expression value => exact hValue value rfl

/-- What is written of an outline is balanced. -/
theorem holdsUpwards :
    HoldsUpwards (fun value => Balanced value.pieces)
      (fun statement => Balanced statement.pieces) where
  literal _ := single (by simp) (by simp)
  identifier _ := single (by simp) (by simp)
  member _ _ hObject := hObject.append (single (by simp) (by simp))
  call name arguments hArguments := by
    have hItems : ∀ pieces ∈ argumentsPieces arguments, Balanced pieces := by
      rw [argumentsPieces_eq_map, List.forall_mem_map]
      exact hArguments
    have hName : Balanced [.function name] := single (by simp) (by simp)
    exact hName.append (enclosed (commaed hItems))
  binary operator _ _ hLeft hRight := (hLeft.append (Balanced.operator operator)).append hRight
  subquery body hBody := by
    apply enclosed
    rw [bodyPieces_eq_flatMap]
    exact flatMap hBody
  forIn name collection := by
    have hWords : ∀ piece ∈ (Statement.forIn name collection).pieces, Balanced [piece] := by
      simp only [Statement.pieces, List.forall_mem_cons]
      exact ⟨single (by simp) (by simp), single (by simp) (by simp), single (by simp) (by simp),
        single (by simp) (by simp), by simp⟩
    simpa using flatMap hWords
  filter _ hCondition := (single (by simp) (by simp)).append hCondition
  omittedFilter := single (by simp) (by simp)
  sort criteria hCriteria := by
    have hItems : ∀ pieces ∈ criteriaPieces criteria, Balanced pieces := by
      rw [criteriaPieces_eq_map, List.forall_mem_map]
      rintro ⟨key, order⟩ hMember
      exact (hCriteria key order hMember).append
        (by cases order <;> exact single (by simp [Direction.piece]) (by simp [Direction.piece]))
    exact (single (by simp) (by simp)).append (commaed hItems)
  omittedSort := single (by simp) (by simp)
  limit offset count hOffset hCount := by
    have hLimit : Balanced [.keyword .limit] := single (by simp) (by simp)
    cases offset with
    | number value => exact hLimit.append (bound hCount)
    | expression value =>
        exact ((hLimit.append (hOffset value rfl)).append (single (by simp) (by simp))).append
          (bound hCount)
  letBe name value hValue := by
    have hLet : Balanced [.keyword .letBe] := single (by simp) (by simp)
    have hName : Balanced [.variableName name] := single (by simp) (by simp)
    exact ((hLet.append hName).append (single (by simp) (by simp))).append hValue

/-- Every statement is written with its parentheses in pairs, however its groups are nested. -/
theorem body (body : List Statement) : Balanced (bodyPieces body) := by
  rw [bodyPieces_eq_flatMap]
  exact flatMap fun statement _ => holdsUpwards.statement statement

end Balanced

/-- What is scanned as two runs of pieces is scanned as the first in front of the second. -/
theorem Spelled.of_append {first second : List Piece} {lexemes : List Lexeme}
    (hSpelled : Spelled (first ++ second) lexemes) :
    ∃ front back, lexemes = front ++ back ∧ Spelled first front ∧ Spelled second back := by
  induction first generalizing lexemes with
  | nil => exact ⟨[], lexemes, rfl, .nil, hSpelled⟩
  | cons piece first ih =>
      cases hSpelled with
      | @word _ _ lexeme lexemes hDenotes hRest =>
          obtain ⟨front, back, rfl, hFront, hBack⟩ := ih hRest
          exact ⟨lexeme :: front, back, rfl, .word hDenotes hFront, hBack⟩
      | @property name _ dot named lexemes hDot hName hRest =>
          obtain ⟨front, back, rfl, hFront, hBack⟩ := ih hRest
          exact ⟨dot :: named :: front, back, rfl, .property hDot hName hFront, hBack⟩

/-- Balanced pieces do not end the group that they stand in. -/
theorem Balanced.splitGroup_append {pieces : List Piece} (hBalanced : Balanced pieces)
    {front : List Lexeme} (hFront : Spelled pieces front) (nesting : Nat) (back : List Lexeme) :
    splitGroup nesting (front ++ back) =
      { splitGroup nesting back with content := front ++ (splitGroup nesting back).content } := by
  induction hBalanced generalizing front nesting back with
  | nil =>
      cases hFront
      rfl
  | single hOpen hClose =>
      cases hFront with
      | word hDenotes hRest =>
          cases hRest
          apply splitGroup_cons_plain
          · exact hDenotes.ne_mark hOpen
          · exact hDenotes.ne_mark hClose
      | @property name _ dot named _ hDot hName hRest =>
          cases hRest
          show splitGroup nesting (dot :: named :: back) = _
          rw [splitGroup_cons_plain (by simp [hDot]) (by simp [hDot]),
            splitGroup_cons_plain (by simp [hName]) (by simp [hName])]
          rfl
  | append _ _ ihFirst ihSecond =>
      obtain ⟨first, second, rfl, hFirst, hSecond⟩ := hFront.of_append
      rw [List.append_assoc, ihFirst hFirst, ihSecond hSecond]
      simp
  | enclosed _ ih =>
      obtain ⟨opened, closing, rfl, hOpened, hClosing⟩ := hFront.of_append
      cases hOpened with
      | @word _ _ first inside hOpen hInside =>
          cases hClosing with
          | @word _ _ last _ hClose hEnd =>
              cases hEnd
              rw [List.append_assoc, List.cons_append, splitGroup_cons_open hOpen, ih hInside,
                List.singleton_append, splitGroup_cons_close hClose]
              simp [Group.push]

/-- A group is found again: its content between the parentheses, and what was written behind it. -/
theorem Spelled.group {body : List Statement} {more : List Piece} {lexemes : List Lexeme}
    (hSpelled : Spelled (bodyPieces body ++ .mark .closeParen :: more) lexemes) :
    Spelled (bodyPieces body) (splitGroup 0 lexemes).content ∧
      Spelled more (splitGroup 0 lexemes).rest := by
  obtain ⟨inside, behind, rfl, hInside, hBehind⟩ := hSpelled.of_append
  cases hBehind with
  | @word _ _ last rest hClose hRest =>
      have hLast : splitGroup 0 (last :: rest) = ⟨[], some last, rest⟩ := by
        have hToken : last.token = .mark .closeParen := hClose
        simp only [splitGroup, hToken]
      rw [(Balanced.body body).splitGroup_append hInside, hLast]
      exact ⟨by simpa using hInside, hRest⟩

end QueryOutline
