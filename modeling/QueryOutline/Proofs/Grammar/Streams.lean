import QueryOutline.Proofs.Grammar.Progress

/-! Properties of sequences of lexemes that every part of a reading inherits. -/

namespace QueryOutline.Grammar

open Reading

/-- A property that what follows a lexeme inherits. Behind a dot it is inherited together with the
name of the property only. -/
structure Hereditary (stream : List Lexeme → Prop) : Prop where
  tail : ∀ {lexeme rest}, lexeme.token ≠ .mark .dot → stream (lexeme :: rest) → stream rest
  property : ∀ {dot named rest name}, dot.token = .mark .dot → named.token = .identifier name →
    stream (dot :: named :: rest) → stream rest
  content : ∀ {lexemes}, stream lexemes → stream (splitGroup 0 lexemes).content
  behind : ∀ {lexemes}, stream lexemes → stream (splitGroup 0 lexemes).rest
  skipped : ∀ {lexeme lexemes}, stream (lexeme :: lexemes) → stream (afterClause 0 lexemes)

namespace Hereditary

variable {stream : List Lexeme → Prop} {lexemes rest : List Lexeme}

/-- A token other than a dot takes no property with it. -/
theorem eat? (hStream : Hereditary stream) {token : Token} (hToken : token ≠ .mark .dot)
    (hEaten : Reading.eat? token lexemes = some rest) (hLexemes : stream lexemes) :
    stream rest := by
  obtain ⟨lexeme, rfl, rfl⟩ := eat?_eq_some hEaten
  exact hStream.tail hToken hLexemes

theorem eatOptional (hStream : Hereditary stream) {token : Token} (hToken : token ≠ .mark .dot)
    (hLexemes : stream lexemes) : stream (Reading.eatOptional token lexemes) := by
  unfold Reading.eatOptional
  cases hEaten : Reading.eat? token lexemes with
  | none => exact hLexemes
  | some rest => exact hStream.eat? hToken hEaten hLexemes

/-- No operator is a dot. -/
theorem nextOperator? (hStream : Hereditary stream) {operator? : Token → Option Operator}
    (hDot : operator? (.mark .dot) = none) {operator : Operator}
    (hNext : Reading.nextOperator? operator? lexemes = some (operator, rest))
    (hLexemes : stream lexemes) : stream rest := by
  obtain ⟨lexeme, rfl, hOperator⟩ := nextOperator?_eq_some hNext
  refine hStream.tail ?_ hLexemes
  intro hToken
  simp [hToken, hDot] at hOperator

theorem direction (hStream : Hereditary stream) {order : Direction}
    (hOrder : Reading.direction lexemes = (order, rest)) (hLexemes : stream lexemes) :
    stream rest := by
  unfold Reading.direction at hOrder
  split at hOrder
  · rename_i more hEaten
    obtain ⟨rfl, rfl⟩ := Prod.mk.inj hOrder
    exact hStream.eat? (by simp) hEaten hLexemes
  · obtain ⟨rfl, rfl⟩ := Prod.mk.inj hOrder
    exact hStream.eatOptional (by simp) hLexemes

/-- A dot is taken together with the name behind it, as the property asks. -/
theorem members (hStream : Hereditary stream) (object : Expr) (hLexemes : stream lexemes) :
    stream (Reading.members object lexemes).2 := by
  fun_induction Reading.members object lexemes with
  | case1 _ _ _ _ _ _ _ ih => exact ih (hStream.property rfl rfl hLexemes)
  | case2 => exact hLexemes

/-- What holds for every single lexeme is inherited. -/
theorem forall_mem (P : Lexeme → Prop) :
    Hereditary fun lexemes => ∀ lexeme ∈ lexemes, P lexeme where
  tail _ hLexemes lexeme hMember := hLexemes lexeme (List.mem_cons_of_mem _ hMember)
  property _ _ hLexemes lexeme hMember :=
    hLexemes lexeme (List.mem_cons_of_mem _ (List.mem_cons_of_mem _ hMember))
  content hLexemes lexeme hMember :=
    hLexemes lexeme ((splitGroup_prefix_content 0 _).subset hMember)
  behind hLexemes lexeme hMember := hLexemes lexeme ((splitGroup_rest_suffix 0 _).subset hMember)
  skipped hLexemes lexeme hMember :=
    hLexemes lexeme (List.mem_cons_of_mem _ ((afterClause_suffix 0 _).subset hMember))

theorem and {first second : List Lexeme → Prop} (hFirst : Hereditary first)
    (hSecond : Hereditary second) : Hereditary fun lexemes => first lexemes ∧ second lexemes where
  tail hToken hLexemes := ⟨hFirst.tail hToken hLexemes.1, hSecond.tail hToken hLexemes.2⟩
  property hDot hName hLexemes :=
    ⟨hFirst.property hDot hName hLexemes.1, hSecond.property hDot hName hLexemes.2⟩
  content hLexemes := ⟨hFirst.content hLexemes.1, hSecond.content hLexemes.2⟩
  behind hLexemes := ⟨hFirst.behind hLexemes.1, hSecond.behind hLexemes.2⟩
  skipped hLexemes := ⟨hFirst.skipped hLexemes.1, hSecond.skipped hLexemes.2⟩

end Hereditary

end QueryOutline.Grammar
