import QueryOutline.Proofs.Grammar.Nodes
import QueryOutline.Proofs.Grammar.Statements
import QueryOutline.Proofs.Lexeme.Names

/-! The shape of the outlines that are read: which forms stand below which, and where their names
come from. -/

namespace QueryOutline

open Reading Grammar

def HasToken (text : String) (token : Token) : Prop :=
  ∃ lexeme ∈ lexemes text, lexeme.token = token

def IsVariableOf (text name : String) : Prop :=
  HasToken text (.identifier name) ∧ ¬IsReserved name.toList

/-- A name of the text that is no reserved word, or a parameter of the text with its at signs. -/
def IsNameOf (text name : String) : Prop :=
  IsVariableOf text name ∨ HasToken text (.parameter name) ∧ IsParameter name.toList

/-- The capital form of a name of the text that is no reserved word, or the upper-case spelling of a
keyword of the text. -/
def IsFunctionOf (text name : String) : Prop :=
  (∃ word, IsVariableOf text word ∧ name = Text.capitals word) ∨
    ∃ keyword, HasToken text (.keyword keyword) ∧ name = keyword.spelling

/-- The lexemes belong to the text, and their names are not reserved unless they stand behind a
dot. -/
def NamedFrom (text : String) (lexemes : List Lexeme) : Prop :=
  (∀ lexeme ∈ lexemes, HasToken text lexeme.token) ∧ WellNamed false lexemes

namespace NamedFrom

variable {text name : String} {lexeme : Lexeme} {rest : List Lexeme}

theorem hereditary (text : String) : Hereditary (NamedFrom text) :=
  (Hereditary.forall_mem fun lexeme => HasToken text lexeme.token).and WellNamed.hereditary

theorem hasToken (hNames : NamedFrom text (lexeme :: rest)) : HasToken text lexeme.token :=
  hNames.1 lexeme (List.mem_cons_self ..)

/-- A name at the front is no reserved word, because no dot stands before it. -/
theorem isVariableOf (hNames : NamedFrom text (lexeme :: rest))
    (hToken : lexeme.token = .identifier name) : IsVariableOf text name := by
  have hWellNamed := hNames.2.1
  rw [hToken] at hWellNamed
  exact ⟨hToken ▸ hNames.hasToken, hWellNamed rfl⟩

theorem isNameOf_parameter (hNames : NamedFrom text (lexeme :: rest))
    (hToken : lexeme.token = .parameter name) : IsNameOf text name := by
  have hWellNamed := hNames.2.1
  rw [hToken] at hWellNamed
  exact .inr ⟨hToken ▸ hNames.hasToken, hWellNamed⟩

/-- A function is named by a name or by a keyword, and shown in capitals in both cases. -/
theorem isFunctionOf (hNames : NamedFrom text (lexeme :: rest))
    (hName : callee? lexeme.token = some name) : IsFunctionOf text name := by
  unfold callee? at hName
  split at hName
  · rename_i word hToken
    exact .inl ⟨word, hNames.isVariableOf hToken, (Option.some.inj hName).symm⟩
  · rename_i keyword hToken
    exact .inr ⟨keyword, hToken ▸ hNames.hasToken, (Option.some.inj hName).symm⟩
  · cases hName

/-- Each rule forms its node as asked, with names from the lexemes in front of it. This is the only
place where all rules are gone through. -/
theorem wellShaped (text : String) :
    Local (NamedFrom text) (Expr.WellShaped (IsNameOf text) (IsFunctionOf text))
      (Statement.WellShaped (IsVariableOf text)) where
  parameter hNames hToken := hNames.isNameOf_parameter hToken
  name hNames hToken := .inl (hNames.isVariableOf hToken)
  member _ hPath := hPath
  call _ hNames hName := hNames.isFunctionOf hName
  compare hOperator hLeft hRight := by simpa [Expr.WellShaped, hOperator] using ⟨hLeft, hRight⟩
  link _ hOperator hRight := by simpa [Expr.WellShaped, hOperator] using hRight
  forIn _ hNames hToken hName :=
    ((hereditary text).tail (by simp [hToken]) hNames).isVariableOf hName
  sort hSome := hSome
  limit hShaped := hShaped
  letBe _ hNames hToken hName :=
    ((hereditary text).tail (by simp [hToken]) hNames).isVariableOf hName

end NamedFrom

/-- Every node of an outline is formed as the grammar asks. A comparison has operands on both sides,
and logical operators nest to the left; properties are taken of names and of properties only; every
name is a name of the text and no reserved word, or a parameter; every function is named by such a
name or by a keyword; a sort has a key; and a limit has one of its three forms. -/
theorem outline_wellShaped {options : Options} {text : String} {query : Query}
    (hQuery : Query.ofText options text = .ok query) :
    query.Everywhere (Expr.WellShaped (IsNameOf text) (IsFunctionOf text))
      (Statement.WellShaped (IsVariableOf text)) := by
  obtain ⟨derivation, -⟩ := ofText_ok_iff.mp hQuery
  refine derivation.everywhere (NamedFrom.hereditary text) (NamedFrom.wellShaped text) ⟨?_, ?_⟩
  · exact fun lexeme hMember => ⟨lexeme, hMember, rfl⟩
  · exact wellNamed_lexemes text

/-- A reserved word behind a dot names a property, and what it is a property of is no reserved
word. -/
theorem outline_wellShaped_property :
    Query.ofText {} "FILTER x.limit" =
        .ok ⟨[.filter (.member (.identifier "x") "limit")]⟩ ∧
      IsNameOf "FILTER x.limit" "x" := by
  have hQuery : Query.ofText {} "FILTER x.limit" =
      .ok ⟨[.filter (.member (.identifier "x") "limit")]⟩ := rfl
  exact ⟨hQuery, (outline_wellShaped hQuery).1.2.2⟩

end QueryOutline
