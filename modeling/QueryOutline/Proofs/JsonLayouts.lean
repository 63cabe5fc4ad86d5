import QueryOutline.Outline.Json
import QueryOutline.Proofs.Json.Unambiguous
import QueryOutline.Proofs.Text.Classes

/-! The two layouts of a query carry the same document. What the one on several lines has beyond the
other are blanks outside of string literals, and the one on a single line has no blanks there. -/

namespace QueryOutline

open Number Text

namespace Json

section Places

/-- Where a place in a JSON text is: outside of all string literals, in one of them, or in one of
them behind a backslash. -/
inductive Place where
  | outside
  | inside
  | escaped
deriving DecidableEq

def Place.behind : Place → Char → Place
  | .outside, c => if c = '"' then .inside else .outside
  | .inside, c => if c = '"' then .outside else if c = '\\' then .escaped else .inside
  | .escaped, _ => .inside

/-- A text without the characters of a kind that stand outside of string literals. -/
def without (kind : Char → Bool) : Place → List Char → List Char
  | _, [] => []
  | place, c :: text =>
      if place = .outside ∧ kind c = true then without kind place text
      else c :: without kind (place.behind c) text

/-- What stands behind the text is outside of all string literals. -/
def EndsOutside (text : List Char) : Prop :=
  text.foldl Place.behind .outside = .outside

variable {kind : Char → Bool}

theorem length_without_le (place : Place) (text : List Char) :
    (without kind place text).length ≤ text.length := by
  fun_induction without kind place text with
  | case1 => exact Nat.le_refl _
  | case2 _ c text _ ih => exact Nat.le_succ_of_le ih
  | case3 _ c text _ ih => exact Nat.succ_le_succ ih

/-- A text from which nothing is taken away has no character of the kind outside of string
literals. -/
theorem kind_eq_false_of_without_eq {place : Place} {text before behind : List Char} {c : Char}
    (hSame : without kind place text = text) (hText : text = before ++ c :: behind)
    (hOutside : before.foldl Place.behind place = .outside) : kind c = false := by
  induction before generalizing place text with
  | nil =>
      subst hText
      obtain rfl : place = .outside := hOutside
      refine Bool.eq_false_iff.mpr fun hKind => ?_
      have hLength := congrArg List.length hSame
      have hLess := @length_without_le kind .outside behind
      simp only [without, hKind, and_self, if_true, List.nil_append, List.length_cons] at hLength
      omega
  | cons d before ih =>
      subst hText
      have hLess := @length_without_le kind place (before ++ c :: behind)
      simp only [List.cons_append, without] at hSame
      split at hSame
      · have hLength := congrArg List.length hSame
        rw [List.length_cons] at hLength
        omega
      · exact ih (List.cons.inj hSame).2 rfl hOutside

end Places

section Plain

def IsPlain (c : Char) : Prop :=
  c ≠ '"' ∧ isBlank c = false

instance (c : Char) : Decidable (IsPlain c) :=
  inferInstanceAs (Decidable (_ ∧ _))

theorem isPlain_of_isDigit {c : Char} (hDigit : c.isDigit = true) : IsPlain c :=
  forall_ascii (P := fun c => c.isDigit = true → IsPlain c) (by decide +kernel)
    (isAscii_of_isDigit hDigit) hDigit

/-- A text of characters that are no blanks and start no string literals. -/
def IsPlainText (text : List Char) : Prop :=
  ∀ c ∈ text, IsPlain c

instance (text : List Char) : Decidable (IsPlainText text) :=
  List.decidableBAll IsPlain text

theorem IsPlainText.append {left right : List Char} (hLeft : IsPlainText left)
    (hRight : IsPlainText right) : IsPlainText (left ++ right) :=
  List.forall_mem_append.mpr ⟨hLeft, hRight⟩

theorem IsPlainText.of_subset {part text : List Char} (hText : IsPlainText text)
    (hPart : part ⊆ text) : IsPlainText part :=
  fun _ hMember => hText _ (hPart hMember)

theorem toDigits_isPlainText (value : Nat) : IsPlainText (Nat.toDigits 10 value) :=
  fun _ hMember =>
    isPlain_of_isDigit (Nat.isDigit_of_mem_toDigits (by decide) (by decide) hMember)

theorem replicate_isPlainText (count : Nat) : IsPlainText (List.replicate count '0') := by
  intro c hMember
  rw [List.eq_of_mem_replicate hMember]
  decide

theorem integerChars_isPlainText (value : Int) : IsPlainText (integerChars value) := by
  unfold integerChars
  refine IsPlainText.append ?_ (toDigits_isPlainText _)
  split <;> decide

/-- The fewest digits are a zero, or those of some number without the zeros at their end. -/
theorem shortest_cases (tie : Tie) (units : Nat) :
    Binary64.shortest tie units = ⟨['0'], 0⟩ ∨
      ∃ factor exponent, Binary64.shortest tie units =
        ⟨((Nat.toDigits 10 factor).reverse.dropWhile (· == '0')).reverse, exponent⟩ := by
  by_cases hZero : units = 0
  · exact .inl (if_pos hZero)
  · rw [Binary64.shortest, if_neg hZero]
    extract_lets first found
    cases found with
    | none => exact .inl rfl
    | some pair => exact .inr ⟨_, _, rfl⟩

theorem shortest_isPlainText (tie : Tie) (units : Nat) :
    IsPlainText (Binary64.shortest tie units).digits := by
  rcases shortest_cases tie units with hForm | ⟨factor, exponent, hForm⟩
  · rw [hForm]
    decide
  · rw [hForm]
    refine (toDigits_isPlainText factor).of_subset fun c hMember => ?_
    have hDigit := List.dropWhile_subset _ (List.mem_reverse.mp hMember)
    exact List.mem_reverse.mp hDigit

/-- The zeros and the point that are put around the digits are plain as well. -/
theorem positional_isPlainText {number : Significant} (hDigits : IsPlainText number.digits)
    (keepsPoint : Bool) : IsPlainText (number.positional keepsPoint) := by
  unfold Significant.positional
  split
  · exact .append (.append (by decide) (replicate_isPlainText _)) hDigits
  · extract_lets places
    split
    · refine .append (.append hDigits (replicate_isPlainText _)) ?_
      split <;> decide
    · have hWhole := hDigits.of_subset (List.take_subset places number.digits)
      have hFraction := hDigits.of_subset (List.drop_subset places number.digits)
      exact .append (.append hWhole (by decide)) hFraction

theorem scientific_isPlainText {number : Significant} (hDigits : IsPlainText number.digits) :
    IsPlainText number.scientific := by
  unfold Significant.scientific
  refine .append (.append (.append ?_ ?_) ?_) (toDigits_isPlainText _)
  · exact hDigits.of_subset (List.take_subset 1 number.digits)
  · split
    · decide
    · have hFraction := hDigits.of_subset (List.drop_subset 1 number.digits)
      exact List.forall_mem_cons.mpr ⟨by decide, hFraction⟩
  · split <;> decide

/-- A float is written without blanks and without quotes, also one that is not finite. -/
theorem floatChars_isPlainText (value : Binary64) : IsPlainText (floatChars value) := by
  cases value with
  | nan => exact (by decide : IsPlainText "null".toList)
  | infinite negative => exact (by decide : IsPlainText "null".toList)
  | finite negative units =>
      have hDigits := shortest_isPlainText floatStyle.tie units
      refine .append (by split <;> decide) ?_
      split
      · exact positional_isPlainText hDigits _
      · exact scientific_isPlainText hDigits

end Plain

section Documents

variable {kind : Char → Bool} (hKind : ∀ c, kind c = true → isBlank c = true)

section

include hKind

theorem without_cons_plain {c : Char} (hPlain : IsPlain c) (rest : List Char) :
    without kind .outside (c :: rest) = c :: without kind .outside rest := by
  have hOther : kind c ≠ true := by
    intro hSame
    have hBlank := hKind c hSame
    rw [hPlain.2] at hBlank
    cases hBlank
  simp [without, hOther, Place.behind, hPlain.1]

/-- Outside of strings, plain characters are kept and leave the place as it is. -/
theorem without_plain {word : List Char} (hWord : IsPlainText word) (rest : List Char) :
    without kind .outside (word ++ rest) = word ++ without kind .outside rest := by
  induction word with
  | nil => rfl
  | cons c word ih =>
      obtain ⟨hFirst, hMore⟩ := List.forall_mem_cons.mp hWord
      rw [List.cons_append, without_cons_plain hKind hFirst, ih hMore, List.cons_append]

end

/-- The blanks of a layout are taken away, and the place stays outside of strings. -/
theorem without_blanks {blanks : List Char} (hBlanks : ∀ c ∈ blanks, kind c = true)
    (rest : List Char) :
    without kind .outside (blanks ++ rest) = without kind .outside rest := by
  induction blanks with
  | nil => rfl
  | cons c blanks ih =>
      obtain ⟨hFirst, hMore⟩ := List.forall_mem_cons.mp hBlanks
      simp [without, hFirst, ih hMore]

/-- The hexadecimal digits of an escape neither end a string nor start another escape. -/
theorem digitChar_ne {digit : Nat} (hDigit : digit < 16) :
    Nat.digitChar digit ≠ '"' ∧ Nat.digitChar digit ≠ '\\' := by
  have hAll : ∀ digit < 16, Nat.digitChar digit ≠ '"' ∧ Nat.digitChar digit ≠ '\\' := by decide
  exact hAll digit hDigit

/-- The escaped form of a character is kept, and a string literal goes on behind it. -/
theorem without_escapedChar (c : Char) (rest : List Char) :
    without kind .inside (escapedChar c ++ rest) = escapedChar c ++ without kind .inside rest := by
  rcases escapedChar_cases c with ⟨mark, hForm, -, -⟩ | ⟨hForm, hLow⟩ | ⟨hForm, hQuote, hSlash⟩
  · simp [hForm, without, Place.behind]
  · have hHigh := digitChar_ne (show c.toNat / 16 < 16 by omega)
    have hLast := digitChar_ne (show c.toNat % 16 < 16 by omega)
    simp [hForm, without, Place.behind, hHigh, hLast]
  · simp [hForm, without, Place.behind, hQuote, hSlash]

/-- Blanks in a string are kept, and the first quote that is not escaped leads out of it. -/
theorem without_escaped (value rest : List Char) :
    without kind .inside (value.flatMap escapedChar ++ '"' :: rest) =
      value.flatMap escapedChar ++ '"' :: without kind .outside rest := by
  induction value with
  | nil => simp [without, Place.behind]
  | cons c value ih =>
      rw [List.flatMap_cons, List.append_assoc, without_escapedChar, ih, List.append_assoc]

include hKind

/-- A string literal is kept whatever is in it. -/
theorem without_stringChars (value : String) (rest : List Char) :
    without kind .outside (stringChars value ++ rest) =
      stringChars value ++ without kind .outside rest := by
  have hQuote : kind '"' ≠ true := fun hSame => absurd (hKind '"' hSame) (by decide)
  have hBody := @without_escaped kind value.toList rest
  simp [stringChars, without, hQuote, Place.behind, hBody]

variable {layout : Layout} (hBreaks : ∀ level, ∀ c ∈ layout.lineBreak level, kind c = true)
  (hGap : ∀ c ∈ layout.gap, kind c = true)

/-- Taking away the blanks of the layout leaves the document on one line, in front of what is left
of the text behind it. -/
def StripsTo (kind : Char → Bool) (layout : Layout) (document : Json) : Prop :=
  ∀ (level level' : Nat) (rest : List Char),
    without kind .outside (document.write layout level rest) =
      document.write .compact level' (without kind .outside rest)

include hBreaks

/-- The depth of the items shows in the blanks of the layout and nowhere else, so that the levels
need not agree. -/
theorem without_writeItems {items : List Json} (hItems : ∀ item ∈ items, StripsTo kind layout item)
    (level level' : Nat) (rest : List Char) :
    without kind .outside (writeItems layout level items rest) =
      writeItems .compact level' items (without kind .outside rest) := by
  induction items with
  | nil => rfl
  | cons item items ih =>
      obtain ⟨hFirst, hMore⟩ := List.forall_mem_cons.mp hItems
      rw [writeItems, hFirst level level', writeItems_cons_compact]
      cases items with
      | nil => rfl
      | cons next items =>
          simp only [List.isEmpty_cons, Bool.false_eq_true, if_false, List.cons_ne_nil]
          rw [without_cons_plain hKind (by decide), without_blanks (hBreaks level), ih hMore]

include hGap

theorem without_writeMembers {members : List (String × Json)}
    (hMembers : ∀ member ∈ members, StripsTo kind layout member.2) (level level' : Nat)
    (rest : List Char) :
    without kind .outside (writeMembers layout level members rest) =
      writeMembers .compact level' members (without kind .outside rest) := by
  induction members with
  | nil => rfl
  | cons member members ih =>
      obtain ⟨key, value⟩ := member
      obtain ⟨hFirst, hMore⟩ := List.forall_mem_cons.mp hMembers
      rw [writeMembers, without_stringChars hKind, without_cons_plain hKind (by decide),
        without_blanks hGap, hFirst level level', writeMembers_cons_compact]
      cases members with
      | nil => rfl
      | cons next members =>
          simp only [List.isEmpty_cons, Bool.false_eq_true, if_false, List.cons_ne_nil]
          rw [without_cons_plain hKind (by decide), without_blanks (hBreaks level), ih hMore]

/-- A document in a layout of blanks is, without these, the document on one line. -/
theorem stripsTo (document : Json) : StripsTo kind layout document := by
  induction document using Json.induction with
  | null => exact fun _ _ => without_plain hKind (by decide)
  | bool value => exact fun _ _ => without_plain hKind (by cases value <;> decide)
  | integer value => exact fun _ _ => without_plain hKind (integerChars_isPlainText value)
  | float value => exact fun _ _ => without_plain hKind (floatChars_isPlainText value)
  | string value => exact fun _ _ => without_stringChars hKind value
  | array items hItems =>
      intro level level' rest
      by_cases hSome : items = []
      · subst hSome
        exact without_plain hKind (show IsPlainText ['[', ']'] by decide) rest
      · rw [write_array_compact hSome, write, if_neg (by simpa using hSome),
          without_cons_plain hKind (by decide), without_blanks (hBreaks _),
          without_writeItems hKind hBreaks hItems _ (level' + 1), without_blanks (hBreaks _),
          without_cons_plain hKind (by decide)]
  | object members hMembers =>
      intro level level' rest
      by_cases hSome : members = []
      · subst hSome
        exact without_plain hKind (show IsPlainText ['\x7b', '\x7d'] by decide) rest
      · rw [write_object_compact hSome, write, if_neg (by simpa using hSome),
          without_cons_plain hKind (by decide), without_blanks (hBreaks _),
          without_writeMembers hKind hBreaks hGap hMembers _ (level' + 1),
          without_blanks (hBreaks _), without_cons_plain hKind (by decide)]

end Documents

def isLayoutBlank (c : Char) : Bool :=
  c == ' ' || c == '\n'

theorem isBlank_of_isLayoutBlank (c : Char) (hLayout : isLayoutBlank c = true) :
    isBlank c = true := by
  rcases Bool.or_eq_true_iff.mp hLayout with hSpace | hBreak
  · rw [beq_iff_eq.mp hSpace]
    decide
  · rw [beq_iff_eq.mp hBreak]
    decide

/-- Without its blanks, the layout on several lines is the one on a single line. -/
theorem without_pretty (document : Json) :
    without isLayoutBlank .outside (document.write .pretty 0 []) =
      document.write .compact 0 [] := by
  have hBreaks : ∀ level, ∀ c ∈ Layout.pretty.lineBreak level, isLayoutBlank c = true := by
    intro level c hMember
    rcases List.mem_cons.mp hMember with rfl | hIndent
    · rfl
    · rw [List.eq_of_mem_replicate hIndent]
      rfl
  have hGap : ∀ c ∈ Layout.pretty.gap, isLayoutBlank c = true := by
    intro c hMember
    rw [List.mem_singleton.mp hMember]
    rfl
  exact stripsTo isBlank_of_isLayoutBlank hBreaks hGap document 0 0 []

/-- The layout on one line has no blanks outside of strings to begin with. -/
theorem without_compact (document : Json) :
    without isBlank .outside (document.write .compact 0 []) = document.write .compact 0 [] :=
  stripsTo (fun _ hBlank => hBlank) (fun _ => List.forall_mem_nil _) (List.forall_mem_nil _)
    document 0 0 []

end Json

open Json in
/-- The text of a query on several lines, without the spaces and newlines outside of its string
literals, is its text on one line; and the text on one line has no blank outside of its string
literals. -/
theorem Query.prettyJson_without_blanks (query : Query) :
    String.ofList (without isLayoutBlank .outside query.prettyJson.toList) = query.json ∧
      ∀ before c behind, query.json.toList = before ++ c :: behind → EndsOutside before →
        isBlank c = false := by
  constructor
  · rw [Query.prettyJson, Json.text, String.toList_ofList, without_pretty]
    rfl
  · intro before c behind hText hOutside
    rw [Query.json, Json.text, String.toList_ofList] at hText
    exact kind_eq_false_of_without_eq (without_compact _) hText hOutside

end QueryOutline
