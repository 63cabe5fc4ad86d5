import Mathlib.Logic.ExistsUnique
import QueryOutline.Proofs.Lexeme.Places

/-! The lexemes of a text tile it. They are not empty, they start and end between characters, and
they come one after the other; what they leave out are blanks, and none of them starts with one. So
every character but a blank belongs to exactly one token. -/

namespace QueryOutline

open Text

namespace Text

/-- Behind what a text starts with, there is a position of the string. -/
theorem isValid_byteSize {text : String} {before behind : List Char}
    (hText : text.toList = before ++ behind) :
    String.Pos.Raw.IsValid text ⟨byteSize before⟩ := by
  refine String.Pos.Raw.isValid_iff_exists_append.mpr
    ⟨String.ofList before, String.ofList behind, ?_, ?_⟩
  · rw [← String.ofList_append, ← hText, String.ofList_toList]
  · rw [String.rawEndPos, ← byteSize_toList, String.toList_ofList]

def CharAt (text : String) (offset : Nat) (c : Char) : Prop :=
  ∃ before behind, text.toList = before ++ c :: behind ∧ offset = byteSize before

end Text

namespace Lexeme

/-- The range of the lexeme is not empty, starts and ends between characters of the text, and does
not start with a blank. -/
structure LiesIn (text : String) (lexeme : Lexeme) : Prop where
  start_lt_stop : lexeme.start < lexeme.stop
  start_valid : String.Pos.Raw.IsValid text ⟨lexeme.start⟩
  stop_valid : String.Pos.Raw.IsValid text ⟨lexeme.stop⟩
  stop_le : lexeme.stop ≤ text.utf8ByteSize
  solid_start : ∃ c, CharAt text lexeme.start c ∧ isBlank c = false

/-- All bytes of a character that starts at the offset are in the range of the lexeme. -/
def Holds (lexeme : Lexeme) (offset : Nat) (c : Char) : Prop :=
  lexeme.start ≤ offset ∧ offset + c.utf8Size ≤ lexeme.stop

theorem CutFrom.liesIn {text : String} {before source behind : List Char} {c : Char}
    {lexeme : Lexeme} (hCut : lexeme.CutFrom text before (c :: source) behind)
    (hSolid : isBlank c = false) : lexeme.LiesIn text := by
  obtain ⟨hText, hStart, hStop⟩ := hCut
  have hStopValid : String.Pos.Raw.IsValid text ⟨lexeme.stop⟩ := by
    rw [hStop, ← byteSize_append]
    exact isValid_byteSize (hText.trans (List.append_assoc ..).symm)
  refine ⟨?_, ?_, hStopValid, hStopValid.le_utf8ByteSize, c, ?_, hSolid⟩
  · have hSize := c.utf8Size_pos
    rw [hStart, hStop, byteSize]
    omega
  · rw [hStart]
    exact isValid_byteSize hText
  · exact ⟨before, source ++ behind, hText, hStart⟩

theorem liesIn_of_mem {text : String} {lexeme : Lexeme} (hMember : lexeme ∈ lexemes text) :
    lexeme.LiesIn text := by
  obtain ⟨front, back, hLexemes⟩ := List.append_of_mem hMember
  obtain ⟨before, c, rest, hSolid, -, hCut⟩ := exists_cutFrom hLexemes
  have hScan := scanToken_append (endsInDot false front) c rest
  obtain ⟨d, source, hSource⟩ :=
    List.exists_cons_of_ne_nil (scanToken_source_ne_nil (endsInDot false front) c rest)
  rw [hSource] at hScan hCut
  obtain ⟨rfl, -⟩ := List.cons.inj hScan
  exact hCut.liesIn hSolid

end Lexeme

/-- The lexemes cut a text into tokens and blanks. -/
structure Tiled (text : String) (lexemes : List Lexeme) : Prop where
  liesIn : ∀ lexeme ∈ lexemes, lexeme.LiesIn text
  ordered : lexemes.Pairwise fun left right => left.stop ≤ right.start
  blank_outside : ∀ offset c, CharAt text offset c →
    (∀ lexeme ∈ lexemes, ¬lexeme.Holds offset c) → isBlank c = true
  one_token : ∀ offset c, CharAt text offset c → isBlank c = false →
    ∃! place : Nat, ∃ lexeme, lexemes[place]? = some lexeme ∧ lexeme.Holds offset c

/-- The scanner steps over blanks only, so that a character that is none lies in a lexeme. -/
theorem exists_holds {text : String} {offset : Nat} {c : Char} (hChar : CharAt text offset c)
    (hSolid : isBlank c = false) : ∃ lexeme ∈ lexemes text, lexeme.Holds offset c := by
  obtain ⟨before, behind, hText, rfl⟩ := hChar
  have hPlace : isBlank c = true ∨ ∃ lexeme ∈ lexemes text,
      lexeme.start ≤ 0 + byteSize before ∧ 0 + byteSize before + c.utf8Size ≤ lexeme.stop :=
    Scanner.blank_or_held hText
  rw [hSolid, Nat.zero_add] at hPlace
  exact hPlace.resolve_left Bool.false_ne_true

/-- A character lies in one range at most if the ranges do not overlap. -/
theorem place_unique {lexemes : List Lexeme}
    (hOrdered : lexemes.Pairwise fun left right => left.stop ≤ right.start) {offset : Nat}
    {c : Char} {place other : Nat} {lexeme otherLexeme : Lexeme}
    (hFirst : lexemes[place]? = some lexeme) (hHolds : lexeme.Holds offset c)
    (hSecond : lexemes[other]? = some otherLexeme) (hOther : otherLexeme.Holds offset c) :
    place = other := by
  have hSize := c.utf8Size_pos
  obtain ⟨hPlace, rfl⟩ := List.getElem?_eq_some_iff.mp hFirst
  obtain ⟨hOtherPlace, rfl⟩ := List.getElem?_eq_some_iff.mp hSecond
  have hApart := List.pairwise_iff_getElem.mp hOrdered
  unfold Lexeme.Holds at hHolds hOther
  rcases Nat.lt_trichotomy place other with hLess | hSame | hMore
  · have hBefore := hApart place other hPlace hOtherPlace hLess
    omega
  · exact hSame
  · have hBefore := hApart other place hOtherPlace hPlace hMore
    omega

/-- Scanning a text comes to an end for want of characters, and the lexemes that were given tile the
text: every character but a blank belongs to exactly one of them. -/
theorem lexemes_tile (text : String) :
    (Scanner.ofText text).Gives (lexemes text) ∧ Tiled text (lexemes text) := by
  have hOrdered : (lexemes text).Pairwise fun left right => left.stop ≤ right.start :=
    Scanner.pairwise_lexemes text.toList 0 false
  refine ⟨Scanner.gives_lexemes _, fun _ => Lexeme.liesIn_of_mem, hOrdered, ?_, ?_⟩
  · intro offset c hChar hOutside
    by_contra hSolid
    obtain ⟨lexeme, hMember, hHolds⟩ := exists_holds hChar (by simpa using hSolid)
    exact hOutside lexeme hMember hHolds
  · intro offset c hChar hSolid
    obtain ⟨lexeme, hMember, hHolds⟩ := exists_holds hChar hSolid
    obtain ⟨place, hPlace⟩ := List.getElem?_of_mem hMember
    refine ⟨place, ⟨lexeme, hPlace, hHolds⟩, ?_⟩
    rintro other ⟨otherLexeme, hOtherPlace, hOther⟩
    exact place_unique hOrdered hOtherPlace hOther hPlace hHolds

end QueryOutline
