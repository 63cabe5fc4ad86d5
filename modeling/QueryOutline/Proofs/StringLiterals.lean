import QueryOutline.Proofs.Lexeme.Joining

/-! String literals are read back in any context. A string that is written between quotes of either
kind, with the quote and the backslash escaped and the usual controls escaped or not, is one lexeme,
whatever the text goes on with; and without the closing quote it is an open string. -/

namespace QueryOutline

open Text

/-- The body is one of the ways to write the value between quotes. The backslash and the quote are
escaped, and a newline, a tab and a carriage return are escaped or stand for themselves as all other
characters do. -/
inductive WrittenAs (quote : Char) : (value body : List Char) → Prop where
  | nil : WrittenAs quote [] []
  | escaped {c : Char} {value body : List Char} (hSpecial : c = '\\' ∨ c = quote)
      (hRest : WrittenAs quote value body) : WrittenAs quote (c :: value) ('\\' :: c :: body)
  | raw {c : Char} {value body : List Char} (hPlain : c ≠ '\\' ∧ c ≠ quote)
      (hRest : WrittenAs quote value body) : WrittenAs quote (c :: value) (c :: body)
  | newline {value body : List Char} (hRest : WrittenAs quote value body) :
      WrittenAs quote ('\n' :: value) ('\\' :: 'n' :: body)
  | tab {value body : List Char} (hRest : WrittenAs quote value body) :
      WrittenAs quote ('\t' :: value) ('\\' :: 't' :: body)
  | carriageReturn {value body : List Char} (hRest : WrittenAs quote value body) :
      WrittenAs quote ('\r' :: value) ('\\' :: 'r' :: body)

/-- Every string can be written between either kind of quotes. -/
theorem exists_writtenAs (quote : Char) (value : List Char) :
    ∃ body, WrittenAs quote value body := by
  induction value with
  | nil => exact ⟨[], .nil⟩
  | cons c value ih =>
      obtain ⟨body, hRest⟩ := ih
      by_cases hSpecial : c = '\\' ∨ c = quote
      · exact ⟨_, .escaped hSpecial hRest⟩
      · exact ⟨_, .raw (not_or.mp hSpecial) hRest⟩

/-- However a value is written, it is read from what is written. -/
theorem WrittenAs.quotedBody {quote : Char} (hQuote : quote = '"' ∨ quote = '\'')
    {value body : List Char} (hWritten : WrittenAs quote value body) :
    QuotedBody quote body value := by
  induction hWritten with
  | nil => exact .nil
  | @escaped c value body hSpecial _ ih =>
      have hSame : unescape c = c := by
        rcases hSpecial with rfl | rfl
        · rfl
        · rcases hQuote with rfl | rfl <;> rfl
      simpa only [hSame] using ih.escape c
  | raw hPlain _ ih => exact .plain hPlain.2 hPlain.1 ih
  | newline _ ih => exact ih.escape 'n'
  | tab _ ih => exact ih.escape 't'
  | carriageReturn _ ih => exact ih.escape 'r'

def enclosed (quote : Char) (body : List Char) : String :=
  String.ofList (quote :: (body ++ [quote]))

def unclosed (quote : Char) (body : List Char) : String :=
  String.ofList (quote :: body)

/-- Every string can be written between quotes of either kind. However this is done, it is read
back as one lexeme, and what is behind it has the lexemes that it has alone. Without the closing
quote, it is read back as an open string. -/
theorem lexemes_enclosed {quote : Char} (hQuote : quote = '"' ∨ quote = '\'')
    (value rest : String) :
    (∃ body, WrittenAs quote value.toList body) ∧
      ∀ body, WrittenAs quote value.toList body →
        lexemes (enclosed quote body ++ rest) =
            ⟨.string value, 0, (enclosed quote body).utf8ByteSize⟩ ::
              (lexemes rest).map (Lexeme.shift (enclosed quote body).utf8ByteSize) ∧
          lexemes (unclosed quote body) =
            [⟨.openString value, 0, (unclosed quote body).utf8ByteSize⟩] := by
  refine ⟨exists_writtenAs quote value.toList, fun body hWritten => ?_⟩
  have hSolid : isBlank quote = false := by rcases hQuote with rfl | rfl <;> decide
  have hSlash : quote ≠ '\\' := by rcases hQuote with rfl | rfl <;> decide
  have hBody := hWritten.quotedBody hQuote
  constructor
  · have hText :
        (enclosed quote body ++ rest).toList = quote :: (body ++ quote :: rest.toList) := by
      simp [enclosed]
    have hScan := hBody.scanString_closed hSlash rest.toList
    rw [String.ofList_toList] at hScan
    rw [lexemes, Scanner.ofText, hText, Scanner.lexemes_solid hSolid, scanToken_quote hQuote, hScan,
      ← lexemes_at, ← byteSize_toList, enclosed, String.toList_ofList]
    simp only [Nat.zero_add]
    rfl
  · have hText : (unclosed quote body).toList = quote :: body := String.toList_ofList
    have hScan := hBody.scanString_open hSlash
    rw [String.ofList_toList] at hScan
    rw [lexemes, Scanner.ofText, hText, Scanner.lexemes_solid hSolid, scanToken_quote hQuote, hScan,
      ← byteSize_toList, hText]
    simp

/-- A quote and a backslash at the end are escaped, the other kind of quote is not, and one of two
newlines is: the words behind the literal are lexemes of their own. -/
theorem lexemes_enclosed_escapes :
    lexemes (enclosed '\'' "\\'\"\n\\n\\\\".toList ++ "in") =
        [⟨.string "'\"\n\n\\", 0, 10⟩, ⟨.keyword .isIn, 10, 12⟩] ∧
      lexemes (unclosed '\'' "\\'\"\n\\n\\\\".toList) = [⟨.openString "'\"\n\n\\", 0, 9⟩] := by
  have hWritten : WrittenAs '\'' "'\"\n\n\\".toList "\\'\"\n\\n\\\\".toList :=
    .escaped (by decide)
      (.raw (by decide) (.raw (by decide) (.newline (.escaped (by decide) .nil))))
  exact (lexemes_enclosed (.inr rfl) "'\"\n\n\\" "in").2 _ hWritten

end QueryOutline
