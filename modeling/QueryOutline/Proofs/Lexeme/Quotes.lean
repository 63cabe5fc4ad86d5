import QueryOutline.Proofs.Lexeme.Separation

/-! What stands between quotes. It goes on up to the first quote that is not escaped, or up to the
end of the text if there is none, and the characters that are not escaped or have an escape of their
own make up the value. -/

namespace QueryOutline

/-- A text that can stand behind a quote without ending at a quote of its own, with the value that
it has there. A backslash takes away the meaning of the character behind it. -/
inductive QuotedBody (quote : Char) : (body value : List Char) → Prop where
  | nil : QuotedBody quote [] []
  | plain {c : Char} {body value : List Char} (hQuote : c ≠ quote) (hPlain : c ≠ '\\')
      (hRest : QuotedBody quote body value) : QuotedBody quote (c :: body) (c :: value)
  | escape (c : Char) {body value : List Char} (hRest : QuotedBody quote body value) :
      QuotedBody quote ('\\' :: c :: body) (unescape c :: value)

namespace QuotedBody

variable {quote : Char} {body value : List Char}

/-- The body of a quoted text is read from its front, whatever is behind it. -/
theorem scanQuoted_append (hBody : QuotedBody quote body value) (hQuote : quote ≠ '\\')
    (more : List Char) :
    scanQuoted quote (body ++ more) =
      { scanQuoted quote more with
        value := value ++ (scanQuoted quote more).value
        source := body ++ (scanQuoted quote more).source } := by
  induction hBody with
  | nil => rfl
  | plain hOther hPlain _ ih => rw [List.cons_append, scanQuoted_plain hOther hPlain, ih]; rfl
  | escape c _ ih =>
      rw [List.cons_append, List.cons_append, scanQuoted_backslash hQuote, ih]
      rfl

/-- A quote behind the body closes it, and nothing of what follows is looked at. -/
theorem scanString_closed (hBody : QuotedBody quote body value) (hQuote : quote ≠ '\\')
    (rest : List Char) :
    scanString quote (body ++ quote :: rest) =
      ⟨.string (String.ofList value), quote :: (body ++ [quote]), rest⟩ := by
  simp [scanString, hBody.scanQuoted_append hQuote, scanQuoted_quote]

/-- Without a quote behind the body the text ends in it, and the token says so. -/
theorem scanString_open (hBody : QuotedBody quote body value) (hQuote : quote ≠ '\\') :
    scanString quote body = ⟨.openString (String.ofList value), quote :: body, []⟩ := by
  have hScan := hBody.scanQuoted_append hQuote []
  rw [List.append_nil] at hScan
  simp [scanString, hScan, scanQuoted]

end QuotedBody

/-- What is read behind a quote ends with the first quote that is not escaped, or is all of the text
if there is none. A backslash with nothing behind it has no value. -/
theorem exists_quotedBody (quote : Char) (text : List Char) :
    ∃ body, QuotedBody quote body (scanQuoted quote text).value ∧
      (((scanQuoted quote text).closed = true ∧
          (scanQuoted quote text).source = body ++ [quote]) ∨
        ((scanQuoted quote text).closed = false ∧ (scanQuoted quote text).rest = [] ∧
          ((scanQuoted quote text).source = body ∨
            (scanQuoted quote text).source = body ++ ['\\']))) := by
  fun_induction scanQuoted quote text with
  | case1 => exact ⟨[], .nil, .inr ⟨rfl, rfl, .inl rfl⟩⟩
  | case2 text => exact ⟨[], .nil, .inl ⟨rfl, rfl⟩⟩
  | case3 => exact ⟨[], .nil, .inr ⟨rfl, rfl, .inr rfl⟩⟩
  | case4 escaped text scan hQuote ih =>
      obtain ⟨body, hBody, hEnd⟩ := ih
      refine ⟨'\\' :: escaped :: body, .escape escaped hBody, ?_⟩
      simpa using hEnd
  | case5 c text hQuote hPlain scan ih =>
      obtain ⟨body, hBody, hEnd⟩ := ih
      refine ⟨c :: body, .plain hQuote hPlain hBody, ?_⟩
      simpa using hEnd

end QueryOutline
