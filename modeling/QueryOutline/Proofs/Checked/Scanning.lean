import QueryOutline.Proofs.Lexeme.Spelling

/-! Scanning by positions. The scanner of this module knows of a text nothing but a number of bytes,
and it can look at the text only where a character starts. Each step that could go wrong is checked:
a position within a character or behind the end, a range that ends before it starts, and a loop
without an end all give nothing. It is shown that no check fails, and that what comes out are the
lexemes of the text. -/

namespace QueryOutline.Checked

open Text

/-- The difference of two numbers, unless it is below zero. -/
def minus? (left right : Nat) : Option Nat :=
  if right ≤ left then some (left - right) else none

theorem minus?_add (left right : Nat) : minus? (left + right) left = some right := by
  simp [minus?]

section Bytes

/-- The text from a byte on, unless a character does not end in front of it or the text does. -/
def from? (position : Nat) : List Char → Option (List Char)
  | [] => if position = 0 then some [] else none
  | c :: text =>
      if position = 0 then some (c :: text)
      else if c.utf8Size ≤ position then from? (position - c.utf8Size) text
      else none

/-- The text between two bytes, if both stand between characters and the first is not behind the
second. -/
def slice? (start stop : Nat) (text : List Char) : Option (List Char) := do
  let length ← minus? stop start
  let rest ← from? start text
  let behind ← from? length rest
  pure (rest.take (rest.length - behind.length))

/-- The positions that pass the check are the sizes of what a text can start with. -/
theorem from?_eq_some_iff {position : Nat} {text rest : List Char} :
    from? position text = some rest ↔
      ∃ before, text = before ++ rest ∧ position = byteSize before := by
  induction text generalizing position with
  | nil =>
      constructor
      · intro hFrom
        simp only [from?] at hFrom
        split at hFrom
        · exact ⟨[], by simpa using hFrom, by assumption⟩
        · cases hFrom
      · rintro ⟨before, hText, rfl⟩
        obtain ⟨rfl, rfl⟩ := List.append_eq_nil_iff.mp hText.symm
        rfl
  | cons c text ih =>
      have hPositive := c.utf8Size_pos
      constructor
      · intro hFrom
        simp only [from?] at hFrom
        split at hFrom
        · exact ⟨[], by simpa using hFrom, by assumption⟩
        split at hFrom
        · obtain ⟨before, rfl, hSize⟩ := ih.mp hFrom
          exact ⟨c :: before, rfl, by rw [byteSize]; omega⟩
        · cases hFrom
      · rintro ⟨before, hText, rfl⟩
        cases before with
        | nil =>
            obtain rfl : c :: text = rest := hText
            rfl
        | cons d before =>
            obtain ⟨rfl, rfl⟩ := List.cons.inj hText
            rw [from?, if_neg (by rw [byteSize]; omega), if_pos (by rw [byteSize]; omega), byteSize,
              Nat.add_sub_cancel_left]
            exact ih.mpr ⟨before, rfl, rfl⟩

example : from? 1 ['é', 'a'] = none ∧ from? 2 ['é', 'a'] = some ['a'] := by decide

variable {input source rest : List Char} {position : Nat}

/-- Behind what the text goes on with, there is a position again. -/
theorem from?_add (hFrom : from? position input = some (source ++ rest)) :
    from? (position + byteSize source) input = some rest := by
  obtain ⟨before, rfl, rfl⟩ := from?_eq_some_iff.mp hFrom
  exact from?_eq_some_iff.mpr ⟨before ++ source, by simp, by simp⟩

/-- A character takes as many bytes as its size in UTF-8 says. -/
theorem from?_cons {c : Char} (hFrom : from? position input = some (c :: rest)) :
    from? (position + c.utf8Size) input = some rest := by
  have hSource : from? position input = some ([c] ++ rest) := hFrom
  exact from?_add hSource

/-- The range behind a position that is as long as the source is the source. -/
theorem slice?_add (hFrom : from? position input = some (source ++ rest)) :
    slice? position (position + byteSize source) input = some source := by
  have hBehind : from? (byteSize source) (source ++ rest) = some rest :=
    from?_eq_some_iff.mpr ⟨source, rfl, rfl⟩
  simp [slice?, minus?_add, hFrom, hBehind]

end Bytes

section Steps

variable (input : List Char)

def currentChar (position : Nat) : Option (Option Char) := do
  let rest ← from? position input
  pure rest.head?

def nextChar (position : Nat) : Option (Option Char) := do
  let rest ← from? position input
  pure rest[1]?

def advance (position : Nat) : Option Nat := do
  match ← currentChar input position with
  | some c => pure (position + c.utf8Size)
  | none => pure position

def advanceWhile (kind : Char → Bool) : (rounds : Nat) → (position : Nat) → Option Nat
  | 0, _ => none
  | rounds + 1, position => do
      match ← currentChar input position with
      | some c =>
          if kind c then advanceWhile kind rounds (← advance input position) else pure position
      | none => pure position

/-- More rounds than any loop over the text can take. -/
def rounds : Nat :=
  input.length + 1

def readWord (position : Nat) : Option (List Char × Nat) := do
  let stop ← advanceWhile input isWordChar (rounds input) position
  pure (← slice? position stop input, stop)

/-- The content of a quoted text up to its closing quote, whether there is one, and the position
behind it. -/
def readQuoted (quote : Char) : (rounds : Nat) → (position : Nat) → Option (List Char × Bool × Nat)
  | 0, _ => none
  | rounds + 1, position => do
      match ← currentChar input position with
      | none => pure ([], false, position)
      | some c =>
          let behind ← advance input position
          if c = quote then pure ([], true, behind)
          else if c = '\\' then
            match ← currentChar input behind with
            | none => pure ([], false, behind)
            | some escaped =>
                let (value, closed, stop) ← readQuoted quote rounds (← advance input behind)
                pure (unescape escaped :: value, closed, stop)
          else
            let (value, closed, stop) ← readQuoted quote rounds behind
            pure (c :: value, closed, stop)

def readString (quote : Char) (position : Nat) : Option (Token × Nat) := do
  let (content, closed, stop) ← readQuoted input quote (rounds input) (← advance input position)
  let value := String.ofList content
  pure (if closed then .string value else .openString value, stop)

def runsIntoWord (position : Nat) : Option Bool := do
  let rest ← from? position input
  let behind ← from? (byteSize (rest.takeWhile Char.isDigit)) rest
  pure (behind.head?.any isWordChar)

/-- The position behind the digits of a number. A point belongs to it if it is the first one and has
a digit behind it. -/
def readDigits : (rounds : Nat) → (pointed : Bool) → (position : Nat) → Option Nat
  | 0, _, _ => none
  | rounds + 1, pointed, position => do
      match ← currentChar input position with
      | none => pure position
      | some c =>
          if c.isDigit then readDigits rounds pointed (← advance input position)
          else if c = '.' ∧ pointed = false ∧ (← nextChar input position).any Char.isDigit then
            readDigits rounds true (← advance input position)
          else pure position

def literalToken (literal : List Char) : Token :=
  let negative := literal.head? == some '-'
  let digits := if negative then literal.tail else literal
  numberToken negative (digits.takeWhile Char.isDigit)
    (fractionDigits (digits.dropWhile Char.isDigit))

def readNumber (position : Nat) : Option (Token × Nat) := do
  let first ← if (← currentChar input position) = some '-' then advance input position
    else pure position
  let stop ← readDigits input (rounds input) false first
  pure (literalToken (← slice? position stop input), stop)

def behindSigns (position : Nat) : Option Nat := do
  let behind ← advance input position
  if (← currentChar input behind) = some '@' then advance input behind else pure behind

/-- A parameter and the position behind it. Without a word behind the at signs, the position goes
back to the first of them. -/
def readParameter (position : Nat) : Option (Token × Nat) := do
  let name ← behindSigns input position
  if (← currentChar input name).any isWordChar then
    let (_, stop) ← readWord input name
    pure (.parameter (String.ofList (← slice? position stop input)), stop)
  else pure (.symbol '@', ← advance input position)

def readSingle (token : Token) (position : Nat) : Option (Token × Nat) := do
  pure (token, ← advance input position)

/-- A token of two characters if the second one is there, and else a token of the first one. -/
def readDouble (second : Char) (both alone : Token) (position : Nat) : Option (Token × Nat) := do
  if (← nextChar input position) = some second then
    pure (both, ← advance input (← advance input position))
  else readSingle input alone position

def readLiteral (afterDot : Bool) (c : Char) (position : Nat) : Option (Token × Nat) := do
  if c = '"' ∨ c = '\'' then readString input c position
  else if c = '@' then readParameter input position
  else if c = '-' ∧ (← nextChar input position).any Char.isDigit then readNumber input position
  else if c.isDigit then
    if ← runsIntoWord input position then
      let (word, stop) ← readWord input position
      pure (.identifier (String.ofList word), stop)
    else readNumber input position
  else if isWordStart c then
    let (word, stop) ← readWord input position
    pure (wordToken afterDot word, stop)
  else readSingle input (.symbol c) position

def readToken (afterDot : Bool) (c : Char) (position : Nat) : Option (Token × Nat) :=
  match c with
  | '(' => readSingle input (.mark .openParen) position
  | ')' => readSingle input (.mark .closeParen) position
  | ',' => readSingle input (.mark .comma) position
  | '.' => readSingle input (.mark .dot) position
  | '=' => readDouble input '=' (.mark .equal) (.mark .assign) position
  | '!' => readDouble input '=' (.mark .notEqual) (.symbol '!') position
  | '>' => readDouble input '=' (.mark .greaterEqual) (.mark .greater) position
  | '<' => readDouble input '=' (.mark .lessEqual) (.mark .less) position
  | '&' => readDouble input '&' (.mark .both) (.symbol '&') position
  | '|' => readDouble input '|' (.mark .either) (.symbol '|') position
  | c => readLiteral input afterDot c position

def readLexemes : (rounds : Nat) → (afterDot : Bool) → (position : Nat) → Option (List Lexeme)
  | 0, _, _ => none
  | rounds + 1, afterDot, position => do
      let start ← advanceWhile input isBlank (Checked.rounds input) position
      match ← currentChar input start with
      | none => pure []
      | some c =>
          let (token, stop) ← readToken input afterDot c start
          let lexemes ← readLexemes rounds (c == '.') stop
          pure (⟨token, start, stop⟩ :: lexemes)

end Steps

/-- The lexemes of a text, if no check fails. -/
def lexemes (text : String) : Option (List Lexeme) :=
  readLexemes text.toList (rounds text.toList) false 0

section Agreement

variable {input rest text : List Char} {c : Char} {position : Nat}

/-- At the end there is no character, but the position passes its check. -/
theorem currentChar_eq (hFrom : from? position input = some rest) :
    currentChar input position = some rest.head? := by
  simp [currentChar, hFrom]

theorem nextChar_eq (hFrom : from? position input = some rest) :
    nextChar input position = some rest[1]? := by
  simp [nextChar, hFrom]

/-- The step over a character ends where the next one starts. -/
theorem advance_eq (hFrom : from? position input = some (c :: rest)) :
    advance input position = some (position + c.utf8Size) := by
  simp [advance, currentChar_eq hFrom]

/-- Every position leaves fewer characters than there are rounds. -/
theorem length_lt_rounds (hFrom : from? position input = some rest) :
    rest.length < rounds input := by
  obtain ⟨before, rfl, -⟩ := from?_eq_some_iff.mp hFrom
  simp only [rounds, List.length_append]
  omega

/-- The loop ends behind the longest run of characters of the kind, at a position between
characters. -/
theorem advanceWhile_eq (kind : Char → Bool) {rounds : Nat} (hRounds : rest.length < rounds)
    (hFrom : from? position input = some rest) :
    advanceWhile input kind rounds position =
      some (position + byteSize (rest.takeWhile kind)) := by
  induction rounds generalizing rest position with
  | zero => omega
  | succ rounds ih =>
      rw [advanceWhile, currentChar_eq hFrom]
      cases rest with
      | nil => simp [byteSize]
      | cons c rest =>
          by_cases hKind : kind c = true
          · have hMore := ih (Nat.lt_of_succ_lt_succ hRounds) (from?_cons hFrom)
            simp [hKind, advance_eq hFrom, hMore, byteSize, Nat.add_assoc]
          · simp [hKind, byteSize]

theorem readWord_eq (hFrom : from? position input = some rest) :
    readWord input position = some (rest.takeWhile isWordChar,
      position + byteSize (rest.takeWhile isWordChar)) := by
  have hSplit : from? position input =
      some (rest.takeWhile isWordChar ++ rest.dropWhile isWordChar) := by
    rw [List.takeWhile_append_dropWhile, hFrom]
  simp [readWord, advanceWhile_eq isWordChar (length_lt_rounds hFrom) hFrom, slice?_add hSplit]

/-- The loop over a quoted text stops where the text does, even behind a backslash. -/
theorem readQuoted_eq (quote : Char) {rounds : Nat} (hRounds : rest.length < rounds)
    (hFrom : from? position input = some rest) :
    readQuoted input quote rounds position = some ((scanQuoted quote rest).value,
      (scanQuoted quote rest).closed, position + byteSize (scanQuoted quote rest).source) := by
  induction rounds generalizing rest position with
  | zero => omega
  | succ rounds ih =>
      rw [readQuoted, currentChar_eq hFrom]
      cases rest with
      | nil => simp [scanQuoted, byteSize]
      | cons c rest =>
          have hBehind := from?_cons hFrom
          by_cases hQuote : c = quote
          · subst hQuote
            simp [scanQuoted_quote, advance_eq hFrom, byteSize]
          by_cases hSlash : c = '\\'
          · subst hSlash
            cases rest with
            | nil =>
                simp [scanQuoted, advance_eq hFrom, currentChar_eq hBehind, hQuote, byteSize]
            | cons escaped rest =>
                have hMore := ih (by simp only [List.length_cons] at hRounds; omega)
                  (from?_cons hBehind)
                simp [scanQuoted_backslash (Ne.symm hQuote), advance_eq hFrom,
                  currentChar_eq hBehind, advance_eq hBehind, hQuote, hMore, byteSize]
                omega
          · have hMore := ih (Nat.lt_of_succ_lt_succ hRounds) hBehind
            simp [scanQuoted_plain hQuote hSlash, advance_eq hFrom, hQuote, hSlash, hMore, byteSize]
            omega

/-- The token is read as the scanner reads it, up to the position behind its source. -/
def ReadsScan (read : Option (Token × Nat)) (position : Nat) (scan : Scan) : Prop :=
  read = some (scan.token, position + byteSize scan.source)

/-- The range of a string is found from the positions of its quotes. -/
theorem readString_eq (hFrom : from? position input = some (c :: text)) :
    ReadsScan (readString input c position) position (scanString c text) := by
  have hBehind := from?_cons hFrom
  simp [ReadsScan, readString, advance_eq hFrom,
    readQuoted_eq c (length_lt_rounds hBehind) hBehind, scanString, byteSize, Nat.add_assoc]

theorem runsIntoWord_eq (hFrom : from? position input = some rest) :
    runsIntoWord input position = some (digitsRunIntoWord rest) := by
  have hBehind : from? (byteSize (rest.takeWhile Char.isDigit)) rest =
      some (rest.dropWhile Char.isDigit) :=
    from?_eq_some_iff.mpr ⟨_, List.takeWhile_append_dropWhile.symm, rfl⟩
  simp [runsIntoWord, hFrom, hBehind, digitsRunIntoWord]

/-- Behind a point, a number goes on as long as there are digits. -/
theorem readDigits_pointed {rounds : Nat} (hRounds : rest.length < rounds)
    (hFrom : from? position input = some rest) :
    readDigits input rounds true position =
      some (position + byteSize (rest.takeWhile Char.isDigit)) := by
  induction rounds generalizing rest position with
  | zero => omega
  | succ rounds ih =>
      rw [readDigits, currentChar_eq hFrom]
      cases rest with
      | nil => simp [byteSize]
      | cons c rest =>
          by_cases hDigit : c.isDigit = true
          · have hMore := ih (Nat.lt_of_succ_lt_succ hRounds) (from?_cons hFrom)
            simp [hDigit, advance_eq hFrom, hMore, byteSize, Nat.add_assoc]
          · simp [hDigit, nextChar_eq hFrom, byteSize]

/-- Before the point the loop may pass one, if a digit is behind it. -/
theorem readDigits_eq {rounds : Nat} (hRounds : rest.length < rounds)
    (hFrom : from? position input = some rest) :
    readDigits input rounds false position =
      some (position + byteSize (scanNumber false rest).source) := by
  induction rounds generalizing rest position with
  | zero => omega
  | succ rounds ih =>
      rw [readDigits, currentChar_eq hFrom]
      cases rest with
      | nil => simp [scanNumber, fractionDigits, byteSize]
      | cons c rest =>
          have hBehind := from?_cons hFrom
          have hShorter := Nat.lt_of_succ_lt_succ hRounds
          by_cases hDigit : c.isDigit = true
          · have hMore := ih hShorter hBehind
            simp [hDigit, advance_eq hFrom, hMore, scanNumber, byteSize, Nat.add_assoc]
          by_cases hPoint : c = '.' ∧ rest.head?.any Char.isDigit = true
          · obtain ⟨rfl, hNext⟩ := hPoint
            obtain ⟨d, rest, rfl⟩ : ∃ d more, rest = d :: more := by
              cases rest with
              | nil => cases hNext
              | cons d more => exact ⟨d, more, rfl⟩
            have hDigits := readDigits_pointed hShorter hBehind
            have hFirst : d.isDigit = true := hNext
            simp [advance_eq hFrom, nextChar_eq hFrom, hDigits, hFirst, hDigit, scanNumber,
              fractionDigits, byteSize, Nat.add_assoc]
          · have hFraction : fractionDigits (c :: rest) = [] := by
              unfold fractionDigits
              split
              · rename_i more hMore
                obtain ⟨rfl, rfl⟩ := List.cons.inj hMore
                cases rest with
                | nil => rfl
                | cons d rest => simpa using hPoint
              · rfl
            simp [nextChar_eq hFrom, ← List.head?_eq_getElem?, hDigit, hPoint, scanNumber,
              hFraction, byteSize]

/-- The digits of a number end at its point. -/
theorem digits_before_point {whole point : List Char} (hWhole : whole.all Char.isDigit = true)
    (hPoint : point.head?.all (· == '.') = true) :
    (whole ++ point).takeWhile Char.isDigit = whole ∧
      (whole ++ point).dropWhile Char.isDigit = point := by
  have hDigits := List.all_eq_true.mp hWhole
  rw [List.takeWhile_append_of_pos hDigits, List.dropWhile_append_of_pos hDigits]
  cases point with
  | nil => simp
  | cons c point =>
      obtain rfl : c = '.' := by simpa using hPoint
      simp [show '.'.isDigit = false by decide]

theorem takeWhile_fractionDigits (text : List Char) :
    (fractionDigits text).takeWhile Char.isDigit = fractionDigits text := by
  unfold fractionDigits
  split
  · rw [List.takeWhile_takeWhile]
    simp
  · rfl

/-- The text of a number says which number it is. -/
theorem literalToken_source (negative : Bool) (text : List Char) :
    literalToken (scanNumber negative text).source = (scanNumber negative text).token := by
  have hWhole : (text.takeWhile Char.isDigit).all Char.isDigit = true := List.all_takeWhile
  have hFraction := takeWhile_fractionDigits (text.dropWhile Char.isDigit)
  simp only [scanNumber]
  generalize text.takeWhile Char.isDigit = whole at hWhole ⊢
  generalize fractionDigits (text.dropWhile Char.isDigit) = fraction at hFraction ⊢
  obtain ⟨point, hPoint⟩ : ∃ point, (if fraction.isEmpty then [] else '.' :: fraction) = point :=
    ⟨_, rfl⟩
  have hStart : point.head?.all (· == '.') = true := by
    rw [← hPoint]
    split <;> rfl
  have hRead : fractionDigits point = fraction := by
    rw [← hPoint]
    split
    · simp_all [fractionDigits]
    · exact hFraction
  obtain ⟨hTake, hDrop⟩ := digits_before_point hWhole hStart
  rw [hPoint]
  cases negative with
  | true => simp [literalToken, hTake, hDrop, hRead]
  | false =>
      have hSign : ((whole ++ point).head? == some '-') = false := by
        cases whole with
        | nil => cases point <;> simp_all
        | cons c whole =>
            have hDigit : c.isDigit = true := by simp_all
            have hOther : c ≠ '-' := by
              rintro rfl
              exact absurd hDigit (by decide)
            simpa using hOther
      simp only [Bool.false_eq_true, if_false, List.nil_append, literalToken, hSign, hTake, hDrop,
        hRead]

/-- A number with a sign is read as the scanner reads it. -/
theorem readNumber_negative (hFrom : from? position input = some ('-' :: text)) :
    ReadsScan (readNumber input position) position (scanNumber true text) := by
  have hBehind := from?_cons hFrom
  have hSplit : from? position input =
      some ((scanNumber true text).source ++ (scanNumber true text).rest) := by
    rw [scanNumber_append]
    exact hFrom
  have hStop : position + '-'.utf8Size + byteSize (scanNumber false text).source =
      position + byteSize (scanNumber true text).source := by
    simp [scanNumber, byteSize, Nat.add_assoc]
  simp [ReadsScan, readNumber, currentChar_eq hFrom, advance_eq hFrom,
    readDigits_eq (length_lt_rounds hBehind) hBehind, hStop, slice?_add hSplit, literalToken_source]

/-- The text of the number is cut out and read again for its value. The cut lies between
characters. -/
theorem readNumber_eq (hSign : c ≠ '-') (hFrom : from? position input = some (c :: text)) :
    ReadsScan (readNumber input position) position (scanNumber false (c :: text)) := by
  have hSplit : from? position input =
      some ((scanNumber false (c :: text)).source ++ (scanNumber false (c :: text)).rest) := by
    rw [scanNumber_append]
    exact hFrom
  simp [ReadsScan, readNumber, currentChar_eq hFrom, hSign,
    readDigits_eq (length_lt_rounds hFrom) hFrom, slice?_add hSplit, literalToken_source]

/-- The at signs of a parameter take the first characters of the text. -/
theorem sigil_append (text : List Char) :
    sigil text ++ text.drop ((sigil text).length - 1) = '@' :: text := by
  unfold sigil
  split <;> simp

theorem behindSigns_eq (hFrom : from? position input = some ('@' :: text)) :
    behindSigns input position = some (position + byteSize (sigil text)) := by
  have hBehind := from?_cons hFrom
  cases text with
  | nil => simp [behindSigns, advance_eq hFrom, currentChar_eq hBehind, sigil, byteSize]
  | cons c text =>
      by_cases hSign : c = '@'
      · subst hSign
        simp [behindSigns, advance_eq hFrom, currentChar_eq hBehind, advance_eq hBehind, sigil,
          byteSize, Nat.add_assoc]
      · simp [behindSigns, advance_eq hFrom, currentChar_eq hBehind, hSign, sigil, byteSize]

/-- The position goes back to the first sign only over characters that were read. -/
theorem readParameter_eq (hFrom : from? position input = some ('@' :: text)) :
    ReadsScan (readParameter input position) position (scanParameter text) := by
  generalize hName : text.drop ((sigil text).length - 1) = name
  have hSigns : from? position input = some (sigil text ++ name) := by
    rw [← hName, sigil_append, hFrom]
  have hBehind := from?_add hSigns
  cases hWord : name.head?.any isWordChar with
  | true =>
      have hSplit : from? position input =
          some ((sigil text ++ name.takeWhile isWordChar) ++ name.dropWhile isWordChar) := by
        rw [List.append_assoc, List.takeWhile_append_dropWhile, hSigns]
      have hSlice := slice?_add hSplit
      rw [byteSize_append] at hSlice
      have hSome : name.takeWhile isWordChar ≠ [] := by
        cases name <;> simp_all
      simp [ReadsScan, readParameter, behindSigns_eq hFrom, currentChar_eq hBehind, hWord,
        readWord_eq hBehind, hSlice, scanParameter, hName, hSome, Nat.add_assoc]
  | false =>
      have hNone : name.takeWhile isWordChar = [] := by
        cases name <;> simp_all
      simp [ReadsScan, readParameter, behindSigns_eq hFrom, currentChar_eq hBehind, hWord,
        advance_eq hFrom, scanParameter, hName, hNone, byteSize]

theorem readSingle_eq (token : Token) (hFrom : from? position input = some (c :: text)) :
    ReadsScan (readSingle input token position) position ⟨token, [c], text⟩ := by
  simp [ReadsScan, readSingle, advance_eq hFrom, byteSize]

/-- One case for each kind of token that starts with no mark. -/
theorem readLiteral_eq (afterDot : Bool) (hFrom : from? position input = some (c :: text)) :
    ReadsScan (readLiteral input afterDot c position) position (scanLiteral afterDot c text) := by
  unfold readLiteral scanLiteral
  split
  · exact readString_eq hFrom
  split
  · rename_i hSign
    subst hSign
    exact readParameter_eq hFrom
  have hHead : text.head? = (c :: text)[1]? := by
    rw [List.getElem?_cons_succ, List.head?_eq_getElem?]
  rw [hHead]
  simp only [nextChar_eq hFrom, Option.bind_eq_bind, Option.bind_some]
  split
  · rename_i hMinus
    obtain ⟨rfl, -⟩ := hMinus
    exact readNumber_negative hFrom
  split
  · rename_i hDigit
    simp only [runsIntoWord_eq hFrom, Option.bind_some]
    split
    · simp [ReadsScan, readWord_eq hFrom, scanWord, wordToken]
    · refine readNumber_eq ?_ hFrom
      rintro rfl
      exact absurd hDigit (by decide)
  split
  · simp [ReadsScan, readWord_eq hFrom, scanWord]
  · exact readSingle_eq (.symbol c) hFrom

/-- A mark of two characters is not found if the second one is another one. -/
theorem ofText?_of_head_ne {second : Char} (hNext : text.head? ≠ some second)
    (hMarks : ∀ mark ∈ Mark.all, mark.spelling.head? = some c →
      mark.spelling.tail = [] ∨ mark.spelling.tail = [second]) :
    Mark.ofText? (c :: text) = Mark.ofText? [c] := by
  have hOther : [second].isPrefixOf text = false := by
    cases text with
    | nil => rfl
    | cons d text =>
        have hOther : second ≠ d := fun hSame => hNext (by rw [hSame]; rfl)
        rw [List.isPrefixOf_cons_cons, beq_false_of_ne hOther]
        rfl
  unfold Mark.ofText?
  congr 1
  funext mark
  obtain ⟨first, more, hSpelling⟩ := List.exists_cons_of_ne_nil mark.spelling_ne_nil
  have hMore := hMarks mark mark.mem_all
  rw [hSpelling] at hMore ⊢
  by_cases hFirst : first = c
  · subst hFirst
    rcases hMore rfl with hNone | hSecond
    · obtain rfl : more = [] := hNone
      rfl
    · obtain rfl : more = [second] := hSecond
      simp [List.isPrefixOf, hOther]
  · rw [List.isPrefixOf_cons_cons, List.isPrefixOf_cons_cons, beq_false_of_ne hFirst]
    rfl

/-- A second character decides between a mark of two and a token of one. The marks that start with
the first character are all that has to be known of the table. -/
theorem readDouble_eq {afterDot : Bool} {second : Char} {both alone : Token}
    (hBoth : ∀ text, scanToken afterDot c (second :: text) = ⟨both, [c, second], text⟩)
    (hMarks : ∀ mark ∈ Mark.all, mark.spelling.head? = some c →
      mark.spelling.tail = [] ∨ mark.spelling.tail = [second])
    (hAlone : ∀ text, Mark.ofText? (c :: text) = Mark.ofText? [c] →
      scanToken afterDot c text = ⟨alone, [c], text⟩)
    (hFrom : from? position input = some (c :: text)) :
    ReadsScan (readDouble input second both alone position) position
      (scanToken afterDot c text) := by
  by_cases hSecond : text.head? = some second
  · obtain ⟨text, rfl⟩ : ∃ more, text = second :: more := by
      cases text <;> simp_all
    simp [ReadsScan, readDouble, nextChar_eq hFrom, advance_eq hFrom, advance_eq (from?_cons hFrom),
      hBoth, byteSize, Nat.add_assoc]
  · have hNext : (c :: text)[1]? ≠ some second := by
      rwa [List.getElem?_cons_succ, ← List.head?_eq_getElem?]
    rw [hAlone text (ofText?_of_head_ne hSecond hMarks)]
    simp only [ReadsScan, readDouble, nextChar_eq hFrom, Option.bind_eq_bind, Option.bind_some,
      if_neg hNext]
    exact readSingle_eq alone hFrom

/-- The marks are gone through by their first characters, as the scanner goes through its table. -/
theorem readToken_eq (afterDot : Bool) (hFrom : from? position input = some (c :: text)) :
    ReadsScan (readToken input afterDot c position) position (scanToken afterDot c text) := by
  unfold readToken
  split
  · exact readSingle_eq (.mark .openParen) hFrom
  · exact readSingle_eq (.mark .closeParen) hFrom
  · exact readSingle_eq (.mark .comma) hFrom
  · exact readSingle_eq (.mark .dot) hFrom
  iterate 6
    · exact readDouble_eq (fun _ => rfl) (by decide)
        (fun text hMark => by rw [scanToken, hMark]; rfl) hFrom
  · rw [scanToken_eq_scanLiteral]
    · exact readLiteral_eq afterDot hFrom
    · intro mark hStart
      cases mark <;> cases hStart <;> contradiction

theorem wordToken_ne_dot (afterDot : Bool) (word : List Char) :
    wordToken afterDot word ≠ .mark .dot := by
  have hReserved : reserved? word ≠ some (.mark .dot) := by
    simp only [reserved?]
    split_ifs <;> simp
  unfold wordToken
  cases hWord : reserved? word with
  | none => simp
  | some token =>
      have hToken : token ≠ .mark .dot := fun hSame => hReserved (by rw [hWord, hSame])
      cases afterDot <;> simp [hToken]

/-- Only a dot is read as a dot. -/
theorem scanToken_ne_dot (hOther : c ≠ '.') (afterDot : Bool) (text : List Char) :
    (scanToken afterDot c text).token ≠ .mark .dot := by
  have hCase := scanToken_cases afterDot c text
  generalize scanToken afterDot c text = scan at hCase ⊢
  cases hCase with
  | mark hMark =>
      rintro ⟨⟩
      have hText := Mark.spelling_append_of_ofText? hMark
      exact hOther (List.cons.inj hText).1.symm
  | quoted =>
      simp only [scanString]
      split <;> simp
  | parameter =>
      simp only [scanParameter]
      split <;> simp
  | negative | number =>
      simp only [scanNumber, numberToken]
      split <;> simp
  | digits => simp [scanWord, wordToken]
  | word => exact wordToken_ne_dot afterDot _
  | symbol => simp

/-- Only a dot is scanned as a dot. This is the one thing that the scanner remembers of a token. -/
theorem scanToken_dot (afterDot : Bool) (c : Char) (text : List Char) :
    ((scanToken afterDot c text).token == .mark .dot) = (c == '.') := by
  by_cases hDot : c = '.'
  · subst hDot
    rfl
  · rw [beq_false_of_ne hDot, beq_false_of_ne (scanToken_ne_dot hDot afterDot text)]

/-- From every position that passes the check, the lexemes are those of the scanner. -/
theorem readLexemes_eq {rounds : Nat} (hRounds : rest.length < rounds) (afterDot : Bool)
    (hFrom : from? position input = some rest) :
    readLexemes input rounds afterDot position =
      some (Scanner.mk rest position afterDot).lexemes := by
  induction rounds generalizing rest position afterDot with
  | zero => omega
  | succ rounds ih =>
      have hBlanks : from? position input =
          some (rest.takeWhile isBlank ++ rest.dropWhile isBlank) := by
        rw [List.takeWhile_append_dropWhile, hFrom]
      have hSolid := from?_add hBlanks
      have hLength := congrArg List.length
        (List.takeWhile_append_dropWhile (p := isBlank) (l := rest))
      rw [List.length_append] at hLength
      rw [readLexemes, advanceWhile_eq isBlank (length_lt_rounds hFrom) hFrom, Scanner.lexemes_eq]
      cases hRest : rest.dropWhile isBlank with
      | nil =>
          rw [hRest] at hSolid
          simp [currentChar_eq hSolid, Scanner.next, hRest]
      | cons c text =>
          rw [hRest] at hSolid hLength
          have hShorter := scanToken_rest_length_lt afterDot c text
          have hToken := readToken_eq afterDot hSolid
          unfold ReadsScan at hToken
          rw [← scanToken_append afterDot c text] at hSolid
          have hMore := ih (by omega) (c == '.') (from?_add hSolid)
          rw [scanToken_append] at hSolid
          simp [currentChar_eq hSolid, hToken, hMore, Scanner.next, hRest, scanToken_dot]

end Agreement

/-- No check fails, and the lexemes are those of the text. -/
theorem lexemes_eq (text : String) : lexemes text = some (QueryOutline.lexemes text) :=
  readLexemes_eq (Nat.lt_succ_self _) false (from?_eq_some_iff.mpr ⟨[], rfl, rfl⟩)

end QueryOutline.Checked
