import QueryOutline.Json.Basic

/-! The text of a JSON document says which document it is. Strings end at the first quote that is
not escaped and containers at the bracket that closes them, whatever is behind them, and integers
end in front of anything but a digit. Documents with floats in them are left out, since a float that
is not finite is written as the null value. -/

namespace QueryOutline.Json

/-- What holds of a document if it holds of all documents right in it holds of every document. -/
@[elab_as_elim]
theorem induction {motive : Json → Prop} (null : motive .null)
    (bool : ∀ value, motive (.bool value)) (integer : ∀ value, motive (.integer value))
    (float : ∀ value, motive (.float value)) (string : ∀ value, motive (.string value))
    (array : ∀ items, (∀ item ∈ items, motive item) → motive (.array items))
    (object : ∀ members, (∀ member ∈ members, motive member.2) → motive (.object members))
    (document : Json) : motive document := by
  -- The items and the members are in lists, so that they have motives of their own.
  refine @Json.rec motive (fun items => ∀ item ∈ items, motive item)
    (fun members => ∀ member ∈ members, motive member.2) (fun member => motive member.2)
    null bool integer float string array object ?_ ?_ ?_ ?_ ?_ document
  · exact List.forall_mem_nil _
  · intro item items hItem hItems
    exact List.forall_mem_cons.mpr ⟨hItem, hItems⟩
  · exact List.forall_mem_nil _
  · intro member members hMember hMembers
    exact List.forall_mem_cons.mpr ⟨hMember, hMembers⟩
  · intro key value hValue
    exact hValue

section Integers

/-- Nothing, or a text that starts with no digit, so that a number in front of it ends there. -/
def EndsNumber (rest : List Char) : Prop :=
  ∀ c ∈ rest.head?, c.isDigit = false

theorem endsNumber_nil : EndsNumber [] :=
  nofun

theorem endsNumber_cons {c : Char} (hChar : c.isDigit = false) (rest : List Char) :
    EndsNumber (c :: rest) := by
  rintro _ ⟨⟩
  exact hChar

/-- Digits in front of a text that ends a number are found again as the longest run of digits. -/
theorem takeWhile_digits {digits rest : List Char} (hDigits : ∀ c ∈ digits, c.isDigit = true)
    (hRest : EndsNumber rest) : (digits ++ rest).takeWhile Char.isDigit = digits := by
  rw [List.takeWhile_append_of_pos hDigits]
  cases rest with
  | nil => simp
  | cons c rest => simp [hRest c rfl]

/-- The digits of a number end where the number does. -/
theorem toDigits_append_inj {left right : Nat} {rest other : List Char} (hRest : EndsNumber rest)
    (hOther : EndsNumber other)
    (hText : Nat.toDigits 10 left ++ rest = Nat.toDigits 10 right ++ other) :
    left = right ∧ rest = other := by
  have hAll : ∀ value, ∀ c ∈ Nat.toDigits 10 value, c.isDigit = true :=
    fun _ _ => Nat.isDigit_of_mem_toDigits (by decide) (by decide)
  have hDigits : Nat.toDigits 10 left = Nat.toDigits 10 right := by
    have hRuns := congrArg (List.takeWhile Char.isDigit) hText
    rwa [takeWhile_digits (hAll left) hRest, takeWhile_digits (hAll right) hOther] at hRuns
  have hValues := congrArg (fun digits => Nat.ofDigitChars 10 digits 0) hDigits
  rw [hDigits] at hText
  exact ⟨by simpa using hValues, List.append_cancel_left hText⟩

/-- A number with a sign does not start as one without. -/
theorem toDigits_append_ne_minus (value : Nat) (rest text : List Char) :
    Nat.toDigits 10 value ++ rest ≠ '-' :: text := by
  intro hText
  cases hDigits : Nat.toDigits 10 value with
  | nil => exact Nat.toDigits_ne_nil hDigits
  | cons c digits =>
      have hFirst : c.isDigit = true := Nat.isDigit_of_mem_toDigits (by decide) (by decide)
        (hDigits ▸ List.mem_cons_self : c ∈ Nat.toDigits 10 value)
      rw [hDigits] at hText
      obtain ⟨rfl, -⟩ := List.cons.inj hText
      exact absurd hFirst (by decide)

/-- An integer ends in front of anything but a digit, and its sign tells the negative ones apart. -/
theorem integerChars_append_inj {left right : Int} {rest other : List Char}
    (hRest : EndsNumber rest) (hOther : EndsNumber other)
    (hText : integerChars left ++ rest = integerChars right ++ other) :
    left = right ∧ rest = other := by
  unfold integerChars at hText
  by_cases hLeft : left < 0 <;> by_cases hRight : right < 0
  · simp only [hLeft, hRight, if_true, List.cons_append, List.nil_append, List.cons.injEq,
      true_and] at hText
    obtain ⟨hValues, hBehind⟩ := toDigits_append_inj hRest hOther hText
    exact ⟨by omega, hBehind⟩
  · simp only [hLeft, hRight, if_true, if_false, List.cons_append, List.nil_append] at hText
    exact absurd hText.symm (toDigits_append_ne_minus _ _ _)
  · simp only [hLeft, hRight, if_true, if_false, List.cons_append, List.nil_append] at hText
    exact absurd hText (toDigits_append_ne_minus _ _ _)
  · simp only [hLeft, hRight, if_false, List.nil_append] at hText
    obtain ⟨hValues, hBehind⟩ := toDigits_append_inj hRest hOther hText
    exact ⟨by omega, hBehind⟩

end Integers

section Strings

def escapedBy (c : Char) : Char :=
  if c = 'b' then '\x08' else if c = 'f' then '\x0c' else if c = 'n' then '\n'
  else if c = 'r' then '\r' else if c = 't' then '\t' else c

/-- A character is escaped by another one, by its number, or not at all. -/
theorem escapedChar_cases (c : Char) :
    (∃ mark, escapedChar c = ['\\', mark] ∧ mark ≠ 'u' ∧ escapedBy mark = c) ∨
    (escapedChar c =
      ['\\', 'u', '0', '0', Nat.digitChar (c.toNat / 16), Nat.digitChar (c.toNat % 16)] ∧
        c.toNat < 0x20) ∨
    (escapedChar c = [c] ∧ c ≠ '"' ∧ c ≠ '\\') := by
  unfold escapedChar
  split
  · rename_i hPlain
    rcases Bool.or_eq_true_iff.mp hPlain with hQuote | hSlash
    · obtain rfl := beq_iff_eq.mp hQuote
      exact .inl ⟨_, rfl, by decide, by decide⟩
    · obtain rfl := beq_iff_eq.mp hSlash
      exact .inl ⟨_, rfl, by decide, by decide⟩
  rename_i hPlain
  simp only [Bool.or_eq_true, beq_iff_eq, not_or] at hPlain
  iterate 5
    split
    · rename_i hControl
      obtain rfl := beq_iff_eq.mp hControl
      exact .inl ⟨_, rfl, by decide, by decide⟩
  split
  · rename_i hLow
    exact .inr (.inl ⟨rfl, hLow⟩)
  · exact .inr (.inr ⟨rfl, hPlain⟩)

theorem digitChar_inj {left right : Nat} (hLeft : left < 16) (hRight : right < 16)
    (hDigits : Nat.digitChar left = Nat.digitChar right) : left = right := by
  have hAll : ∀ left < 16, ∀ right < 16, Nat.digitChar left = Nat.digitChar right →
      left = right := by
    decide
  exact hAll left hLeft right hRight hDigits

/-- The escaped form of a character ends where the character does. -/
theorem escapedChar_append_inj {left right : Char} {rest other : List Char}
    (hText : escapedChar left ++ rest = escapedChar right ++ other) :
    left = right ∧ rest = other := by
  rcases escapedChar_cases left with ⟨mark, hLeft, hMark, rfl⟩ | ⟨hLeft, hLow⟩ |
    ⟨hLeft, -, hPlain⟩ <;>
  rcases escapedChar_cases right with ⟨mark', hRight, hMark', rfl⟩ | ⟨hRight, hLow'⟩ |
    ⟨hRight, -, hPlain'⟩ <;>
  rw [hLeft, hRight] at hText <;>
  simp only [List.cons_append, List.nil_append, List.cons.injEq, true_and] at hText
  · exact ⟨congrArg escapedBy hText.1, hText.2⟩
  · exact absurd hText.1 hMark
  · exact absurd hText.1.symm hPlain'
  · exact absurd hText.1.symm hMark'
  · obtain ⟨hHigh, hLowest, hBehind⟩ := hText
    have hQuotient := digitChar_inj (by omega) (by omega) hHigh
    have hRemainder := digitChar_inj (by omega) (by omega) hLowest
    have hNumbers : left.toNat = right.toNat := by omega
    exact ⟨Char.toNat_inj.mp hNumbers, hBehind⟩
  · exact absurd hText.1.symm hPlain'
  · exact absurd hText.1 hPlain
  · exact absurd hText.1 hPlain
  · exact hText

/-- No escaped form starts with a quote. -/
theorem escapedChar_append_ne_quote (c : Char) (rest text : List Char) :
    escapedChar c ++ rest ≠ '"' :: text := by
  intro hText
  rcases escapedChar_cases c with ⟨mark, hForm, -, -⟩ | ⟨hForm, -⟩ | ⟨hForm, hPlain, -⟩ <;>
    rw [hForm] at hText <;>
    simp only [List.cons_append, List.nil_append, List.cons.injEq, Char.reduceEq, false_and]
      at hText
  exact hPlain hText.1

/-- A string ends at the first quote that is not escaped. -/
theorem escaped_append_inj {left right rest other : List Char}
    (hText : left.flatMap escapedChar ++ '"' :: rest =
      right.flatMap escapedChar ++ '"' :: other) : left = right ∧ rest = other := by
  induction left generalizing right with
  | nil =>
      cases right with
      | nil => simpa using hText
      | cons d right =>
          rw [List.flatMap_cons, List.append_assoc] at hText
          exact absurd hText.symm (escapedChar_append_ne_quote d _ _)
  | cons c left ih =>
      rw [List.flatMap_cons, List.append_assoc] at hText
      cases right with
      | nil => exact absurd hText (escapedChar_append_ne_quote c _ _)
      | cons d right =>
          rw [List.flatMap_cons, List.append_assoc] at hText
          obtain ⟨rfl, hLater⟩ := escapedChar_append_inj hText
          obtain ⟨rfl, hBehind⟩ := ih hLater
          exact ⟨rfl, hBehind⟩

/-- A string ends at its own closing quote, whatever follows. -/
theorem stringChars_append_inj {left right : String} {rest other : List Char}
    (hText : stringChars left ++ rest = stringChars right ++ other) :
    left = right ∧ rest = other := by
  simp only [stringChars, List.cons_append, List.append_assoc, List.nil_append, List.cons.injEq,
    true_and] at hText
  obtain ⟨hValues, hBehind⟩ := escaped_append_inj hText
  exact ⟨String.toList_inj.mp hValues, hBehind⟩

end Strings

section Documents

mutual

def FloatFree : Json → Prop
  | .float _ => False
  | .array items => ItemsFloatFree items
  | .object members => MembersFloatFree members
  | .null | .bool _ | .integer _ | .string _ => True

def ItemsFloatFree : List Json → Prop
  | [] => True
  | item :: items => item.FloatFree ∧ ItemsFloatFree items

def MembersFloatFree : List (String × Json) → Prop
  | [] => True
  | (_, value) :: members => value.FloatFree ∧ MembersFloatFree members

end

theorem itemsFloatFree_iff {items : List Json} :
    ItemsFloatFree items ↔ ∀ item ∈ items, item.FloatFree := by
  induction items with
  | nil => simp [ItemsFloatFree]
  | cons item items ih => simp [ItemsFloatFree, ih]

/-- The kinds of documents that the first character tells apart. -/
inductive Kind where
  | null
  | bool
  | number
  | string
  | array
  | object
deriving DecidableEq

def kind : Json → Kind
  | .null => .null
  | .bool _ => .bool
  | .integer _ | .float _ => .number
  | .string _ => .string
  | .array _ => .array
  | .object _ => .object

def kindOfFirst (c : Char) : Option Kind :=
  if c = 'n' then some .null
  else if c = 't' ∨ c = 'f' then some .bool
  else if c = '-' ∨ c.isDigit then some .number
  else if c = '"' then some .string
  else if c = '[' then some .array
  else if c = '\x7b' then some .object
  else none

theorem kindOfFirst_of_isDigit {c : Char} (hDigit : c.isDigit = true) :
    kindOfFirst c = some .number := by
  have hOther : c ≠ 'n' ∧ c ≠ 't' ∧ c ≠ 'f' := by
    refine ⟨?_, ?_, ?_⟩ <;> rintro rfl <;> exact absurd hDigit (by decide)
  simp [kindOfFirst, hOther, hDigit]

/-- The first character of a text tells the kind of the document. -/
theorem write_kind {document : Json} (hFloatFree : document.FloatFree) (layout : Layout)
    (level : Nat) (rest : List Char) :
    ∃ c text, document.write layout level rest = c :: text ∧
      kindOfFirst c = some document.kind := by
  cases document with
  | null => exact ⟨_, _, rfl, rfl⟩
  | bool value => cases value <;> exact ⟨_, _, rfl, rfl⟩
  | float value => cases hFloatFree
  | string value => exact ⟨_, _, rfl, rfl⟩
  | integer value =>
      by_cases hSign : value < 0
      · exact ⟨'-', _, by rw [write, integerChars, if_pos hSign]; rfl, rfl⟩
      · obtain ⟨c, digits, hDigits⟩ := List.exists_cons_of_ne_nil
          (Nat.toDigits_ne_nil : Nat.toDigits 10 value.natAbs ≠ [])
        have hFirst : c.isDigit = true := Nat.isDigit_of_mem_toDigits (by decide) (by decide)
          (hDigits ▸ List.mem_cons_self : c ∈ Nat.toDigits 10 value.natAbs)
        refine ⟨c, digits ++ rest, ?_, kindOfFirst_of_isDigit hFirst⟩
        rw [write, integerChars, if_neg hSign, hDigits]
        rfl
  | array items =>
      rw [write]
      split <;> exact ⟨_, _, rfl, rfl⟩
  | object members =>
      rw [write]
      split <;> exact ⟨_, _, rfl, rfl⟩

/-- The first character of a text tells the kind of its document. -/
theorem kind_eq_of_write_eq {left right : Json} (hLeft : left.FloatFree)
    (hRight : right.FloatFree) {layout : Layout} {level : Nat} {rest other : List Char}
    (hText : left.write layout level rest = right.write layout level other) :
    left.kind = right.kind := by
  obtain ⟨c, text, hStart, hKind⟩ := write_kind hLeft layout level rest
  obtain ⟨d, text', hStart', hKind'⟩ := write_kind hRight layout level other
  rw [hStart, hStart'] at hText
  obtain ⟨rfl, -⟩ := List.cons.inj hText
  exact Option.some.inj (hKind.symm.trans hKind')

/-- No document starts with the bracket that closes an array. -/
theorem write_ne_bracket {document : Json} (hFloatFree : document.FloatFree) (layout : Layout)
    (level : Nat) (rest text : List Char) : document.write layout level rest ≠ ']' :: text := by
  intro hText
  obtain ⟨c, others, hStart, hKind⟩ := write_kind hFloatFree layout level rest
  rw [hStart] at hText
  obtain ⟨rfl, -⟩ := List.cons.inj hText
  cases hKind

theorem write_array_compact {items : List Json} (hSome : items ≠ []) (level : Nat)
    (rest : List Char) :
    (Json.array items).write .compact level rest =
      '[' :: writeItems .compact (level + 1) items (']' :: rest) := by
  simp [write, Layout.compact, hSome]

theorem write_object_compact {members : List (String × Json)} (hSome : members ≠ [])
    (level : Nat) (rest : List Char) :
    (Json.object members).write .compact level rest =
      '\x7b' :: writeMembers .compact (level + 1) members ('\x7d' :: rest) := by
  simp [write, Layout.compact, hSome]

/-- Behind an item follows a comma with the other items, or what follows the array. -/
theorem writeItems_cons_compact (item : Json) (items : List Json) (level : Nat)
    (rest : List Char) :
    writeItems .compact level (item :: items) rest = item.write .compact level
      (if items = [] then rest else ',' :: writeItems .compact level items rest) := by
  cases items <;> simp [writeItems, Layout.compact]

theorem writeMembers_cons_compact (key : String) (value : Json) (members : List (String × Json))
    (level : Nat) (rest : List Char) :
    writeMembers .compact level ((key, value) :: members) rest =
      stringChars key ++ ':' :: value.write .compact level
        (if members = [] then rest else ',' :: writeMembers .compact level members rest) := by
  cases members <;> simp [writeMembers, Layout.compact]

/-- The text of the document ends where the document does: what is written in front of two texts
that end a number is the same document only in front of the same text. -/
def EndsText (left : Json) : Prop :=
  ∀ (right : Json) (level : Nat) (rest other : List Char), left.FloatFree → right.FloatFree →
    EndsNumber rest → EndsNumber other →
    left.write .compact level rest = right.write .compact level other →
    left = right ∧ rest = other

/-- The items of an array end at the bracket that closes it. -/
theorem writeItems_compact_inj {lefts rights : List Json}
    (hEnds : ∀ item ∈ lefts, item.EndsText) (hSome : lefts ≠ []) (hSome' : rights ≠ [])
    (hLeft : ItemsFloatFree lefts) (hRight : ItemsFloatFree rights) {level : Nat}
    {rest other : List Char}
    (hText : writeItems .compact level lefts (']' :: rest) =
      writeItems .compact level rights (']' :: other)) : lefts = rights ∧ rest = other := by
  induction lefts generalizing rights with
  | nil => exact absurd rfl hSome
  | cons left lefts ih =>
      obtain ⟨hFirst, hOthers⟩ := List.forall_mem_cons.mp hEnds
      obtain ⟨right, rights, rfl⟩ := List.exists_cons_of_ne_nil hSome'
      rw [writeItems_cons_compact, writeItems_cons_compact] at hText
      -- Behind an item stands a comma or the bracket, and neither goes on a number.
      have hBehind : ∀ {items : List Json} {rest : List Char}, EndsNumber (if items = []
          then ']' :: rest else ',' :: writeItems .compact level items (']' :: rest)) := by
        intro items rest
        split <;> exact endsNumber_cons (by decide) _
      obtain ⟨rfl, hRest⟩ := hFirst _ _ _ _ hLeft.1 hRight.1 hBehind hBehind hText
      by_cases hLast : lefts = [] <;> by_cases hLast' : rights = [] <;>
        simp only [hLast, hLast', if_true, if_false, List.cons.injEq, Char.reduceEq, false_and,
          true_and] at hRest
      · exact ⟨by rw [hLast, hLast'], hRest⟩
      · obtain ⟨rfl, hOther⟩ := ih hOthers hLast hLast' hLeft.2 hRight.2 hRest
        exact ⟨rfl, hOther⟩

/-- The members of an object end at the brace that closes it. -/
theorem writeMembers_compact_inj {lefts rights : List (String × Json)}
    (hEnds : ∀ member ∈ lefts, member.2.EndsText) (hSome : lefts ≠ []) (hSome' : rights ≠ [])
    (hLeft : MembersFloatFree lefts) (hRight : MembersFloatFree rights) {level : Nat}
    {rest other : List Char}
    (hText : writeMembers .compact level lefts ('\x7d' :: rest) =
      writeMembers .compact level rights ('\x7d' :: other)) : lefts = rights ∧ rest = other := by
  induction lefts generalizing rights with
  | nil => exact absurd rfl hSome
  | cons left lefts ih =>
      obtain ⟨hFirst, hOthers⟩ := List.forall_mem_cons.mp hEnds
      obtain ⟨right, rights, rfl⟩ := List.exists_cons_of_ne_nil hSome'
      obtain ⟨key, value⟩ := left
      obtain ⟨key', value'⟩ := right
      rw [writeMembers_cons_compact, writeMembers_cons_compact] at hText
      have hBehind : ∀ {members : List (String × Json)} {rest : List Char}, EndsNumber
          (if members = [] then '\x7d' :: rest
           else ',' :: writeMembers .compact level members ('\x7d' :: rest)) := by
        intro members rest
        split <;> exact endsNumber_cons (by decide) _
      obtain ⟨rfl, hValues⟩ := stringChars_append_inj hText
      obtain ⟨rfl, hRest⟩ :=
        hFirst _ _ _ _ hLeft.1 hRight.1 hBehind hBehind (List.cons.inj hValues).2
      by_cases hLast : lefts = [] <;> by_cases hLast' : rights = [] <;>
        simp only [hLast, hLast', if_true, if_false, List.cons.injEq, Char.reduceEq, false_and,
          true_and] at hRest
      · exact ⟨by rw [hLast, hLast'], hRest⟩
      · obtain ⟨rfl, hOther⟩ := ih hOthers hLast hLast' hLeft.2 hRight.2 hRest
        exact ⟨rfl, hOther⟩

/-- An empty array and one with items differ in the second character: no item starts with a bracket
that closes. -/
theorem endsText_array {items : List Json} (hItems : ∀ item ∈ items, item.EndsText) :
    (Json.array items).EndsText := by
  intro right level rest other hLeft hRight _ _ hText
  have hKind := kind_eq_of_write_eq hLeft hRight hText
  cases right with
  | array items' =>
      by_cases hSome : items = [] <;> by_cases hSome' : items' = []
      · subst hSome hSome'
        exact ⟨rfl, by simpa [write] using hText⟩
      · subst hSome
        obtain ⟨item', items', rfl⟩ := List.exists_cons_of_ne_nil hSome'
        rw [write_array_compact hSome', writeItems_cons_compact] at hText
        exact absurd (List.cons.inj hText).2.symm (write_ne_bracket hRight.1 _ _ _ _)
      · subst hSome'
        obtain ⟨item, items, rfl⟩ := List.exists_cons_of_ne_nil hSome
        rw [write_array_compact hSome, writeItems_cons_compact] at hText
        exact absurd (List.cons.inj hText).2 (write_ne_bracket hLeft.1 _ _ _ _)
      · rw [write_array_compact hSome, write_array_compact hSome'] at hText
        obtain ⟨rfl, hBehind⟩ :=
          writeItems_compact_inj hItems hSome hSome' hLeft hRight (List.cons.inj hText).2
        exact ⟨rfl, hBehind⟩
  | _ => cases hKind

theorem endsText_object {members : List (String × Json)}
    (hMembers : ∀ member ∈ members, member.2.EndsText) : (Json.object members).EndsText := by
  intro right level rest other hLeft hRight _ _ hText
  have hKind := kind_eq_of_write_eq hLeft hRight hText
  cases right with
  | object members' =>
      by_cases hSome : members = [] <;> by_cases hSome' : members' = []
      · subst hSome hSome'
        exact ⟨rfl, by simpa [write] using hText⟩
      · subst hSome
        obtain ⟨member', members', rfl⟩ := List.exists_cons_of_ne_nil hSome'
        rw [write_object_compact hSome'] at hText
        cases (List.cons.inj hText).2
      · subst hSome'
        obtain ⟨member, members, rfl⟩ := List.exists_cons_of_ne_nil hSome
        rw [write_object_compact hSome] at hText
        cases (List.cons.inj hText).2
      · rw [write_object_compact hSome, write_object_compact hSome'] at hText
        obtain ⟨rfl, hBehind⟩ :=
          writeMembers_compact_inj hMembers hSome hSome' hLeft hRight (List.cons.inj hText).2
        exact ⟨rfl, hBehind⟩
  | _ => cases hKind

/-- The text of every document ends where the document does. -/
theorem endsText (document : Json) : document.EndsText := by
  induction document using Json.induction with
  | array items hItems => exact endsText_array hItems
  | object members hMembers => exact endsText_object hMembers
  | float value =>
      intro right level rest other hLeft
      cases hLeft
  | null =>
      intro right level rest other hLeft hRight _ _ hText
      have hKind := kind_eq_of_write_eq hLeft hRight hText
      cases right with
      | null => exact ⟨rfl, List.append_cancel_left hText⟩
      | _ => cases hKind
  | bool value =>
      intro right level rest other hLeft hRight _ _ hText
      have hKind := kind_eq_of_write_eq hLeft hRight hText
      cases right with
      | bool value' => cases value <;> cases value' <;> simp_all [write]
      | _ => cases hKind
  | integer value =>
      intro right level rest other hLeft hRight hRest hOther hText
      have hKind := kind_eq_of_write_eq hLeft hRight hText
      cases right with
      | integer value' =>
          obtain ⟨rfl, hBehind⟩ := integerChars_append_inj hRest hOther hText
          exact ⟨rfl, hBehind⟩
      | float value' => cases hRight
      | _ => cases hKind
  | string value =>
      intro right level rest other hLeft hRight _ _ hText
      have hKind := kind_eq_of_write_eq hLeft hRight hText
      cases right with
      | string value' =>
          obtain ⟨rfl, hBehind⟩ := stringChars_append_inj hText
          exact ⟨rfl, hBehind⟩
      | _ => cases hKind

/-- Documents without floats are the same if their texts are. -/
theorem text_compact_inj {left right : Json} (hLeft : left.FloatFree) (hRight : right.FloatFree) :
    left.text .compact = right.text .compact ↔ left = right := by
  constructor
  · intro hText
    have hChars : left.write .compact 0 [] = right.write .compact 0 [] :=
      String.ofList_injective hText
    exact (left.endsText _ _ _ _ hLeft hRight endsNumber_nil endsNumber_nil hChars).1
  · rintro rfl
    rfl

end Documents

end QueryOutline.Json
