import QueryOutline.Proofs.Grammar.Logs
import QueryOutline.Proofs.LexemeTiling

/-! The ranges that a reading reports as stepped over. They come in the order of the text and do not
overlap, also where a group is read by itself in between, and also up to a fault. -/

namespace QueryOutline

/-- The bytes that an event reports as stepped over: the first of them, and the first behind
them. -/
def Event.range? : Event → Option (Nat × Nat)
  | .skipped start stop => some (start, stop)
  | .started .. | .skipping .. | .unclosedGroup | .enteredGroup .. => none

/-- The ranges that a reading reports as stepped over, in the order of its events. -/
def Outcome.skips {α : Type} (outcome : Outcome α) : List (Nat × Nat) :=
  outcome.events.filterMap Event.range?

namespace Reading

open Grammar

section Ranges

/-- The ranges lie between the bounds, and each of them starts where the one in front of it ends or
behind that. -/
def InOrder : (low : Nat) → (ranges : List (Nat × Nat)) → (high : Nat) → Prop
  | low, [], high => low ≤ high
  | low, (start, stop) :: more, high => low ≤ start ∧ start ≤ stop ∧ InOrder stop more high

variable {low middle high : Nat} {ranges more : List (Nat × Nat)}

theorem InOrder.bounds_le (hOrder : InOrder low ranges high) : low ≤ high := by
  induction ranges generalizing low with
  | nil => exact hOrder
  | cons range ranges ih =>
      obtain ⟨hStart, hRange, hMore⟩ := hOrder
      have hStop := ih hMore
      omega

theorem InOrder.of_le {lower : Nat} (hLower : lower ≤ low) (hOrder : InOrder low ranges high) :
    InOrder lower ranges high := by
  cases ranges with
  | nil => exact hLower.trans hOrder
  | cons range ranges => exact ⟨hLower.trans hOrder.1, hOrder.2⟩

/-- Ranges up to a place and ranges from there on are in order together. -/
theorem InOrder.append (hFirst : InOrder low ranges middle) (hSecond : InOrder middle more high) :
    InOrder low (ranges ++ more) high := by
  induction ranges generalizing low with
  | nil => exact hSecond.of_le hFirst
  | cons range ranges ih => exact ⟨hFirst.1, hFirst.2.1, ih hFirst.2.2⟩

/-- No range reaches beyond the bounds, and none is turned around. -/
theorem InOrder.range_bounds (hOrder : InOrder low ranges high) :
    ∀ range ∈ ranges, low ≤ range.1 ∧ range.1 ≤ range.2 ∧ range.2 ≤ high := by
  induction ranges generalizing low with
  | nil => exact nofun
  | cons first ranges ih =>
      obtain ⟨hStart, hRange, hMore⟩ := hOrder
      intro range hMember
      rcases List.mem_cons.mp hMember with rfl | hMember
      · exact ⟨hStart, hRange, hMore.bounds_le⟩
      · obtain ⟨hLow, hBounds⟩ := ih hMore range hMember
        exact ⟨by omega, hBounds⟩

/-- Neighbours in order means all in order, since no range is turned around. -/
theorem InOrder.pairwise (hOrder : InOrder low ranges high) :
    ranges.Pairwise fun first second => first.2 ≤ second.1 := by
  induction ranges generalizing low with
  | nil => exact .nil
  | cons first ranges ih =>
      exact .cons (fun range hMember => (hOrder.2.2.range_bounds range hMember).1) (ih hOrder.2.2)

/-- Ranges that do not overlap have a byte in common at most once. -/
theorem countP_holds_le_one (offset : Nat)
    (hApart : ranges.Pairwise fun first second => first.2 ≤ second.1) :
    ranges.countP (fun range => range.1 ≤ offset ∧ offset < range.2) ≤ 1 := by
  induction hApart with
  | nil => exact Nat.zero_le _
  | @cons first ranges hFirst _ ih =>
      rw [List.countP_cons]
      split
      · rename_i hHolds
        have hOthers : ranges.countP (fun range => range.1 ≤ offset ∧ offset < range.2) = 0 := by
          refine List.countP_eq_zero.mpr fun range hMember hOther => ?_
          have hBehind := hFirst range hMember
          simp only [decide_eq_true_eq] at hHolds hOther
          omega
        omega
      · exact ih

end Ranges

section Offsets

/-- What is left of the lexemes never starts before what was left earlier. -/
def Ascending (scope : Scope) (lexemes : List Lexeme) : Prop :=
  ∀ earlier later, earlier <:+ lexemes → later <:+ earlier →
    scope.offset earlier ≤ scope.offset later

variable {scope : Scope} {lexemes rest : List Lexeme}

theorem Ascending.of_suffix (hAscending : Ascending scope lexemes) (hRest : rest <:+ lexemes) :
    Ascending scope rest :=
  fun earlier later hEarlier => hAscending earlier later (hEarlier.trans hRest)

/-- What is left later starts later, or at the end of the scope. -/
theorem Ascending.offset_le (hAscending : Ascending scope lexemes) (hRest : rest <:+ lexemes) :
    scope.offset lexemes ≤ scope.offset rest :=
  hAscending lexemes rest (List.suffix_refl _) hRest

/-- Offsets in a group are those of the same places in the scope around it. -/
theorem offset_ofGroup (scope : Scope) (lexemes part : List Lexeme) :
    (scope.ofGroup (splitGroup 0 lexemes)).offset part =
      scope.offset (part ++ ((splitGroup 0 lexemes).closing.toList ++
        (splitGroup 0 lexemes).rest)) := by
  have hUnclosed := (splitGroup_closing 0 lexemes).1
  generalize splitGroup 0 lexemes = group at hUnclosed
  cases part with
  | cons lexeme part => rfl
  | nil =>
      cases hClosing : group.closing with
      | none => simp [Scope.ofGroup, Scope.offset, hClosing, hUnclosed hClosing]
      | some closing => simp [Scope.ofGroup, Scope.offset, hClosing]

/-- A part at the end of a group is the end of the lexemes, with what is behind the group. -/
theorem append_behind_suffix (hPart : rest <:+ (splitGroup 0 lexemes).content) :
    rest ++ ((splitGroup 0 lexemes).closing.toList ++ (splitGroup 0 lexemes).rest) <:+
      lexemes := by
  obtain ⟨front, hFront⟩ := hPart
  refine ⟨front, ?_⟩
  rw [← List.append_assoc, hFront, ← List.append_assoc, splitGroup_append]

/-- The offsets of a group end at its closing parenthesis, which lies behind its content. -/
theorem Ascending.ofGroup (hAscending : Ascending scope lexemes) :
    Ascending (scope.ofGroup (splitGroup 0 lexemes)) (splitGroup 0 lexemes).content := by
  intro earlier later hEarlier hLater
  rw [offset_ofGroup, offset_ofGroup]
  refine hAscending _ _ (append_behind_suffix hEarlier) ?_
  obtain ⟨front, rfl⟩ := hLater
  exact ⟨front, (List.append_assoc ..).symm⟩

end Offsets

section Logs

variable {scope : Scope} {lexemes rest : List Lexeme} {events : List Event}

/-- If offsets ascend, what is logged goes forward, and the ranges in it are in order, from the
place where the log starts to the place where it ends. -/
theorem Logs.inOrder (hLogs : Logs scope lexemes events rest)
    (hAscending : Ascending scope lexemes) :
    rest <:+ lexemes ∧
      InOrder (scope.offset lexemes) (events.filterMap Event.range?) (scope.offset rest) := by
  induction hLogs with
  | quiet hRest => exact ⟨hRest, hAscending.offset_le hRest⟩
  | trans _ _ ihFirst ihSecond =>
      obtain ⟨hMiddle, hOrder⟩ := ihFirst hAscending
      obtain ⟨hRest, hMore⟩ := ihSecond (hAscending.of_suffix hMiddle)
      rw [List.filterMap_append]
      exact ⟨hRest.trans hMiddle, hOrder.append hMore⟩
  | skipping | unclosed | entered => exact ⟨List.suffix_refl _, Nat.le_refl _⟩
  | skipped scope lexemes =>
      have hSuffix := afterClause_suffix 0 lexemes
      exact ⟨hSuffix, Nat.le_refl _, hAscending.offset_le hSuffix, Nat.le_refl _⟩
  | @group scope lexemes events _ ih =>
      -- The ends of the group are places in the scope around it.
      obtain ⟨-, hOrder⟩ := ih hAscending.ofGroup
      have hWhole := splitGroup_append 0 lexemes
      rw [offset_ofGroup, offset_ofGroup, ← List.append_assoc, hWhole] at hOrder
      rw [List.append_assoc] at hWhole
      exact ⟨⟨_, hWhole⟩, hOrder⟩

end Logs

end Reading

open Reading

/-- The lexemes of a text come one after the other. -/
theorem ascending_lexemes (options : Options) (text : String) :
    Ascending (options.scope (Text.byteSize text.toList) (lexemes text)) (lexemes text) := by
  rintro earlier later hEarlier ⟨front, rfl⟩
  have hOrdered : (lexemes text).Pairwise fun left right => left.stop ≤ right.start :=
    Scanner.pairwise_lexemes text.toList 0 false
  cases front with
  | nil => exact Nat.le_refl _
  | cons first front =>
      have hFirst : first.LiesIn text :=
        Lexeme.liesIn_of_mem (hEarlier.subset (List.mem_cons_self ..))
      have hStart := hFirst.start_lt_stop
      cases later with
      | nil =>
          have hStop := hFirst.stop_le
          rw [← Text.byteSize_toList] at hStop
          simp only [List.append_nil, Scope.offset, Options.scope]
          omega
      | cons next later =>
          have hBehind : first.stop ≤ next.start :=
            List.rel_of_pairwise_cons (hOrdered.sublist hEarlier.sublist) (by simp)
          simp only [List.cons_append, Scope.offset]
          omega

/-- All ranges are reported by the reading of the body. -/
theorem skips_read (options : Options) (text : String) :
    (Query.read options text).skips = (scopeBody options.maxDepth
      (options.scope (Text.byteSize text.toList) (lexemes text)) (lexemes text)).skips := by
  unfold Query.read Query.ofLexemes
  generalize scopeBody options.maxDepth _ (lexemes text) = outcome
  obtain ⟨events, fault | body⟩ := outcome
  · rfl
  · change (_ :: (events ++ [])).filterMap Event.range? = events.filterMap Event.range?
    rw [List.append_nil]
    rfl

theorem inOrder_skips (options : Options) (text : String) :
    ∃ low, InOrder low (Query.read options text).skips (Text.byteSize text.toList) := by
  have hLogs := scopeBody_logs options.maxDepth
    (options.scope (Text.byteSize text.toList) (lexemes text)) (lexemes text)
  obtain ⟨-, hOrder⟩ := hLogs.inOrder
    ((ascending_lexemes options text).of_suffix (List.tail_suffix _))
  rw [skips_read]
  exact ⟨_, hOrder⟩

/-- The ranges that a reading reports as stepped over go forward. Each of them lies within the text,
none starts before those in front of it have ended, and so no byte is reported twice. -/
theorem skips_in_order (options : Options) (text : String) :
    (∀ range ∈ (Query.read options text).skips,
      range.1 ≤ range.2 ∧ range.2 ≤ Text.byteSize text.toList) ∧
    ((Query.read options text).skips.Pairwise fun first second => first.2 ≤ second.1) ∧
    ∀ offset, (Query.read options text).skips.countP
      (fun range => range.1 ≤ offset ∧ offset < range.2) ≤ 1 := by
  obtain ⟨low, hOrder⟩ := inOrder_skips options text
  refine ⟨?_, hOrder.pairwise, fun offset => countP_holds_le_one offset hOrder.pairwise⟩
  intro range hMember
  exact (hOrder.range_bounds range hMember).2

-- A filter in a group, and a clause behind that group.
example : (Query.read {} "LET x = (FILTER a) RETURN x").skips = [(16, 17), (26, 27)] := by
  decide +kernel

end QueryOutline
