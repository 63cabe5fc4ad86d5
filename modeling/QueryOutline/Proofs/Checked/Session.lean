import QueryOutline.Lexeme.Cursor
import QueryOutline.Proofs.Checked.Scanning
import QueryOutline.Reading.Query

/-! Runs on a session. A session counts its way through the lexemes and through the levels of
nesting, and a run changes it step by step. A step that could go wrong is a check, and a run with a
check that fails gives nothing at all. What a run has to do with a reading is said once, and kept
from step to step. -/

namespace QueryOutline

/-- No other token is equal to it by value. -/
def Token.IsPlain (token : Token) : Prop :=
  ∀ other : Token, other.same token = true ↔ other = token

theorem Token.isPlain_mark (sign : Mark) : (Token.mark sign).IsPlain := by
  intro other
  cases other <;> simp [Token.same]

theorem Token.isPlain_keyword (word : Keyword) : (Token.keyword word).IsPlain := by
  intro other
  cases other <;> simp [Token.same]

namespace Outcome

variable {α β : Type}

/-- A reading that leaves no lexemes. -/
def toEnd (outcome : Outcome α) : Outcome (α × List Lexeme) :=
  ⟨outcome.events, outcome.result.map fun value => (value, [])⟩

/-- Only the last of two readings has to say what is left. -/
theorem toEnd_bind (outcome : Outcome α) (next : α → Outcome β) :
    (outcome >>= next).toEnd = outcome >>= fun value => (next value).toEnd := by
  obtain ⟨events, fault | value⟩ := outcome <;> rfl

theorem toEnd_map (outcome : Outcome α) (change : α → β) :
    outcome.toEnd >>= (fun read => pure (change read.1, read.2)) =
      (outcome >>= fun value => pure (change value)).toEnd := by
  obtain ⟨events, fault | value⟩ := outcome <;> rfl

end Outcome

namespace Checked

open Reading

/-- The state of the reading of one sequence of lexemes. -/
structure Session where
  cursor : Cursor
  inGroup : Bool
  letBound : Bool
  /-- How many expressions and groups the reading is in. -/
  depth : Nat

namespace Session

def rest (session : Session) : List Lexeme :=
  session.cursor.lexemes.drop session.cursor.position

def moved (session : Session) (position : Nat) : Session :=
  { session with cursor := { session.cursor with position } }

def next (session : Session) : Session :=
  session.moved (session.cursor.position + 1)

def scope (limit : Nat) (session : Session) : Scope :=
  ⟨limit, session.letBound, session.inGroup, session.cursor.endOffset⟩

variable {session : Session} {lexeme : Lexeme} {rest : List Lexeme}

@[simp]
theorem moved_position : session.moved session.cursor.position = session := rfl

@[simp]
theorem moved_moved (first second : Nat) :
    (session.moved first).moved second = session.moved second := rfl

@[simp]
theorem position_moved (position : Nat) : (session.moved position).cursor.position = position := rfl

@[simp]
theorem lexemes_moved (position : Nat) :
    (session.moved position).cursor.lexemes = session.cursor.lexemes := rfl

@[simp]
theorem depth_moved (position : Nat) : (session.moved position).depth = session.depth := rfl

/-- Looking at the next lexeme is looking at the start of what is left. From here on, no proof looks
at positions to know what is next. -/
theorem peekLexeme_eq : session.cursor.peekLexeme = session.rest.head? := by
  rw [Session.rest, List.head?_drop]
  rfl

theorem peek_eq : session.cursor.peek = session.rest.head?.map Lexeme.token := by
  rw [Cursor.peek, peekLexeme_eq]

theorem peekNth_one : session.cursor.peekNth 1 = session.rest[1]?.map Lexeme.token := by
  rw [Session.rest, List.getElem?_drop]
  rfl

/-- Behind the last lexeme, both name the end of the session. The limit of the scope does not
matter. -/
theorem offset_eq (limit : Nat) :
    session.cursor.offset = (session.scope limit).offset session.rest := by
  rw [Cursor.offset, peekLexeme_eq]
  cases session.rest <;> rfl

/-- A cursor beyond the last lexeme counts as one at the end. -/
theorem isAtEnd_iff : session.cursor.isAtEnd = true ↔ session.rest = [] := by
  rw [Cursor.isAtEnd, decide_eq_true_eq, Session.rest, List.drop_eq_nil_iff]

/-- Where a lexeme is left, the cursor is not at the end, so that one step more stays within the
lexemes. -/
theorem position_lt (hRest : session.rest = lexeme :: rest) :
    session.cursor.position < session.cursor.lexemes.length := by
  by_contra hEnd
  rw [Session.rest, List.drop_eq_nil_of_le (Nat.le_of_not_lt hEnd)] at hRest
  cases hRest

/-- One step of the cursor takes one lexeme from what is left. -/
theorem rest_next (hRest : session.rest = lexeme :: rest) : session.next.rest = rest := by
  have hTail := congrArg List.tail hRest
  rwa [Session.rest, List.tail_drop] at hTail

/-- With one lexeme fewer left, a loop with a round for every lexeme has one round fewer to go. -/
theorem length_next (hRest : session.rest = lexeme :: rest) :
    session.next.rest.length + 1 = session.rest.length := by
  rw [rest_next hRest, hRest]
  rfl

theorem bump_cons (hRest : session.rest = lexeme :: rest) :
    session.cursor.bump = (some lexeme, session.next.cursor) := by
  simp only [Cursor.bump, peekLexeme_eq, hRest, List.head?_cons]
  rfl

/-- At the end nothing is taken, and the cursor stays where it is. -/
theorem bump_nil (hRest : session.rest = []) : session.cursor.bump = (none, session.cursor) := by
  simp only [Cursor.bump, peekLexeme_eq, hRest, List.head?_nil]

theorem rest_length (session : Session) :
    session.rest.length = session.cursor.lexemes.length - session.cursor.position :=
  List.length_drop

theorem rest_length_le (session : Session) :
    session.rest.length ≤ session.cursor.lexemes.length := by
  rw [rest_length]
  exact Nat.sub_le _ _

/-- The cursor can go to the position: it does not go back, and it stops at the end. -/
structure Reaches (session : Session) (position : Nat) : Prop where
  forward : session.cursor.position ≤ position
  within : position ≤ max session.cursor.position session.cursor.lexemes.length

namespace Reaches

/-- Staying in place is no way back, and it is allowed at the end. -/
theorem refl (session : Session) : session.Reaches session.cursor.position :=
  ⟨Nat.le_refl _, Nat.le_max_left _ _⟩

theorem next (hRest : session.rest = lexeme :: rest) :
    session.Reaches (session.cursor.position + 1) :=
  ⟨Nat.le_succ _, Nat.le_trans (position_lt hRest) (Nat.le_max_right _ _)⟩

/-- What can be reached from a place that was reached can be reached at once. -/
theorem trans {first second : Nat} (hFirst : session.Reaches first)
    (hSecond : (session.moved first).Reaches second) : session.Reaches second := by
  obtain ⟨hForward, hWithin⟩ := hFirst
  obtain ⟨hFurther, hEnd⟩ := hSecond
  simp only [position_moved, lexemes_moved] at hFurther hEnd
  constructor <;> omega

/-- No more lexemes are left than before. -/
theorem length_le {position : Nat} (hReaches : session.Reaches position) :
    (session.moved position).rest.length ≤ session.rest.length := by
  have hForward := hReaches.forward
  rw [rest_length, rest_length, position_moved, lexemes_moved]
  omega

end Reaches

end Session

/-- A reading that changes a session as it goes on. It gives nothing if one of its checks fails. A
fault ends the reading and leaves the session as it is then. -/
def Run (α : Type) : Type :=
  Session → Option (Outcome α × Session)

namespace Run

variable {α β : Type}

protected def pure (value : α) : Run α := fun session =>
  some (pure value, session)

protected def bind (first : Run α) (second : α → Run β) : Run β := fun session =>
  match first session with
  | none => none
  | some (⟨events, .error fault⟩, after) => some (⟨events, .error fault⟩, after)
  | some (⟨events, .ok value⟩, after) =>
      (second value after).map fun (outcome, last) =>
        (⟨events ++ outcome.events, outcome.result⟩, last)

instance : Monad Run where
  pure := Run.pure
  bind := Run.bind

def fail (fault : Fault) : Run α := fun session =>
  some (.fail fault, session)

def emit (event : Event) : Run Unit := fun session =>
  some (.emit event, session)

def ask (answer : Session → α) : Run α := fun session =>
  some (pure (answer session), session)

/-- A check, and what it gives if it does not fail. -/
def check (value : Option α) : Run α := fun session =>
  value.map fun value => (pure value, session)

def step (move : Cursor → α × Cursor) : Run α := fun session =>
  some (pure (move session.cursor).1, { session with cursor := (move session.cursor).2 })

def bump : Run (Option Lexeme) :=
  step Cursor.bump

def eat (token : Token) : Run Bool :=
  step fun cursor => cursor.eat token

/-- The run in one more level of nesting. There may be `capacity` levels at most. The level is left
again behind the run, even if it ends with a fault. -/
def deeper (capacity : Nat) (run : Run α) : Run α := fun session => do
  let entered ← if session.depth < capacity then some { session with depth := session.depth + 1 }
    else none
  let (outcome, after) ← run entered
  let depth ← minus? after.depth 1
  pure (outcome, { after with depth })

/-- A run on a session of its own, behind which the session is what it was before. -/
def aside (child : Session) (run : Run α) : Run α := fun session =>
  (run child).map fun (outcome, _) => (outcome, session)

end Run

/-- From a session on, the run passes all its checks and gives what a reading gives. The cursor goes
on, and behind a value it stands in front of the lexemes that the reading has left. -/
def Follows {α : Type} (run : Run α) (session : Session) (outcome : Outcome (α × List Lexeme)) :
    Prop :=
  ∃ position, session.Reaches position ∧
    run session = some (⟨outcome.events, outcome.result.map Prod.fst⟩, session.moved position) ∧
    ∀ value rest, outcome.result = .ok (value, rest) → (session.moved position).rest = rest

namespace Follows

variable {α β : Type} {session : Session} {lexeme : Lexeme} {rest : List Lexeme}
  {outcome : Outcome (α × List Lexeme)} {next : α × List Lexeme → Outcome (β × List Lexeme)}
  {result : Outcome (β × List Lexeme)} {first : Run α} {second : α → Run β}

/-- A run that gives a value at once follows the reading that leaves all lexemes. -/
theorem pure (value : α) (session : Session) :
    Follows (Pure.pure value) session (Pure.pure (value, session.rest)) := by
  refine ⟨_, .refl session, rfl, ?_⟩
  rintro _ _ ⟨⟩
  rfl

/-- A fault is followed wherever it is raised. What is left behind it is not asked for. -/
theorem fail (fault : Fault) (session : Session) :
    Follows (Run.fail fault : Run α) session (.fail fault) := by
  refine ⟨_, .refl session, rfl, ?_⟩
  rintro _ _ ⟨⟩

/-- What follows a reading step by step follows it as a whole. -/
theorem bind (hFirst : Follows first session outcome)
    (hSecond : ∀ value position, session.Reaches position →
      outcome.result = .ok (value, (session.moved position).rest) →
      Follows (second value) (session.moved position)
        (next (value, (session.moved position).rest))) :
    Follows (first >>= second) session (outcome >>= next) := by
  obtain ⟨position, hReaches, hRun, hRest⟩ := hFirst
  change Follows (Run.bind first second) session (Outcome.bind outcome next)
  obtain ⟨events, fault | ⟨value, rest⟩⟩ := outcome
  · refine ⟨position, hReaches, ?_, ?_⟩
    · simp [Run.bind, hRun, Outcome.bind, Except.map]
    · rintro _ _ ⟨⟩
  · obtain rfl := hRest value rest rfl
    obtain ⟨last, hFurther, hLast, hEnd⟩ := hSecond value position hReaches rfl
    refine ⟨last, hReaches.trans hFurther, ?_, hEnd⟩
    simp [Run.bind, hRun, Outcome.bind, Except.map, hLast]

/-- A change of the value alone neither checks anything nor moves the cursor. -/
theorem map (change : α → β) (hFirst : Follows first session outcome) :
    Follows (first >>= fun value => Pure.pure (change value)) session
      (outcome >>= fun read => Pure.pure (change read.1, read.2)) :=
  bind hFirst fun _ _ _ _ => pure _ _

/-- A step that the reading has no part in. -/
theorem move {value : α} {position : Nat} (hReaches : session.Reaches position)
    (hStep : first session = some (Pure.pure value, session.moved position))
    (hSecond : Follows (second value) (session.moved position) result) :
    Follows (first >>= second) session result := by
  obtain ⟨last, hFurther, hLast, hEnd⟩ := hSecond
  refine ⟨last, hReaches.trans hFurther, ?_, hEnd⟩
  change Run.bind first second session = _
  have hPure : first session = some (⟨[], .ok value⟩, session.moved position) := hStep
  simp [Run.bind, hPure, hLast]

theorem pure_bind {value : α} (hSecond : Follows (second value) session result) :
    Follows (Pure.pure value >>= second) session result :=
  move (.refl session) rfl hSecond

/-- A question to the session is no step of the reading. -/
theorem ask {answer : Session → α} (hSecond : Follows (second (answer session)) session result) :
    Follows (Run.ask answer >>= second) session result :=
  move (.refl session) rfl hSecond

/-- A check has to be shown to pass, and then it is no step of the reading. These are the places
where a proof owes something. -/
theorem check {checked : Option α} {value : α} (hChecked : checked = some value)
    (hSecond : Follows (second value) session result) :
    Follows (Run.check checked >>= second) session result :=
  move (.refl session) (by rw [hChecked]; rfl) hSecond

/-- The events of a run are those of the reading, in the same order. -/
theorem emit (event : Event) (session : Session) :
    Follows (Run.emit event) session (do
      Outcome.emit event
      Pure.pure ((), session.rest)) := by
  refine ⟨_, .refl session, rfl, ?_⟩
  rintro _ _ ⟨⟩
  rfl

/-- An event in front of a run is an event in front of what it follows. -/
theorem emit_bind {event : Event} {second : Unit → Run β}
    (hSecond : Follows (second ()) session result) :
    Follows (Run.emit event >>= second) session (Outcome.emit event >>= fun _ => result) := by
  obtain ⟨last, hReaches, hLast, hEnd⟩ := hSecond
  refine ⟨last, hReaches, ?_, hEnd⟩
  change Run.bind _ second session = _
  simp [Run.bind, Run.emit, Outcome.emit, hLast, Bind.bind, Outcome.bind]

/-- The next lexeme is taken where it is known that one is left. -/
theorem bump {second : Option Lexeme → Run β} (hRest : session.rest = lexeme :: rest)
    (hSecond : Follows (second (some lexeme)) session.next result) :
    Follows (Run.bump >>= second) session result := by
  refine move (.next hRest) ?_ hSecond
  simp only [Run.bump, Run.step, Session.bump_cons hRest]
  rfl

/-- Taking a lexeme at the end moves nothing, so that the reading is followed from the same place.
-/
theorem bump_end {second : Option Lexeme → Run β} (hRest : session.rest = [])
    (hSecond : Follows (second none) session result) :
    Follows (Run.bump >>= second) session result := by
  refine move (.refl session) ?_ hSecond
  simp only [Run.bump, Run.step, Session.bump_nil hRest]
  rfl

/-- The run compares by value where the reading asks for the same token. For a plain token there is
no difference. -/
theorem eat {token : Token} {second : Bool → Run β} (hPlain : token.IsPlain)
    (hEaten : eat? token session.rest = some rest)
    (hSecond : Follows (second true) session.next result) :
    Follows (Run.eat token >>= second) session result := by
  obtain ⟨lexeme, hRest, hToken⟩ := eat?_eq_some hEaten
  have hFound : (session.cursor.peek.any fun found => found.same token) = true := by
    rw [Session.peek_eq, hRest]
    exact (hPlain _).mpr hToken
  refine move (.next hRest) ?_ hSecond
  simp only [Run.eat, Run.step, Cursor.eat, hFound, if_true]
  rfl

/-- A plain token that is not next is not taken, at the end neither. -/
theorem eat_none {token : Token} {second : Bool → Run β} (hPlain : token.IsPlain)
    (hEaten : eat? token session.rest = none)
    (hSecond : Follows (second false) session result) :
    Follows (Run.eat token >>= second) session result := by
  refine move (.refl session) ?_ hSecond
  have hOther : (session.cursor.peek.any fun found => found.same token) = false := by
    rw [Session.peek_eq]
    cases hRest : session.rest with
    | nil => rfl
    | cons lexeme rest =>
        rw [hRest, eat?] at hEaten
        have hToken : lexeme.token ≠ token := by
          intro hSame
          simp [hSame] at hEaten
        exact Bool.eq_false_iff.mpr fun hSame => hToken ((hPlain _).mp hSame)
  simp [Run.eat, Run.step, Cursor.eat, hOther]

/-- What is taken if it is there leaves what is behind it. -/
theorem eatOptional {token : Token} {second : Bool → Run β} (hPlain : token.IsPlain)
    (hSecond : ∀ taken position, session.Reaches position →
      (session.moved position).rest = eatOptional token session.rest →
      Follows (second taken) (session.moved position) result) :
    Follows (Run.eat token >>= second) session result := by
  cases hEaten : eat? token session.rest with
  | none =>
      refine eat_none hPlain hEaten (hSecond false _ (.refl session) ?_)
      simp [Reading.eatOptional, hEaten]
  | some rest =>
      obtain ⟨lexeme, hRest, -⟩ := eat?_eq_some hEaten
      refine eat hPlain hEaten (hSecond true _ (.next hRest) ?_)
      rw [Reading.eatOptional, hEaten]
      exact Session.rest_next hRest

/-- The check is that there is room for one more level. The level is given back behind the run, so
that the depth is the same before and after. -/
theorem deeper {run : Run α} {capacity : Nat} (hDepth : session.depth < capacity)
    (hRun : Follows run { session with depth := session.depth + 1 } outcome) :
    Follows (Run.deeper capacity run) session outcome := by
  obtain ⟨position, ⟨hForward, hWithin⟩, hGives, hRest⟩ := hRun
  refine ⟨position, ⟨hForward, hWithin⟩, ?_, hRest⟩
  simp only [Run.deeper, hDepth, if_true, Option.bind_eq_bind, Option.bind_some, hGives,
    Session.depth_moved, minus?]
  rfl

/-- A run on a session of its own follows a reading of all its lexemes. -/
theorem aside {run : Run α} {child : Session} {outcome : Outcome α}
    (hRun : Follows run child outcome.toEnd) (session : Session) :
    Follows (Run.aside child run) session (outcome >>= fun value =>
      Pure.pure (value, session.rest)) := by
  obtain ⟨position, -, hGives, -⟩ := hRun
  obtain ⟨events, fault | value⟩ := outcome
  · refine ⟨_, .refl session, ?_, ?_⟩
    · simp only [Run.aside, hGives]
      rfl
    · rintro _ _ ⟨⟩
  · refine ⟨_, .refl session, ?_, ?_⟩
    · simp [Run.aside, hGives, Outcome.toEnd, Except.map, Bind.bind, Outcome.bind, Pure.pure,
        Outcome.pure]
    · rintro _ _ ⟨⟩
      rfl

/-- What follows a reading of all lexemes gives the outcome of the reading. -/
theorem exists_eq_some {run : Run α} {outcome : Outcome α}
    (hRun : Follows run session outcome.toEnd) : ∃ last, run session = some (outcome, last) := by
  obtain ⟨position, -, hGives, -⟩ := hRun
  refine ⟨session.moved position, hGives.trans ?_⟩
  obtain ⟨events, fault | value⟩ := outcome <;> rfl

end Follows

/-- Wherever the cursor of the session goes, the run follows the reader from there on. -/
def Tracks {α : Type} (run : Run α) (session : Session) (reader : Reader α) : Prop :=
  ∀ position, session.Reaches position →
    Follows run (session.moved position) (reader (session.moved position).rest)

namespace Tracks

variable {α : Type} {run : Run α} {session : Session} {reader : Reader α}

/-- The place where the session stands is one of those that its cursor can reach. -/
theorem here (hTracks : Tracks run session reader) : Follows run session (reader session.rest) :=
  hTracks _ (.refl session)

/-- What is tracked from a place is tracked from all places that the cursor can go on to. -/
theorem moved (hTracks : Tracks run session reader) {position : Nat}
    (hReaches : session.Reaches position) : Tracks run (session.moved position) reader := by
  intro further hFurther
  exact hTracks further (hReaches.trans hFurther)

/-- A lexeme that is left can be taken, so that the place behind it is one of those in question. -/
theorem next (hTracks : Tracks run session reader) {lexeme : Lexeme} {rest : List Lexeme}
    (hRest : session.rest = lexeme :: rest) : Tracks run session.next reader :=
  hTracks.moved (.next hRest)

/-- What is tracked behind the next lexeme is tracked behind every later one. -/
theorem later (hTracks : Tracks run session.next reader) {position : Nat}
    (hReaches : session.Reaches position) (hSome : (session.moved position).rest ≠ []) :
    Tracks run (session.moved position).next reader := by
  obtain ⟨lexeme, rest, hRest⟩ := List.exists_cons_of_ne_nil hSome
  have hForward := hReaches.forward
  have hSpace := Session.position_lt hRest
  rw [Session.position_moved, Session.lexemes_moved] at hSpace
  have hLater : session.next.Reaches (position + 1) :=
    ⟨Nat.succ_le_succ hForward, Nat.le_trans hSpace (Nat.le_max_right _ _)⟩
  exact hTracks.moved hLater

end Tracks

end Checked

end QueryOutline
