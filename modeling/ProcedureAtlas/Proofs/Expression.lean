import ProcedureAtlas.Proofs.Readers

/-!
# Expressions

An expression has a list of readings at every position of a text. They stand in the order of
preference: a run of a class is read as far as it goes before it is cut shorter, and the first of
two alternatives goes before the second. The match at a position is the first reading, and groups
keep what their parts have read in it.

What follows an expression decides which of its readings is taken. Where the rest cannot go on in
front of a character of a class, the longest run of that class is the only one that counts.
-/

namespace ProcedureAtlas

set_option autoImplicit false

structure Stretch where
  start : Position
  stop : Position

def Stretch.text (stretch : Stretch) : Text :=
  stretch.start.after.take (stretch.stop.index - stretch.start.index)

theorem Position.Reads.text_stretch {start stop : Position} {run : Text}
    (reads : start.Reads run stop) : Stretch.text ⟨start, stop⟩ = run := by
  rw [Stretch.text, reads.index, Nat.add_sub_cancel_left, reads.after, List.take_left]

/-- How far a text has been read, and what every group has read of it. -/
structure Reading where
  position : Position
  groups : Nat → Option Stretch

namespace Reading

def begin (position : Position) : Reading :=
  ⟨position, fun _ => none⟩

def moveTo (reading : Reading) (position : Position) : Reading :=
  { reading with position }

/-- The reading once a group that began at `start` ends. -/
def capture (number : Nat) (start : Position) (reading : Reading) : Reading where
  position := reading.position
  groups other := if other = number then some ⟨start, reading.position⟩ else reading.groups other

end Reading

inductive Expression where
  | nothing
  /-- The place between a word character and anything else. -/
  | boundary
  | one (accept : Char → Bool)
  | many (accept : Char → Bool)
  | both (first second : Expression)
  | either (first second : Expression)
  | group (number : Nat) (inner : Expression)

namespace Expression

/-- The ends of all runs of a class, the longest first. -/
def runs (accept : Char → Bool) : Passed → Text → List Position
  | passed, [] => [⟨passed, []⟩]
  | passed, character :: after =>
      if accept character then
        runs accept (passed.add character) after ++ [⟨passed, character :: after⟩]
      else
        [⟨passed, character :: after⟩]

/-- All readings from here on, in the order of preference. -/
def readings : Expression → Reading → List Reading
  | nothing, here => [here]
  | boundary, here =>
      if here.position.followsWord != here.position.precedesWord then [here] else []
  | one accept, here =>
      match here.position.after with
      | [] => []
      | character :: rest =>
          if accept character then [here.moveTo (here.position.pass character rest)] else []
  | many accept, here =>
      (runs accept here.position.toPassed here.position.after).map here.moveTo
  | both first second, here => (first.readings here).flatMap second.readings
  | either first second, here => first.readings here ++ second.readings here
  | group number inner, here => (inner.readings here).map (Reading.capture number here.position)

def match? (expression : Expression) (position : Position) : Option Reading :=
  (expression.readings (.begin position)).head?

def char (expected : Char) : Expression :=
  one fun character => decide (character = expected)

def optional (expression : Expression) : Expression :=
  either expression nothing

def atLeastOne (accept : Char → Bool) : Expression :=
  both (one accept) (many accept)

/-- The given small letters in any case. -/
def letters : List Char → Expression
  | [] => nothing
  | letter :: word => both (one (isLetter letter)) (letters word)

/-! ## What follows decides -/

/-- What the rest gives at the first reading at which it gives something. -/
def followedBy {Result : Type} (expression : Expression) (next : Reading → Option Result)
    (here : Reading) : Option Result :=
  (expression.readings here).findSome? next

section FollowedBy

variable {Result : Type} (next : Reading → Option Result) (here : Reading)

theorem match?_eq (expression : Expression) (position : Position) (finish : Reading → Result) :
    (expression.match? position).map finish =
      expression.followedBy (fun reading => some (finish reading)) (.begin position) := by
  rw [match?, followedBy]
  cases expression.readings (.begin position) with
  | nil => rfl
  | cons first others => rfl

theorem followedBy_nothing : nothing.followedBy next here = next here :=
  List.findSome?_singleton

theorem followedBy_both (first second : Expression) :
    (both first second).followedBy next here =
      first.followedBy (second.followedBy next) here := by
  simp only [followedBy, readings]
  induction first.readings here with
  | nil => rfl
  | cons reading others ih =>
      rw [List.flatMap_cons, List.findSome?_append, ih, List.findSome?_cons]
      change (second.followedBy next reading).or _ = _
      cases second.followedBy next reading with
      | none => rfl
      | some result => rfl

theorem followedBy_either (first second : Expression) :
    (either first second).followedBy next here =
      (first.followedBy next here).or (second.followedBy next here) :=
  List.findSome?_append

theorem followedBy_optional (expression : Expression) :
    (optional expression).followedBy next here =
      (expression.followedBy next here).or (next here) := by
  rw [optional, followedBy_either, followedBy_nothing]

theorem followedBy_group (number : Nat) (inner : Expression) :
    (group number inner).followedBy next here =
      inner.followedBy (fun reading => next (reading.capture number here.position)) here :=
  List.findSome?_map

theorem followedBy_boundary :
    boundary.followedBy next here =
      if here.position.followsWord != here.position.precedesWord then next here else none := by
  rw [followedBy, readings]
  split
  · rw [List.findSome?_singleton]
  · rfl

theorem followedBy_one (accept : Char → Bool) :
    (one accept).followedBy next here =
      match here.position.after with
      | [] => none
      | character :: rest =>
          if accept character then next (here.moveTo (here.position.pass character rest))
          else none := by
  rw [followedBy, readings]
  split
  · rfl
  · split
    · rw [List.findSome?_singleton]
    · rfl

theorem followedBy_char (expected : Char) :
    (char expected).followedBy next here =
      (here.position.readChar expected).bind fun stop => next (here.moveTo stop) := by
  rw [char, followedBy_one, Position.readChar]
  cases here.position.after with
  | nil => rfl
  | cons character rest =>
      by_cases same : character = expected
      · simp only [same, decide_true, if_true, Option.bind_some]
      · simp only [same, decide_false, if_false, Bool.false_eq_true, Option.bind_none]

theorem followedBy_letters (word : List Char) :
    (letters word).followedBy next here =
      (here.position.readLetters word).bind fun stop => next (here.moveTo stop) := by
  induction word generalizing here with
  | nil => exact followedBy_nothing next here
  | cons letter word ih =>
      rw [letters, followedBy_both, followedBy_one, Position.readLetters]
      cases here.position.after with
      | nil => rfl
      | cons character rest =>
          by_cases fits : isLetter letter character = true
          · simp only [fits, if_true]
            exact ih _
          · simp only [fits, Bool.false_eq_true, if_false, Option.bind_none]

end FollowedBy

/-- Of the runs of a class the longest counts if what follows gives no more behind a shorter one. -/
private theorem findSome?_runs {Result : Type} (accept : Char → Bool)
    (give : Position → Option Result) (passed : Passed) (after : Text)
    (commits : ∀ shorter : Position, ¬shorter.Shuns accept →
      (give (Position.skipWhile accept ⟨passed, after⟩)).or (give shorter) =
        give (Position.skipWhile accept ⟨passed, after⟩)) :
    (runs accept passed after).findSome? give =
      give (Position.skipWhile accept ⟨passed, after⟩) := by
  induction after generalizing passed with
  | nil =>
      rw [Position.skipWhile_of_shuns (by rintro _ _ ⟨⟩)]
      exact List.findSome?_singleton
  | cons character rest ih =>
      by_cases held : accept character = true
      · have longer : Position.skipWhile accept ⟨passed.add character, rest⟩ =
            Position.skipWhile accept ⟨passed, character :: rest⟩ :=
          Position.skipWhile_pass ⟨passed, character :: rest⟩ rfl held
        have meets : ¬Position.Shuns accept ⟨passed, character :: rest⟩ := by
          intro shuns
          rw [shuns character rest rfl] at held
          cases held
        rw [← longer] at commits ⊢
        rw [runs, if_pos held, List.findSome?_append, ih _ commits, List.findSome?_singleton]
        exact commits _ meets
      · have shuns : Position.Shuns accept ⟨passed, character :: rest⟩ := by
          rintro _ _ ⟨⟩
          exact Bool.eq_false_iff.mpr held
        rw [runs, if_neg held, List.findSome?_singleton, Position.skipWhile_of_shuns shuns]

theorem followedBy_many {Result : Type} (accept : Char → Bool) (next : Reading → Option Result)
    (here : Reading)
    (commits : ∀ shorter : Position, ¬shorter.Shuns accept →
      (next (here.moveTo (here.position.skipWhile accept))).or (next (here.moveTo shorter)) =
        next (here.moveTo (here.position.skipWhile accept))) :
    (many accept).followedBy next here =
      next (here.moveTo (here.position.skipWhile accept)) := by
  rw [followedBy, readings, List.findSome?_map]
  exact findSome?_runs accept (next ∘ here.moveTo) _ _ commits

/-- What follows fails in front of every character of a class. -/
def StopsAt {Result : Type} (next : Reading → Option Result) (here : Reading)
    (accept : Char → Bool) : Prop :=
  ∀ position : Position, ¬position.Shuns accept → next (here.moveTo position) = none

theorem followedBy_many_of_stops {Result : Type} {accept : Char → Bool}
    {next : Reading → Option Result} {here : Reading} (stops : StopsAt next here accept) :
    (many accept).followedBy next here =
      next (here.moveTo (here.position.skipWhile accept)) := by
  apply followedBy_many
  intro shorter meets
  rw [stops shorter meets, Option.or_none]

theorem followedBy_atLeastOne {Result : Type} {accept : Char → Bool}
    {next : Reading → Option Result} {here : Reading} (stops : StopsAt next here accept) :
    (atLeastOne accept).followedBy next here =
      (match here.position.after with
        | [] => none
        | character :: _ =>
            if accept character then some (here.position.skipWhile accept) else none).bind
        fun stop => next (here.moveTo stop) := by
  rw [atLeastOne, followedBy_both, followedBy_one]
  cases split : here.position.after with
  | nil => rfl
  | cons character rest =>
      by_cases held : accept character = true
      · have longer := Position.skipWhile_pass here.position split held
        have further :
            StopsAt next (here.moveTo (here.position.pass character rest)) accept := stops
        simp only [held, if_true, Option.bind_some]
        rw [followedBy_many_of_stops further, ← longer]
        rfl
      · simp only [held, Bool.false_eq_true, if_false, Option.bind_none]

end Expression

end ProcedureAtlas
