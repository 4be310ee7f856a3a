import Mathlib.Data.List.Forall2
import ProcedureAtlas.Proofs.Names
import ProcedureAtlas.Script.Call

/-!
# What readers pass over

A reader takes a position and stops at a later one of the same text. The run between the two says
everything about the step: the two positions, the index and the offset of the one follow from the
other. Each reader is described by the runs it can pass over.
-/

namespace ProcedureAtlas

set_option autoImplicit false

theorem Text.byteLength_pos {text : Text} (inhabited : text ≠ []) : 0 < byteLength text := by
  obtain ⟨character, rest, rfl⟩ := List.exists_cons_of_ne_nil inhabited
  have positive := character.utf8Size_pos
  rw [byteLength_cons]
  omega

namespace Position

/-- The characters between two positions of one text. -/
structure Reads (start : Position) (run : Text) (stop : Position) : Prop where
  before : stop.before = run.reverse ++ start.before
  after : start.after = run ++ stop.after

variable {start middle stop : Position} {run front back : Text}

theorem ext_of_parts {left right : Position} (before : left.before = right.before)
    (after : left.after = right.after) : left = right := by
  obtain ⟨leftPassed, leftAfter⟩ := left
  obtain ⟨rightPassed, rightAfter⟩ := right
  obtain rfl : leftPassed = rightPassed := Passed.eq_of_before_eq before
  obtain rfl : leftAfter = rightAfter := after
  rfl

theorem ext_of_index {left right : Position} (text : left.text = right.text)
    (index : left.index = right.index) : left = right := by
  have lengths : left.before.reverse.length = right.before.reverse.length := by
    rw [List.length_reverse, List.length_reverse, ← left.index_eq, ← right.index_eq, index]
  obtain ⟨before, after⟩ := List.append_inj text lengths
  exact ext_of_parts (List.reverse_inj.mp before) after

/-- There is a position behind every beginning of what is still to be read. -/
theorem reads_addRun {rest : Text} (split : start.after = run ++ rest) :
    start.Reads run ⟨start.addRun run, rest⟩ :=
  ⟨rfl, split⟩

namespace Reads

theorem refl (position : Position) : position.Reads [] position :=
  ⟨rfl, rfl⟩

theorem trans (first : start.Reads front middle) (second : middle.Reads back stop) :
    start.Reads (front ++ back) stop := by
  constructor
  · rw [second.before, first.before, List.reverse_append, List.append_assoc]
  · rw [first.after, second.after, List.append_assoc]

theorem index (reads : start.Reads run stop) : stop.index = start.index + run.length := by
  rw [stop.index_eq, start.index_eq, reads.before, List.length_append, List.length_reverse]
  omega

theorem offset (reads : start.Reads run stop) :
    stop.offset = start.offset + Text.byteLength run := by
  rw [stop.offset_eq, start.offset_eq, reads.before, Text.byteLength_append,
    Text.byteLength_reverse]
  omega

theorem text (reads : start.Reads run stop) : stop.text = start.text := by
  rw [Position.text, Position.text, reads.before, reads.after, List.reverse_append,
    List.reverse_reverse, List.append_assoc]

theorem stop_unique {other : Position} (reads : start.Reads run stop)
    (again : start.Reads run other) : stop = other := by
  apply ext_of_parts
  · rw [reads.before, again.before]
  · exact List.append_cancel_left (reads.after.symm.trans again.after)

/-- A position of the text inside a run cuts the run in two. -/
theorem split {position : Position} (reads : start.Reads run stop)
    (text : position.text = start.text) (lower : start.index ≤ position.index)
    (upper : position.index ≤ stop.index) :
    ∃ front back, run = front ++ back ∧ start.Reads front position ∧ position.Reads back stop := by
  have behind : start.Reads (run.take (position.index - start.index))
      ⟨start.addRun (run.take (position.index - start.index)),
        run.drop (position.index - start.index) ++ stop.after⟩ := by
    apply reads_addRun
    rw [reads.after, ← List.append_assoc, List.take_append_drop]
  -- Both are positions of one text with the same index.
  have same : ⟨start.addRun (run.take (position.index - start.index)),
      run.drop (position.index - start.index) ++ stop.after⟩ = position := by
    apply ext_of_index
    · rw [behind.text, text]
    · have whole := reads.index
      rw [behind.index, List.length_take]
      omega
  rw [same] at behind
  refine ⟨_, run.drop (position.index - start.index), (List.take_append_drop _ run).symm, behind,
    ?_⟩
  constructor
  · rw [reads.before, behind.before, ← List.append_assoc, ← List.reverse_append,
      List.take_append_drop]
  · exact (congrArg Position.after same).symm

end Reads

/-- Of two positions of one text, the later one is reached from the earlier one. -/
theorem exists_reads {left right : Position} (text : left.text = right.text)
    (order : left.index ≤ right.index) : ∃ run, left.Reads run right := by
  have whole : (Position.start right.text).Reads right.before.reverse right := by
    refine ⟨?_, rfl⟩
    rw [List.reverse_reverse]
    exact (List.append_nil _).symm
  have bottom : (Position.start right.text).index ≤ left.index := Nat.zero_le _
  obtain ⟨_, run, -, -, reads⟩ := whole.split text bottom order
  exact ⟨run, reads⟩

/-- In one text, bytes and characters count alike. -/
theorem offset_lt_iff {left right : Position} (text : left.text = right.text) :
    left.offset < right.offset ↔ left.index < right.index := by
  constructor
  · intro order
    by_contra reverse
    obtain ⟨run, reads⟩ := exists_reads text.symm (Nat.le_of_not_lt reverse)
    have offset := reads.offset
    omega
  · intro order
    obtain ⟨run, reads⟩ := exists_reads text (Nat.le_of_lt order)
    have inhabited : run ≠ [] := by
      rintro rfl
      have index := reads.index
      rw [List.length_nil] at index
      omega
    have positive := Text.byteLength_pos inhabited
    rw [reads.offset]
    omega

/-! ## Readers of characters -/

variable {position : Position}

theorem reads_pass {character : Char} {rest : Text} (split : position.after = character :: rest) :
    position.Reads [character] (position.pass character rest) :=
  ⟨rfl, split⟩

theorem reads_skipWhile (accept : Char → Bool) (position : Position) :
    position.Reads (position.after.takeWhile accept) (position.skipWhile accept) :=
  reads_addRun List.takeWhile_append_dropWhile.symm

theorem reads_of_readChar {expected : Char} (read : position.readChar expected = some stop) :
    position.Reads [expected] stop := by
  rw [readChar] at read
  split at read
  · cases read
  · rename_i character rest split
    split at read
    · rename_i same
      subst same
      obtain rfl := Option.some.inj read
      exact reads_pass split
    · cases read

theorem reads_skipChar (expected : Char) (position : Position) :
    ∃ run, position.Reads run (position.skipChar expected) ∧ (run = [] ∨ run = [expected]) := by
  rw [skipChar]
  cases read : position.readChar expected with
  | none => exact ⟨[], .refl position, Or.inl rfl⟩
  | some stop => exact ⟨[expected], reads_of_readChar read, Or.inr rfl⟩

theorem reads_of_readLetters {letters : List Char}
    (read : position.readLetters letters = some stop) :
    ∃ run, position.Reads run stop ∧ List.Forall₂ (fun letter character =>
      isLetter letter character = true) letters run := by
  induction letters generalizing position with
  | nil =>
      obtain rfl := Option.some.inj read
      exact ⟨[], .refl position, .nil⟩
  | cons letter letters ih =>
      rw [readLetters] at read
      split at read
      · cases read
      · rename_i character rest split
        split at read
        · rename_i fits
          obtain ⟨run, reads, spelled⟩ := ih read
          exact ⟨character :: run, (reads_pass split).trans reads, .cons fits spelled⟩
        · cases read

theorem readLetters_append (front back : List Char) (position : Position) :
    position.readLetters (front ++ back) =
      (position.readLetters front).bind (readLetters back) := by
  induction front generalizing position with
  | nil => rfl
  | cons letter front ih =>
      rw [List.cons_append, readLetters, readLetters]
      cases position.after with
      | nil => rfl
      | cons character rest =>
          by_cases fits : isLetter letter character = true
          · simp only [fits, if_true]
            exact ih _
          · simp only [fits, Bool.false_eq_true, if_false, Option.bind_none]

/-- Nothing is left to be read, or a character that the class does not hold. -/
def Shuns (accept : Char → Bool) (position : Position) : Prop :=
  ∀ character rest, position.after = character :: rest → accept character = false

theorem shuns_skipWhile (accept : Char → Bool) (position : Position) :
    (position.skipWhile accept).Shuns accept := by
  intro character rest split
  have kept : position.after.dropWhile accept ≠ [] := by
    change (position.skipWhile accept).after ≠ []
    rw [split]
    exact List.cons_ne_nil _ _
  have head := List.head_dropWhile_not accept kept
  have first : (position.after.dropWhile accept).head kept = character := by
    simp only [show position.after.dropWhile accept = character :: rest from split, List.head_cons]
  rwa [first] at head

theorem skipWhile_of_shuns {accept : Char → Bool} (shuns : position.Shuns accept) :
    position.skipWhile accept = position := by
  cases split : position.after with
  | nil =>
      exact ext_of_parts (by simp [skipWhile, Passed.addRun, split]) (by simp [skipWhile, split])
  | cons character rest =>
      have other := shuns character rest split
      exact ext_of_parts (by simp [skipWhile, Passed.addRun, split, other])
        (by simp [skipWhile, split, other])

theorem skipWhile_pass (position : Position) {accept : Char → Bool} {character : Char} {rest : Text}
    (split : position.after = character :: rest) (held : accept character = true) :
    (position.pass character rest).skipWhile accept = position.skipWhile accept := by
  apply ext_of_parts
  · simp [skipWhile, pass, Passed.addRun, Passed.add, split, held]
  · simp [skipWhile, pass, split, held]

/-- What a reader of at least one character of a class passes over. -/
private theorem reads_of_run {accept : Char → Bool}
    (read : (match position.after with
      | [] => none
      | character :: _ =>
          if accept character then some (position.skipWhile accept) else none) = some stop) :
    ∃ run, position.Reads run stop ∧ run ≠ [] ∧ (∀ character ∈ run, accept character = true) ∧
      stop = position.skipWhile accept := by
  split at read
  · cases read
  · rename_i character rest split
    split at read
    · rename_i held
      obtain rfl := Option.some.inj read
      refine ⟨_, reads_skipWhile accept position, ?_, fun _ => List.mem_takeWhile_imp, rfl⟩
      rw [split, List.takeWhile_cons_of_pos held]
      exact List.cons_ne_nil _ _
    · cases read

theorem reads_of_readBlanks (read : position.readBlanks = some stop) :
    ∃ run, position.Reads run stop ∧ run ≠ [] ∧ (∀ character ∈ run, isBlank character = true) ∧
      stop = position.skipWhile isBlank :=
  reads_of_run read

theorem reads_of_readWord (read : position.readWord = some stop) :
    ∃ run, position.Reads run stop ∧ run ≠ [] ∧ (∀ character ∈ run, isWord character = true) ∧
      stop = position.skipWhile isWord :=
  reads_of_run read

end Position

/-! ## Segments -/

namespace Segment

/-- A segment is its name with at most one bracket on either side. The name is as long as it can
be. -/
structure Spans (position : Position) (segment : Segment) (nameStop stop : Position) : Prop where
  opening : ∃ run, position.Reads run segment.position ∧ (run = [] ∨ run = ['['])
  name : segment.position.Reads segment.name nameStop
  isName : IsName segment.name
  longest : nameStop.Shuns isSegmentPart
  closing : ∃ run, nameStop.Reads run stop ∧ (run = [] ∨ run = [']'])

theorem spans_of_read {position stop : Position} {segment : Segment}
    (read : Segment.read position = some (segment, stop)) :
    ∃ nameStop, segment.Spans position nameStop stop := by
  have isName := read_isName read
  rw [Segment.read] at read
  split at read
  · cases read
  · rename_i character rest split
    split at read
    · simp only [Option.some.injEq, Prod.mk.injEq] at read
      obtain ⟨rfl, rfl⟩ := read
      refine ⟨_, Position.reads_skipChar '[' position, ?_, isName,
        Position.shuns_skipWhile isSegmentPart _, Position.reads_skipChar ']' _⟩
      exact (Position.reads_pass split).trans (Position.reads_skipWhile isSegmentPart _)
    · cases read

theorem spans_of_readDotted {position stop : Position} {segment : Segment}
    (read : Segment.readDotted position = some (segment, stop)) :
    ∃ nameStop dot, segment.Spans position nameStop dot ∧ dot.Reads ['.'] stop := by
  obtain ⟨dot, segmentRead, dotRead⟩ := read_of_readDotted read
  obtain ⟨nameStop, spans⟩ := spans_of_read segmentRead
  exact ⟨nameStop, dot, spans, Position.reads_of_readChar dotRead⟩

end Segment

/-! ## What no target begins with -/

def Target.canBegin (character : Char) : Bool :=
  isWord character || character == '[' || character == '.'

namespace Position

variable {position : Position}

theorem exists_of_not_shuns {accept : Char → Bool} (meets : ¬position.Shuns accept) :
    ∃ character rest, position.after = character :: rest ∧ accept character = true := by
  simpa [Shuns] using meets

theorem readChar_eq_none_of_ne {character expected : Char} {rest : Text}
    (split : position.after = character :: rest) (other : character ≠ expected) :
    position.readChar expected = none := by
  rw [readChar, split]
  exact if_neg other

theorem readChar_eq_none {accept : Char → Bool} {expected : Char}
    (shuns : position.Shuns accept) (held : accept expected = true) :
    position.readChar expected = none := by
  cases split : position.after with
  | nil => rw [readChar, split]
  | cons character rest =>
      apply readChar_eq_none_of_ne split
      rintro rfl
      rw [shuns character rest split] at held
      cases held

end Position

theorem Segment.read_eq_none {position : Position} (shuns : position.Shuns Target.canBegin) :
    Segment.read position = none := by
  have unopened : position.skipChar '[' = position := by
    rw [Position.skipChar, Position.readChar_eq_none shuns (by decide)]
    rfl
  rw [Segment.read, unopened]
  split
  · rfl
  · rename_i character rest after
    rw [if_neg]
    intro word
    have excluded := shuns character rest after
    rw [Target.canBegin, word] at excluded
    cases excluded

theorem Target.readCalled_eq_none {position : Position}
    (shuns : position.Shuns Target.canBegin) : Target.readCalled position = none := by
  have segment := Segment.read_eq_none shuns
  have dot : position.readChar '.' = none :=
    Position.readChar_eq_none shuns (by decide)
  simp [readCalled, readDatabaseSchemaName, readDatabaseName, readSchemaName, readDotName, readName,
    Segment.readDotted, segment, dot]

/-! ## One step of a scan -/

theorem CallMatch.scanFrom_cons (comments : Comments) (passed : Passed) (character : Char)
    (after : Text) :
    scanFrom comments 0 passed (character :: after) =
      match at? ⟨passed, character :: after⟩ with
      | none => scanFrom comments 0 (passed.add character) after
      | some found =>
          if found.isCall comments then
            found :: scanFrom comments (found.length - 1) (passed.add character) after
          else
            scanFrom comments (found.keywordLength - 1) (passed.add character) after := by
  rfl

theorem HeaderMatch.findFrom_cons (comments : Comments) (passed : Passed) (character : Char)
    (after : Text) :
    findFrom comments 0 passed (character :: after) =
      match at? ⟨passed, character :: after⟩ with
      | none => findFrom comments 0 (passed.add character) after
      | some found =>
          if comments.covers found.start.offset then
            findFrom comments (found.length - 1) (passed.add character) after
          else
            some found := by
  rfl

end ProcedureAtlas
