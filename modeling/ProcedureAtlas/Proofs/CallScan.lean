import Mathlib.Data.List.Sort
import ProcedureAtlas.Proofs.CallExpression

/-!
# What the scan finds

The scan goes on at the end of a call, and at the end of the keyword of a match that is no call. The
main statement says that nothing is lost by either: the calls of a script are the accepted matches
at all its positions, but for those that begin inside the name of a call before, and such a name
ends in a keyword behind a dash.
-/

namespace ProcedureAtlas

set_option autoImplicit false

namespace CallMatch

/-- The calls from a position on, once `skip` characters have been passed over: they are accepted
matches, they do not overlap, and every accepted match is among them or begins inside one. -/
structure Covers (comments : Comments) (here : Position) (skip : Nat)
    (sites : List CallMatch) : Prop where
  accepted : ∀ found ∈ sites, at? found.keyword = some found ∧ found.isCall comments = true
  text : ∀ found ∈ sites, found.keyword.text = here.text
  behind : ∀ found ∈ sites, here.index + skip ≤ found.keyword.index
  apart : sites.Pairwise fun earlier later => earlier.target.stop.index ≤ later.keyword.index
  complete : ∀ position found, position.text = here.text → here.index + skip ≤ position.index →
    at? position = some found → found.isCall comments = true →
      found ∈ sites ∨ ∃ earlier ∈ sites,
        earlier.keyword.index < position.index ∧ position.index < earlier.target.stop.index

namespace Covers

variable {comments : Comments} {here : Position} {skip gap : Nat} {sites : List CallMatch}
  {character : Char} {after : Text}

theorem nil (ended : here.after = []) : Covers comments here skip [] := by
  refine ⟨by simp, by simp, by simp, .nil, ?_⟩
  intro position found text lower matched
  obtain ⟨run, reads⟩ := Position.exists_reads text.symm (Nat.le_trans (Nat.le_add_right _ _) lower)
  obtain ⟨first, rest, split, -⟩ := (parts_of_at? matched).opens.first
  have whole := reads.after
  rw [ended, split] at whole
  simp at whole

/-- A stretch without accepted matches may be passed over. -/
theorem extend (split : here.after = character :: after)
    (rest : Covers comments (here.pass character after) skip sites) (order : gap ≤ skip + 1)
    (empty : ∀ position found, position.text = here.text → here.index + gap ≤ position.index →
      position.index < here.index + 1 + skip → at? position = some found →
        found.isCall comments = false) :
    Covers comments here gap sites := by
  have text : (here.pass character after).text = here.text := (Position.reads_pass split).text
  have index : (here.pass character after).index = here.index + 1 := rfl
  refine ⟨rest.accepted, ?_, ?_, rest.apart, ?_⟩
  · intro found member
    rw [rest.text found member, text]
  · intro found member
    have behind := rest.behind found member
    omega
  · intro position found same lower matched accepted
    by_cases early : position.index < here.index + 1 + skip
    · rw [empty position found same lower early matched] at accepted
      cases accepted
    · exact rest.complete position found (same.trans text.symm) (by omega) matched accepted

theorem skipped (split : here.after = character :: after)
    (rest : Covers comments (here.pass character after) skip sites) :
    Covers comments here (skip + 1) sites := by
  refine rest.extend split (Nat.le_refl _) ?_
  intro position found _ lower upper
  omega

theorem unmatched (split : here.after = character :: after) (unmatched : at? here = none)
    (rest : Covers comments (here.pass character after) 0 sites) :
    Covers comments here 0 sites := by
  refine rest.extend split (Nat.zero_le _) ?_
  intro position found text lower upper matched
  obtain rfl : position = here := Position.ext_of_index text (by omega)
  rw [unmatched] at matched
  cases matched

/-- Behind the keyword of a match that is no call the scan misses nothing: inside the keyword no
other match begins. -/
theorem rejected {found : CallMatch} (split : here.after = character :: after)
    (matched : at? here = some found) (rejected : found.isCall comments = false)
    (rest : Covers comments (here.pass character after) (found.keywordLength - 1) sites) :
    Covers comments here 0 sites := by
  have parts := parts_of_at? matched
  have order := parts.order
  have resumed : here.index + 1 + (found.keywordLength - 1) = found.keywordStop.index := by
    rw [keywordLength, parts.keyword]
    omega
  refine rest.extend split (Nat.zero_le _) ?_
  intro position other text lower upper otherMatched
  rw [resumed] at upper
  by_cases equal : position.index = here.index
  · obtain rfl : position = here := Position.ext_of_index text equal
    rw [matched] at otherMatched
    rwa [← Option.some.inj otherMatched]
  · have inside : here.index < position.index := by omega
    exact absurd (parts_of_at? otherMatched).opens (parts.closed_in_keyword text inside upper)

theorem call {found : CallMatch} (split : here.after = character :: after)
    (matched : at? here = some found) (accepted : found.isCall comments = true)
    (rest : Covers comments (here.pass character after) (found.length - 1) sites) :
    Covers comments here 0 (found :: sites) := by
  have parts := parts_of_at? matched
  have order := parts.order
  have keyword : found.keyword = here := parts.keyword
  have text : (here.pass character after).text = here.text := (Position.reads_pass split).text
  have resumed : (here.pass character after).index + (found.length - 1) =
      found.target.stop.index := by
    have index : (here.pass character after).index = here.index + 1 := rfl
    rw [length, keyword, index]
    omega
  refine ⟨?_, ?_, ?_, ?_, ?_⟩
  · refine List.forall_mem_cons.mpr ⟨?_, rest.accepted⟩
    rw [keyword]
    exact ⟨matched, accepted⟩
  · refine List.forall_mem_cons.mpr ⟨congrArg Position.text keyword, ?_⟩
    intro other later
    rw [rest.text other later, text]
  · refine List.forall_mem_cons.mpr ⟨by rw [keyword]; exact Nat.le_refl _, ?_⟩
    intro other later
    have behind := rest.behind other later
    omega
  · refine List.pairwise_cons.mpr ⟨?_, rest.apart⟩
    intro later member
    rw [← resumed]
    exact rest.behind later member
  · intro position other same lower otherMatched otherAccepted
    by_cases equal : position.index = here.index
    · obtain rfl : position = here := Position.ext_of_index same equal
      rw [matched] at otherMatched
      exact Or.inl (List.mem_cons.mpr (Or.inl (Option.some.inj otherMatched).symm))
    · by_cases inside : position.index < found.target.stop.index
      · refine Or.inr ⟨found, List.mem_cons_self, ?_, inside⟩
        rw [keyword]
        omega
      · have reached := Nat.le_of_not_lt inside
        rw [← resumed] at reached
        rcases rest.complete position other (same.trans text.symm) reached otherMatched
          otherAccepted with member | ⟨earlier, member, around⟩
        · exact Or.inl (.tail found member)
        · exact Or.inr ⟨earlier, .tail found member, around⟩

end Covers

theorem scanFrom_covers (comments : Comments) (skip : Nat) (passed : Passed) (after : Text) :
    Covers comments ⟨passed, after⟩ skip (scanFrom comments skip passed after) := by
  fun_induction scanFrom comments skip passed after with
  | case1 => exact .nil rfl
  | case2 skip passed character after ih => exact .skipped rfl ih
  | case3 passed character after unmatched ih => exact .unmatched rfl unmatched ih
  | case4 passed character after found matched accepted ih => exact .call rfl matched accepted ih
  | case5 passed character after found matched rejected ih =>
      exact .rejected rfl matched (Bool.eq_false_iff.mpr rejected) ih

/-! ## The calls of a script -/

def accepted? (comments : Comments) (position : Position) : Option CallMatch :=
  ((Expression.call.match? position).bind ofReading?).filter (isCall comments)

theorem accepted?_eq_some_iff {comments : Comments} {position : Position} {found : CallMatch} :
    accepted? comments position = some found ↔
      at? position = some found ∧ found.isCall comments = true := by
  rw [accepted?, ← at?_eq_match?, Option.filter_eq_some_iff]

/-- The calls of a script: the accepted matches at all its positions in their order, but for those
that begin inside the name of a call before. Only a name that ends in a keyword does that. -/
structure IsCallList (script : Text) (sites : List CallMatch) : Prop where
  ascends : sites.Pairwise fun earlier later => earlier.call.offset < later.call.offset
  complete : ∀ found, found ∈ sites ↔ ∃ position : Position, position.text = script ∧
    position.offset = found.call.offset ∧
    accepted? (Comments.ofText script) position = some found ∧
    ∀ earlier ∈ sites, ¬earlier.Shadows position
  shadowed : ∀ earlier ∈ sites, ∀ position : Position, position.text = script →
    (Expression.call.match? position).isSome = true → earlier.Shadows position →
      EndsInKeyword earlier.target.name.name

theorem targetsKeyword_of_isCall {comments : Comments} {found : CallMatch}
    (accepted : found.isCall comments = true) : found.targetsKeyword = false := by
  simp only [isCall, Bool.and_eq_true, Bool.not_eq_true'] at accepted
  exact accepted.1.1.1

theorem Parts.around_of_shadows {position other : Position} {earlier : CallMatch}
    (parts : earlier.Parts position) (text : other.text = position.text)
    (shadows : earlier.Shadows other) :
    position.index < other.index ∧ other.index < earlier.target.stop.index := by
  obtain ⟨_, nameStop, -, spans⟩ := parts.leads
  have order := parts.order
  have same : other.text = earlier.target.name.position.text := text.trans parts.text.symm
  have lower : earlier.target.name.position.index ≤ other.index := by
    by_contra before
    have offset := (Position.offset_lt_iff same).mpr (Nat.lt_of_not_le before)
    have start := shadows.1
    omega
  have upper : other.index < nameStop.index := by
    apply (Position.offset_lt_iff (same.trans spans.name.text.symm)).mp
    rw [spans.name.offset]
    exact shadows.2
  have length := spans.name.index
  omega

namespace Covers

variable {script : Text} {sites : List CallMatch}

theorem ascends (covers : Covers (Comments.ofText script) (.start script) 0 sites) :
    sites.Pairwise fun earlier later => earlier.call.offset < later.call.offset := by
  refine covers.apart.imp_of_mem ?_
  intro earlier later earlierMember laterMember stop
  have order := (parts_of_at? (covers.accepted earlier earlierMember).1).order
  have text : earlier.keyword.text = later.keyword.text :=
    (covers.text earlier earlierMember).trans (covers.text later laterMember).symm
  apply (Position.offset_lt_iff text).mpr
  omega

theorem not_around (covers : Covers (Comments.ofText script) (.start script) 0 sites)
    {earlier found : CallMatch} (earlierMember : earlier ∈ sites) (member : found ∈ sites) :
    ¬(earlier.keyword.index < found.keyword.index ∧
      found.keyword.index < earlier.target.stop.index) := by
  rintro ⟨lower, upper⟩
  have order := (parts_of_at? (covers.accepted found member).1).order
  obtain ⟨i, iBound, rfl⟩ := List.getElem_of_mem earlierMember
  obtain ⟨j, jBound, rfl⟩ := List.getElem_of_mem member
  have apart := List.pairwise_iff_getElem.mp covers.apart
  rcases Nat.lt_trichotomy i j with before | rfl | behind
  · have stop := apart i j iBound jBound before
    omega
  · omega
  · have stop := apart j i jBound iBound behind
    omega

theorem isCallList (covers : Covers (Comments.ofText script) (.start script) 0 sites) :
    IsCallList script sites := by
  refine ⟨covers.ascends, ?_, ?_⟩
  · intro found
    constructor
    · intro member
      obtain ⟨matched, accepted⟩ := covers.accepted found member
      refine ⟨found.keyword, covers.text found member, rfl,
        accepted?_eq_some_iff.mpr ⟨matched, accepted⟩, ?_⟩
      intro earlier earlierMember shadows
      have parts := parts_of_at? (covers.accepted earlier earlierMember).1
      have text : found.keyword.text = earlier.keyword.text :=
        (covers.text found member).trans (covers.text earlier earlierMember).symm
      exact covers.not_around earlierMember member (parts.around_of_shadows text shadows)
    · rintro ⟨position, text, -, given, free⟩
      obtain ⟨matched, accepted⟩ := accepted?_eq_some_iff.mp given
      rcases covers.complete position found text (Nat.zero_le _) matched accepted with
        member | ⟨earlier, member, lower, upper⟩
      · exact member
      · obtain ⟨earlierMatched, earlierAccepted⟩ := covers.accepted earlier member
        have proper := targetsKeyword_of_isCall earlierAccepted
        have same : position.text = earlier.keyword.text :=
          text.trans (covers.text earlier member).symm
        have shadows := (parts_of_at? earlierMatched).shadows proper (parts_of_at? matched).opens
          same lower upper
        exact absurd shadows.1 (free earlier member)
  · intro earlier member position text matched shadows
    obtain ⟨reading, given⟩ := Option.isSome_iff_exists.mp matched
    obtain ⟨found, here⟩ := exists_at?_of_match? given
    obtain ⟨earlierMatched, earlierAccepted⟩ := covers.accepted earlier member
    have parts := parts_of_at? earlierMatched
    have same : position.text = earlier.keyword.text :=
      text.trans (covers.text earlier member).symm
    have around := parts.around_of_shadows same shadows
    exact (parts.shadows (targetsKeyword_of_isCall earlierAccepted) (parts_of_at? here).opens same
      around.1 around.2).2

end Covers

namespace IsCallList

variable {script : Text} {left right : List CallMatch}

theorem offset_lt_of_shadows (list : IsCallList script left) {earlier : CallMatch}
    (member : earlier ∈ left) {position : Position} (shadows : earlier.Shadows position) :
    earlier.call.offset < position.offset := by
  obtain ⟨start, -, offset, given, -⟩ := (list.complete earlier).mp member
  have parts := parts_of_at? (accepted?_eq_some_iff.mp given).1
  have order := parts.order
  have before : start.offset < earlier.target.name.position.offset := by
    apply (Position.offset_lt_iff parts.text.symm).mpr
    omega
  have inside := shadows.1
  omega

/-- Whether a match is listed depends on the calls before it alone. -/
theorem mem_of_mem (first : IsCallList script left) (second : IsCallList script right)
    {found : CallMatch} (member : found ∈ left)
    (agree : ∀ earlier, earlier.call.offset < found.call.offset → earlier ∈ right →
      earlier ∈ left) :
    found ∈ right := by
  obtain ⟨position, text, offset, given, free⟩ := (first.complete found).mp member
  refine (second.complete found).mpr ⟨position, text, offset, given, ?_⟩
  intro earlier earlierMember shadows
  have before := second.offset_lt_of_shadows earlierMember shadows
  rw [offset] at before
  exact free earlier (agree earlier before earlierMember) shadows

theorem unique (first : IsCallList script left) (second : IsCallList script right) :
    left = right := by
  have agree (bound : Nat) : ∀ found : CallMatch, found.call.offset < bound →
      (found ∈ left ↔ found ∈ right) := by
    induction bound with
    | zero => exact fun _ below => absurd below (Nat.not_lt_zero _)
    | succ bound ih =>
        intro found below
        constructor
        · intro member
          exact first.mem_of_mem second member fun earlier before =>
            (ih earlier (by omega)).mpr
        · intro member
          exact second.mem_of_mem first member fun earlier before =>
            (ih earlier (by omega)).mp
  have irreflexive : Std.Irrefl fun earlier later : CallMatch =>
      earlier.call.offset < later.call.offset := ⟨fun _ => Nat.lt_irrefl _⟩
  have antisymmetric : Std.Antisymm fun earlier later : CallMatch =>
      earlier.call.offset < later.call.offset :=
    ⟨fun _ _ before behind => absurd behind (Nat.lt_asymm before)⟩
  exact first.ascends.eq_of_mem_iff second.ascends fun found =>
    agree (found.call.offset + 1) found (Nat.lt_succ_self _)

end IsCallList

theorem calls_are_the_accepted_matches (script : Text) :
    (∀ sites, IsCallList script sites ↔ sites = scan script) ∧
      Call.ofScript script = (scan script).map call := by
  have covers : Covers (Comments.ofText script) (.start script) 0 (scan script) :=
    scanFrom_covers (Comments.ofText script) 0 .nothing script
  refine ⟨?_, rfl⟩
  intro sites
  constructor
  · intro list
    exact list.unique covers.isCallList
  · rintro rfl
    exact covers.isCallList

-- The second keyword is a match of its own, but it belongs to the name of the first call.
example : (Call.ofScript "exec a-EXEC b exec c".toList).map Call.offset = [0, 14] := by
  decide +kernel

end CallMatch

end ProcedureAtlas
