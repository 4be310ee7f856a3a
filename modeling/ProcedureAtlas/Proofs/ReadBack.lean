import Mathlib.Data.List.Chain
import ProcedureAtlas.Proofs.Cycles

/-!
# Reading a printed tree back

A line is its padding, a displayed name and perhaps the marker, with nothing between them. It can be
taken apart all the same: a displayed name begins with a bracket, which the padding does not, and is
read like a name in a script, so what stands behind it is the marker or nothing.

The depths of the lines give the places of their events. The line behind another one is the first
below it, or stands beside it or beside one of those above it. The tree follows: two trees that print
the same lines have the same names and the same marks at the same places.
-/

namespace ProcedureAtlas

set_option autoImplicit false

variable {catalog : Catalog}

structure TreeLine where
  depth : Nat
  identity : Identity
  isCycle : Bool
deriving DecidableEq, Repr

/-- The padding can be told from a displayed name, and a marked line from a plain one. -/
structure Style.IsReadable (style : Style) : Prop where
  padded : style.padding ≠ []
  apart : style.padding.head? ≠ some '['
  marked : style.cycleMarker ≠ []

theorem Style.isReadable_default : Style.IsReadable {} := by
  constructor <;> decide

/-! ## Lines -/

namespace TreeLine

/-- How often the padding stands in front of a line, and what follows it. -/
def readDepth (padding line : Text) : Nat × Text :=
  if _ : padding ≠ [] ∧ padding.isPrefixOf line then
    ((readDepth padding (line.drop padding.length)).1 + 1,
      (readDepth padding (line.drop padding.length)).2)
  else
    (0, line)
termination_by line.length
decreasing_by
  all_goals
    rename_i found
    obtain ⟨rest, rfl⟩ := List.isPrefixOf_iff_prefix.mp found.2
    have positive := List.length_pos_of_ne_nil found.1
    rw [List.drop_left, List.length_append]
    omega

/-- Takes a line apart. What stands behind the name is the marker or nothing. -/
def read? (style : Style) (line : Text) : Option TreeLine := do
  let target ← Target.readSchemaName (.start (readDepth style.padding line).2)
  let schema ← target.schema
  if target.stop.after = [] then
    some ⟨(readDepth style.padding line).1, ⟨schema.name, target.name.name⟩, false⟩
  else if target.stop.after = style.cycleMarker then
    some ⟨(readDepth style.padding line).1, ⟨schema.name, target.name.name⟩, true⟩
  else
    none

theorem readDepth_eq {padding rest : Text} (padded : padding ≠ [])
    (apart : padding.isPrefixOf rest = false) (depth : Nat) :
    readDepth padding ((List.replicate depth padding).flatten ++ rest) = (depth, rest) := by
  induction depth with
  | zero =>
      rw [List.replicate_zero, List.flatten_nil, List.nil_append, readDepth, dif_neg]
      rw [apart]
      exact fun both => Bool.false_ne_true both.2
  | succ depth ih =>
      have split : (List.replicate (depth + 1) padding).flatten ++ rest =
          padding ++ ((List.replicate depth padding).flatten ++ rest) := by
        rw [List.replicate_succ, List.flatten_cons, List.append_assoc]
      have found : padding ≠ [] ∧
          padding.isPrefixOf (padding ++ ((List.replicate depth padding).flatten ++ rest)) :=
        ⟨padded, List.isPrefixOf_iff_prefix.mpr (List.prefix_append _ _)⟩
      rw [split, readDepth, dif_pos found, List.drop_left, ih]

/-- A displayed name is read like a schema and a name in a script. -/
theorem exists_readSchemaName {identity : Identity} (schemaWritten : IsName identity.schema)
    (nameWritten : IsName identity.name) (rest : Text) :
    ∃ target schema, Target.readSchemaName (.start (identity.display ++ rest)) = some target ∧
      target.schema = some schema ∧ schema.name = identity.schema ∧
      target.name.name = identity.name ∧ target.stop.after = rest := by
  let pieces := [bracket identity.schema, ['.'], bracket identity.name, rest]
  have whole : identity.display ++ rest = pieces.flatten := by
    unfold Identity.display Identifier.qualified
    rw [schemaWritten.bracketed_eq, nameWritten.bracketed_eq]
    simp [pieces, bracket]
  obtain ⟨schemaStart, nameStart, read⟩ := Target.exists_readSchemaName
    (.bracketed schemaWritten) (.bracketed nameWritten)
    (Position.reads_place (show pieces[0]? = _ from rfl))
    (Position.reads_place (show pieces[1]? = _ from rfl))
    (Position.reads_place (show pieces[2]? = _ from rfl)) (WrittenName.ended_of_bracketed _)
  rw [Position.place_zero, ← whole] at read
  refine ⟨_, _, read, rfl, rfl, rfl, ?_⟩
  change [rest].flatten = rest
  exact List.flatten_singleton

theorem read?_line {style : Style} (readable : style.IsReadable) {identity : Identity}
    (schemaWritten : IsName identity.schema) (nameWritten : IsName identity.name) (depth : Nat)
    (isCycle : Bool) :
    read? style (style.line depth identity.display isCycle) = some ⟨depth, identity, isCycle⟩ := by
  obtain ⟨tail, marker⟩ : ∃ tail, tail = if isCycle then style.cycleMarker else [] := ⟨_, rfl⟩
  have apart : style.padding.isPrefixOf (identity.display ++ tail) = false := by
    obtain ⟨first, others, split⟩ := List.exists_cons_of_ne_nil readable.padded
    have other : first ≠ '[' := by
      intro same
      apply readable.apart
      rw [split, same]
      rfl
    unfold Identity.display Identifier.qualified
    rw [schemaWritten.bracketed_eq, split]
    exact Bool.and_eq_false_imp.mpr fun same => absurd (eq_of_beq same) other
  have counted : readDepth style.padding (style.line depth identity.display isCycle) =
      (depth, identity.display ++ tail) := by
    rw [Style.line, List.append_assoc, ← marker]
    exact readDepth_eq readable.padded apart depth
  obtain ⟨target, schema, read, given, schemaSame, nameSame, rest⟩ :=
    exists_readSchemaName schemaWritten nameWritten tail
  unfold read?
  simp only [counted, read, given, schemaSame, nameSame, rest, Option.bind_eq_bind,
    Option.bind_some]
  cases isCycle with
  | false => exact if_pos marker
  | true =>
      have marked : tail = style.cycleMarker := marker
      rw [if_neg (marked ▸ readable.marked), if_pos marked]

end TreeLine

def Event.told (event : Event catalog) : TreeLine :=
  ⟨event.depth, (catalog.record event.entry).identity, event.isCycle⟩

theorem TreeLine.read?_event {style : Style} (readable : style.IsReadable)
    (event : Event catalog) : read? style (event.line style) = some event.told := by
  obtain ⟨schemaWritten, nameWritten⟩ := (catalog.record event.entry).isName_identity
  exact read?_line readable schemaWritten nameWritten event.depth event.isCycle

/-! ## Places -/

/-- The place at a depth behind a place: the first one below it, or the next one beside it or beside
a place above it. -/
def nextPlace : List Nat → Nat → List Nat
  | _, 0 => []
  | [], _ + 1 => [0]
  | index :: _, 1 => [index + 1]
  | index :: indices, depth + 2 => index :: nextPlace indices (depth + 1)

def placesBehind : List Nat → List Nat → List (List Nat)
  | _, [] => []
  | place, depth :: depths => nextPlace place depth :: placesBehind (nextPlace place depth) depths

def placesOf : List Nat → List (List Nat)
  | [] => []
  | _ :: depths => [] :: placesBehind [] depths

theorem nextPlace_cons {index : Nat} {place : List Nat} (inner : place ≠ []) (before : List Nat) :
    nextPlace (index :: before) (index :: place).length = index :: nextPlace before place.length := by
  obtain ⟨first, rest, rfl⟩ := List.exists_cons_of_ne_nil inner
  rfl

namespace Catalog

/-- One item of an outline stands directly behind another. -/
structure Succeeds (before item : List Nat × Event catalog) : Prop where
  below : item.1 ≠ []
  next : item.1 = nextPlace before.1 item.1.length
  depth : item.1.length ≤ if before.2.isCycle then before.1.length else before.1.length + 1

theorem Succeeds.deeper {before item : List Nat × Event catalog} (succeeds : Succeeds before item)
    (index : Nat) : Succeeds (index :: before.1, before.2) (index :: item.1, item.2) := by
  refine ⟨List.cons_ne_nil _ _, ?_, ?_⟩
  · rw [nextPlace_cons succeeds.below, ← succeeds.next]
  · have bound := succeeds.depth
    change item.1.length + 1 ≤
      if before.2.isCycle then before.1.length + 1 else before.1.length + 1 + 1
    split at bound <;> simp_all

/-- The next target stands behind everything below the one before it. -/
theorem succeeds_target (index : Nat) (place : List Nat) (event other : Event catalog) :
    Succeeds (index :: place, event) ([index + 1], other) := by
  refine ⟨List.cons_ne_nil _ _, rfl, ?_⟩
  change 1 ≤ if event.isCycle then place.length + 1 else place.length + 1 + 1
  split <;> omega

section Graft

variable {below : catalog.Entry → List (List Nat × Event catalog)}

theorem exists_graft_cons {index : Nat} {target : catalog.Entry} {targets : List catalog.Entry}
    (begins : ∃ event items, below target = ([], event) :: items) :
    ∃ event items, graft below index (target :: targets) = ([index], event) :: items := by
  obtain ⟨event, items, split⟩ := begins
  exact ⟨event, _, by rw [graft, split, List.map_cons, List.cons_append]⟩

/-- Outlines of the targets in a row make a row, one index after the other. -/
theorem graft_succeeds
    (begins : ∀ target, ∃ event items, below target = ([], event) :: items)
    (each : ∀ target, (below target).IsChain Succeeds) (index : Nat)
    (targets : List catalog.Entry) : (graft below index targets).IsChain Succeeds := by
  induction targets generalizing index with
  | nil => exact List.isChain_nil
  | cons target targets ih =>
      rw [graft, List.isChain_append]
      refine ⟨?_, ih (index + 1), ?_⟩
      · rw [List.isChain_map]
        exact (each target).imp fun before item succeeds => succeeds.deeper index
      · intro last ends first follows
        obtain ⟨⟨place, event⟩, -, rfl⟩ := List.mem_map.mp (List.mem_of_getLast? ends)
        cases targets with
        | nil => cases follows
        | cons next targets =>
            obtain ⟨other, items, split⟩ := exists_graft_cons (begins next)
            rw [split] at follows
            obtain rfl := Option.some.inj follows
            exact succeeds_target index place event other

end Graft

/-- What an outline holds for one target of an entry that stands at `depth`. -/
def targetOutline (depth : Nat) (path : List Text) (target : catalog.Entry) :
    List (List Nat × Event catalog) :=
  if path.contains (catalog.display target) then
    [([], ⟨depth + 1, target, true⟩)]
  else
    catalog.outline (depth + 1) (catalog.display target :: path) target

theorem outline_eq (depth : Nat) (path : List Text) (entry : catalog.Entry) :
    catalog.outline depth path entry =
      ([], ⟨depth, entry, false⟩) :: graft (targetOutline depth path) 0 (catalog.targets entry) := by
  rw [outline]
  rfl

theorem exists_targetOutline_cons (depth : Nat) (path : List Text) (target : catalog.Entry) :
    ∃ event items, targetOutline depth path target = ([], event) :: items := by
  rw [targetOutline]
  split
  · exact ⟨_, _, rfl⟩
  · exact ⟨_, _, outline_eq _ _ _⟩

theorem outline_succeeds (depth : Nat) (path : List Text) (entry : catalog.Entry) :
    (catalog.outline depth path entry).IsChain Succeeds := by
  generalize bound : catalog.remaining path = remaining
  induction remaining using Nat.strong_induction_on generalizing depth path entry with
  | _ remaining ih =>
      have each (target : catalog.Entry) : (targetOutline depth path target).IsChain Succeeds := by
        rw [targetOutline]
        split
        · exact List.isChain_singleton _
        · rename_i fresh
          refine ih _ ?_ (depth + 1) _ target rfl
          rw [← bound]
          exact remaining_cons_lt catalog path target (by simpa using fresh)
      have begins (target : catalog.Entry) := exists_targetOutline_cons depth path target
      have chain := graft_succeeds begins each 0 (catalog.targets entry)
      rw [outline_eq]
      cases targets : catalog.targets entry with
      | nil => exact List.isChain_singleton _
      | cons target others =>
          rw [targets] at chain
          obtain ⟨event, items, split⟩ := exists_graft_cons (begins target)
          rw [split] at chain ⊢
          exact List.isChain_cons_cons.mpr ⟨⟨List.cons_ne_nil _ _, rfl, Nat.le_refl _⟩, chain⟩

theorem depth_of_mem_outline {start : catalog.Entry} {place : List Nat} {event : Event catalog}
    (member : (place, event) ∈ catalog.outline 0 [] start) : event.depth = place.length := by
  cases listed_iff_shown.mpr (mem_outline.mp member) with
  | start => rfl
  | plain => rfl
  | cycle => rfl

theorem placesBehind_eq {before : List Nat × Event catalog} {items : List (List Nat × Event catalog)}
    (chain : (before :: items).IsChain Succeeds) :
    placesBehind before.1 (items.map fun item => item.1.length) = items.map Prod.fst := by
  induction items generalizing before with
  | nil => rfl
  | cons item items ih =>
      obtain ⟨succeeds, rest⟩ := List.isChain_cons_cons.mp chain
      rw [List.map_cons, List.map_cons, placesBehind, ← succeeds.next, ih rest]

end Catalog

/-! ## Trees -/

/-- The indentation of a tree. Its first line is plain and not indented; each other line is, by at
most one level more than the line before it, and by no more than that line if it is marked. -/
structure IsIndented (lines : List TreeLine) : Prop where
  first : ∃ first others, lines = first :: others ∧ first.depth = 0 ∧ first.isCycle = false ∧
    ∀ line ∈ others, 1 ≤ line.depth
  steps : lines.IsChain fun before line =>
    line.depth ≤ if before.isCycle then before.depth else before.depth + 1

/-- The nodes of a tree: what is told at each place. A place is the place of its parent and one
index more, and siblings are ordered by that index. -/
def treeNodes (places : List (List Nat × Event catalog)) : List (List Nat × TreeLine) :=
  places.map fun place => (place.1, place.2.told)

def readTree? (style : Style) (lines : List Text) : Option (List (List Nat × TreeLine)) := do
  let told ← lines.mapM (TreeLine.read? style)
  some ((placesOf (told.map TreeLine.depth)).zip told)

theorem outline_isIndented (start : catalog.Entry) :
    IsIndented ((catalog.outline 0 [] start).map fun place => place.2.told) := by
  have chain := Catalog.outline_succeeds 0 [] start
  have depths : ∀ item ∈ catalog.outline 0 [] start, item.2.depth = item.1.length :=
    fun item member => Catalog.depth_of_mem_outline member
  constructor
  · have ascends := Catalog.outline_ascends 0 [] start
    rw [Catalog.outline_eq] at depths ascends ⊢
    refine ⟨_, _, List.map_cons, rfl, rfl, ?_⟩
    rw [List.map_cons, List.pairwise_cons] at ascends
    intro line member
    obtain ⟨item, inside, rfl⟩ := List.mem_map.mp member
    have behind : [] < item.1 := ascends.1 _ (List.mem_map_of_mem inside)
    change 1 ≤ item.2.depth
    rw [depths item (List.mem_cons_of_mem _ inside)]
    refine List.length_pos_of_ne_nil fun empty => ?_
    rw [empty] at behind
    exact List.lt_irrefl _ behind
  · rw [List.isChain_map]
    refine chain.imp_of_mem_imp fun before item beforeMember itemMember succeeds => ?_
    change item.2.depth ≤ if before.2.isCycle then before.2.depth else before.2.depth + 1
    rw [depths before beforeMember, depths item itemMember]
    exact succeeds.depth

theorem placesOf_outline (start : catalog.Entry) :
    placesOf ((catalog.outline 0 [] start).map fun place => place.2.told.depth) =
      (catalog.outline 0 [] start).map Prod.fst := by
  have chain := Catalog.outline_succeeds 0 [] start
  have depths : ((catalog.outline 0 [] start).map fun place => place.2.told.depth) =
      (catalog.outline 0 [] start).map fun place => place.1.length :=
    List.map_inj_left.mpr fun place member => Catalog.depth_of_mem_outline member
  rw [depths]
  rw [Catalog.outline_eq] at chain ⊢
  rw [List.map_cons, List.map_cons, placesOf, Catalog.placesBehind_eq chain]

theorem mapM_read?_lines {style : Style} (readable : style.IsReadable)
    (places : List (List Nat × Event catalog)) :
    (places.map fun place => place.2.line style).mapM (TreeLine.read? style) =
      some (places.map fun place => place.2.told) := by
  have each : TreeLine.read? style ∘ (fun place : List Nat × Event catalog => place.2.line style) =
      fun place => pure place.2.told :=
    funext fun place => TreeLine.read?_event readable place.2
  rw [List.mapM_map, each, List.mapM_pure]
  rfl

theorem readTree?_outline {style : Style} (readable : style.IsReadable) (start : catalog.Entry) :
    readTree? style ((catalog.outline 0 [] start).map fun place => place.2.line style) =
      some (treeNodes (catalog.outline 0 [] start)) := by
  rw [readTree?, mapM_read?_lines readable]
  change some ((placesOf _).zip _) = _
  rw [List.map_map]
  change some ((placesOf ((catalog.outline 0 [] start).map fun place => place.2.told.depth)).zip _) =
    _
  rw [placesOf_outline, List.zip_map']
  rfl

namespace Printer

/-- A printer with this style prints these lines for the tree below `start`, and does not fail. -/
def Prints (style : Style) (catalog : Catalog) (start : catalog.Entry) (lines : List Text) : Prop :=
  ∃ (printer : Printer) (count : Nat), printer.style = style ∧
    (printer.print catalog start).2 = .ok count ∧
    (printer.print catalog start).1.printed = printer.printed ++ lines

theorem lines_of_prints {style : Style} {start : catalog.Entry} {lines : List Text}
    (prints : Prints style catalog start lines) :
    lines = (catalog.outline 0 [] start).map fun place => place.2.line style := by
  obtain ⟨printer, count, rfl, success, printed⟩ := prints
  rw [print_lines, Walk.lines, Catalog.events_of_finished (finished_of_print success),
    List.map_map] at printed
  exact (List.append_cancel_left printed).symm

/-- A printed tree can be read back. Each line tells its depth, its name and whether it is marked,
and the lines are indented like a tree. The tree is read off its lines, so two trees that print the
same lines have the same nodes. -/
theorem printed_tree_reads_back (style : Style) (readable : style.IsReadable) :
    (∀ (catalog : Catalog) (start : catalog.Entry) (lines : List Text),
      Prints style catalog start lines →
      ∃ places, catalog.IsOutline start places ∧
        lines = places.map (fun place => place.2.line style) ∧
        lines.map (TreeLine.read? style) = places.map (fun place => some place.2.told) ∧
        IsIndented (places.map fun place => place.2.told) ∧
        readTree? style lines = some (treeNodes places)) ∧
    ∀ (catalog other : Catalog) (start : catalog.Entry) (otherStart : other.Entry)
      (lines : List Text), Prints style catalog start lines → Prints style other otherStart lines →
      ∃ places otherPlaces, catalog.IsOutline start places ∧
        other.IsOutline otherStart otherPlaces ∧ treeNodes places = treeNodes otherPlaces := by
  constructor
  · intro catalog start lines prints
    obtain rfl := lines_of_prints prints
    refine ⟨_, Catalog.outline_isOutline start, rfl, ?_, outline_isIndented start,
      readTree?_outline readable start⟩
    rw [List.map_map]
    exact List.map_congr_left fun place _ => TreeLine.read?_event readable place.2
  · intro catalog other start otherStart lines prints otherPrints
    refine ⟨_, _, Catalog.outline_isOutline start, Catalog.outline_isOutline otherStart, ?_⟩
    apply Option.some.inj
    rw [← readTree?_outline readable, ← readTree?_outline readable, ← lines_of_prints prints,
      ← lines_of_prints otherPrints]

/-- Two procedures that call each other, printed in the default style and read back. -/
theorem circle_reads_back :
    ∃ (catalog : Catalog) (start : catalog.Entry) (lines : List Text)
      (places : List (List Nat × Event catalog)),
      Catalog.ofSources .strict [callerSource ['p'] ⟨['s'], ['x']⟩ ⟨['s'], ['y']⟩,
        callerSource ['q'] ⟨['s'], ['y']⟩ ⟨['s'], ['x']⟩] = .ok catalog ∧
      Style.IsReadable {} ∧ Prints {} catalog start lines ∧ catalog.IsOutline start places ∧
      IsIndented (places.map fun place => place.2.told) ∧
      readTree? {} lines = some (treeNodes places) := by
  obtain ⟨circle, start, -, built, -, -, success⟩ := exists_printed_circle
  have prints : Prints {} circle start ((circle.walk start).lines {}) :=
    ⟨⟨{}, [], 0⟩, _, rfl, success _, print_lines _ start⟩
  obtain ⟨reads, -⟩ := printed_tree_reads_back {} Style.isReadable_default
  obtain ⟨places, outline, -, -, indented, read⟩ := reads circle start _ prints
  exact ⟨circle, start, _, places, built, Style.isReadable_default, prints, outline, indented, read⟩

end Printer

end ProcedureAtlas
