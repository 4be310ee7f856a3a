import Mathlib.Data.List.Forall2
import ProcedureAtlas.Proofs.Mapping

/-!
# Twin catalogs

Two catalogs can be compared without being equal. A pairing of their entries mirrors them when the
edges of paired entries are paired in turn, one by one, and when a name is met again on the one side
exactly when it is on the other. Then their walks run in step: paired starts give events at the same
depths with the same marks, for paired entries, and both walks fail at the same event or not at all.

Which failures count as the same is left to the comparison.
-/

namespace ProcedureAtlas

set_option autoImplicit false

/-- Two computations end alike: both fail or both give a value. -/
inductive Agree {Failure Left Right : Type} (failures : Failure → Failure → Prop)
    (values : Left → Right → Prop) : Except Failure Left → Except Failure Right → Prop
  | error {first second : Failure} (failed : failures first second) :
      Agree failures values (.error first) (.error second)
  | ok {first : Left} {second : Right} (given : values first second) :
      Agree failures values (.ok first) (.ok second)

theorem Agree.bind {Failure Left Right Further Beyond : Type}
    {failures : Failure → Failure → Prop} {values : Left → Right → Prop}
    {results : Further → Beyond → Prop} {first : Except Failure Left}
    {second : Except Failure Right} {next : Left → Except Failure Further}
    {following : Right → Except Failure Beyond} (agree : Agree failures values first second)
    (later : ∀ value other, values value other →
      Agree failures results (next value) (following other)) :
    Agree failures results (first >>= next) (second >>= following) := by
  cases agree with
  | error failed => exact .error failed
  | ok given => exact later _ _ given

theorem Agree.refl {Failure Value : Type} {failures : Failure → Failure → Prop}
    (reflexive : ∀ failure, failures failure failure) (ending : Except Failure Value) :
    Agree failures Eq ending ending := by
  cases ending with
  | error failure => exact .error (reflexive failure)
  | ok value => exact .ok rfl

theorem Agree.eq {Failure Value : Type} {first second : Except Failure Value}
    (agree : Agree Eq Eq first second) : first = second := by
  cases agree with
  | error failed => rw [failed]
  | ok given => rw [given]

theorem Agree.of_map {Failure Left Right Shown : Type} {failures : Failure → Failure → Prop}
    {values : Left → Right → Prop} {view : Left → Shown} {otherView : Right → Shown}
    {first : Except Failure Left} {second : Except Failure Right}
    (agree : Agree failures Eq (first.map view) (second.map otherView))
    (same : ∀ value other, view value = otherView other → values value other) :
    Agree failures values first second := by
  cases first with
  | error failure =>
      cases second with
      | error other =>
          cases agree with
          | error failed => exact .error failed
      | ok value => cases agree
  | ok value =>
      cases second with
      | error failure => cases agree
      | ok other =>
          cases agree with
          | ok given => exact .ok (same value other given)

variable {left right : Catalog}

/-- The edges of references that have identities agree where their lookups do. -/
theorem Catalog.edgesOf_agree {failures : CatalogFailure → CatalogFailure → Prop}
    {twin : left.Entry → right.Entry → Prop} (label : Text) {references others : List Reference}
    (lookups : List.Forall₂ (fun reference other => ∃ identity counterpart,
      reference.identity = .ok identity ∧ other.identity = .ok counterpart ∧
        Agree failures (Option.Rel twin) (left.lookupIdentity identity)
          (right.lookupIdentity counterpart)) references others) :
    Agree failures (List.Forall₂ twin) (left.edgesOf label references)
      (right.edgesOf label others) := by
  induction lookups with
  | nil => exact .ok .nil
  | cons first lookups ih =>
      rcases first with ⟨identity, counterpart, made, alsoMade, answers⟩
      unfold edgesOf
      rw [made, alsoMade]
      apply answers.bind
      intro target other targets
      apply ih.bind
      intro later further rest
      apply Agree.ok
      cases targets with
      | none => exact rest
      | some paired => exact .cons paired rest

/-- A pairing of entries that two walks cannot tell apart. -/
structure Catalog.Mirrors (left right : Catalog) (failures : CatalogFailure → CatalogFailure → Prop)
    (twin : left.Entry → right.Entry → Prop) : Prop where
  edges : ∀ {first second}, twin first second →
    Agree failures (List.Forall₂ twin) (left.edges first) (right.edges second)
  names : ∀ {first second other another}, twin first second → twin other another →
    (left.display first = left.display other ↔ right.display second = right.display another)

/-- Events at the same depth and with the same mark, for paired entries. -/
structure Event.Twin (twin : left.Entry → right.Entry → Prop) (first : Event left)
    (second : Event right) : Prop where
  depth : first.depth = second.depth
  entry : twin first.entry second.entry
  isCycle : first.isCycle = second.isCycle

/-- Walks that run in step and fail together. -/
structure Walk.Twin (failures : CatalogFailure → CatalogFailure → Prop)
    (twin : left.Entry → right.Entry → Prop) (first : Walk left) (second : Walk right) : Prop where
  events : List.Forall₂ (Event.Twin twin) first.events second.events
  failure : Option.Rel failures first.failure second.failure

section Mirrors

variable {failures : CatalogFailure → CatalogFailure → Prop}
  {twin : left.Entry → right.Entry → Prop} (mirrors : left.Mirrors right failures twin)

include mirrors

/-! ## Outlines -/

theorem Catalog.Mirrors.targets {first : left.Entry} {second : right.Entry}
    (paired : twin first second) :
    List.Forall₂ twin (left.targets first) (right.targets second) := by
  have edges := mirrors.edges paired
  unfold Catalog.targets
  generalize left.edges first = told at edges ⊢
  generalize right.edges second = known at edges ⊢
  cases edges with
  | error failed => exact List.Forall₂.nil
  | ok given => exact given

theorem Catalog.Mirrors.contains_eq {first : left.Entry} {second : right.Entry}
    (paired : twin first second) {route : List left.Entry} {path : List right.Entry}
    (routes : List.Forall₂ twin route path) :
    (left.names route).contains (left.display first) =
      (right.names path).contains (right.display second) := by
  induction routes with
  | nil => rfl
  | cons ancestors routes ih =>
      have same := mirrors.names paired ancestors
      simp only [Catalog.names, List.map_cons, List.contains_cons] at ih ⊢
      rw [ih, Bool.beq_eq_decide_eq, Bool.beq_eq_decide_eq, decide_eq_decide.mpr same]

theorem Catalog.Mirrors.outline {first : left.Entry} {second : right.Entry}
    (paired : twin first second) (depth : Nat) {route : List left.Entry}
    {path : List right.Entry} (routes : List.Forall₂ twin route path) :
    List.Forall₂ (Event.Twin twin)
      ((left.outline depth (left.names route) first).map Prod.snd)
      ((right.outline depth (right.names path) second).map Prod.snd) := by
  -- Each step down leaves fewer records whose name is not on the left path.
  generalize bound : left.remaining (left.names route) = remaining
  induction remaining using Nat.strong_induction_on generalizing depth route path first second with
  | _ remaining ih =>
      rw [Catalog.outline_events, Catalog.outline_events]
      apply List.Forall₂.cons
      · exact ⟨rfl, paired, rfl⟩
      · apply List.rel_flatMap (mirrors.targets paired)
        intro target counterpart below
        unfold Catalog.targetEvents
        rw [mirrors.contains_eq below routes]
        split
        · exact List.Forall₂.cons ⟨rfl, below, rfl⟩ List.Forall₂.nil
        · rename_i fresh
          rw [← mirrors.contains_eq below routes, Bool.not_eq_true] at fresh
          have fewer := left.remaining_cons_lt (left.names route) target fresh
          rw [bound] at fewer
          exact ih _ fewer below (depth + 1) (List.Forall₂.cons below routes) rfl

/-! ## Walks -/

theorem Catalog.Mirrors.obstacle {first : Event left} {second : Event right}
    (same : Event.Twin twin first second) :
    Option.Rel failures first.obstacle second.obstacle := by
  have edges := mirrors.edges same.entry
  unfold Event.obstacle
  rw [same.isCycle]
  cases second.isCycle with
  | true => exact Option.Rel.none
  | false =>
      generalize left.edges first.entry = told at edges ⊢
      generalize right.edges second.entry = known at edges ⊢
      cases edges with
      | error failed => exact Option.Rel.some failed
      | ok given => exact Option.Rel.none

theorem Catalog.Mirrors.play {first : List (Event left)} {second : List (Event right)}
    (same : List.Forall₂ (Event.Twin twin) first second) :
    Walk.Twin failures twin (Walk.play first) (Walk.play second) := by
  induction same with
  | nil => exact ⟨List.Forall₂.nil, Option.Rel.none⟩
  | @cons earlier other _ _ event events ih =>
      have obstacle := mirrors.obstacle event
      unfold Walk.play
      generalize earlier.obstacle = met at obstacle ⊢
      generalize other.obstacle = also at obstacle ⊢
      cases obstacle with
      | none => exact ⟨List.Forall₂.cons event ih.events, ih.failure⟩
      | some failed =>
          exact ⟨List.Forall₂.cons event List.Forall₂.nil, Option.Rel.some failed⟩

theorem Catalog.Mirrors.walk {first : left.Entry} {second : right.Entry}
    (paired : twin first second) :
    Walk.Twin failures twin (left.walk first) (right.walk second) := by
  rw [Catalog.walk_eq_play, Catalog.walk_eq_play]
  exact mirrors.play (mirrors.outline paired 0 List.Forall₂.nil)

end Mirrors

/-! ## Mappings -/

/-- The events behind the lines of a mapping. -/
def Catalog.mapEvents (catalog : Catalog) (schema name : Text) : List (Event catalog) :=
  match catalog.lookup name schema with
  | .ok (some start) => (catalog.walk start).events
  | _ => []

theorem Catalog.map_lines (catalog : Catalog) (style : Style) (schema name : Text) :
    (catalog.map style schema name).lines =
      (catalog.mapEvents schema name).map (Event.line style) := by
  unfold mapEvents
  cases found : catalog.lookup name schema with
  | error failure =>
      unfold Catalog.map
      rw [found]
      rfl
  | ok answer =>
      cases answer with
      | none =>
          unfold Catalog.map
          rw [found]
          rfl
      | some start =>
          rw [map_of_candidate (candidates_of_lookup found)]
          rfl

/-- Mappings whose lookups agree print in step and end alike. -/
theorem Catalog.Mirrors.map {failures : CatalogFailure → CatalogFailure → Prop}
    {twin : left.Entry → right.Entry → Prop} (mirrors : left.Mirrors right failures twin)
    {schema name otherSchema otherName : Text}
    (lookups : Agree failures (Option.Rel twin) (left.lookup name schema)
      (right.lookup otherName otherSchema)) (style : Style) :
    List.Forall₂ (Event.Twin twin) (left.mapEvents schema name)
        (right.mapEvents otherSchema otherName) ∧
      Agree failures Eq (left.map style schema name).outcome
        (right.map style otherSchema otherName).outcome := by
  unfold mapEvents
  generalize leftFound : left.lookup name schema = answer at lookups
  generalize rightFound : right.lookup otherName otherSchema = other at lookups
  cases lookups with
  | error failed =>
      unfold Catalog.map
      rw [leftFound, rightFound]
      exact ⟨List.Forall₂.nil, .error failed⟩
  | ok given =>
      cases given with
      | none =>
          unfold Catalog.map
          rw [leftFound, rightFound]
          exact ⟨List.Forall₂.nil, .ok rfl⟩
      | @some start counterpart paired =>
          have walks := mirrors.walk paired
          rw [map_of_candidate (candidates_of_lookup leftFound),
            map_of_candidate (candidates_of_lookup rightFound)]
          refine ⟨walks.events, ?_⟩
          have count := walks.events.length_eq
          have failure := walks.failure
          simp only [Walk.lines, List.length_map, count]
          generalize (left.walk start).failure = first at failure
          generalize (right.walk counterpart).failure = second at failure
          cases failure with
          | none => exact .ok rfl
          | some failed => exact .error failed

end ProcedureAtlas
