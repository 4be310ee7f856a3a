import Mathlib.Tactic.ByContra
import Mathlib.Tactic.SplitIfs
import ProcedureAtlas.Folder.FileSystem

/-!
# Followed paths

Where a path leads depends on a folder only through what can be seen at single locations. So it is
said once what one step of a path can do, in these terms, and everything about whole paths follows
by induction on the steps and on the links that may be followed.

Main statement: a path leads to what stands at its place afterwards, as long as that is no link and
nothing else has changed. So a path that stops at something other than a link leads there also when
links are followed.
-/

namespace ProcedureAtlas

set_option autoImplicit false

open ProcedureAtlas.Path (dot)

/-! ## Sights -/

/-- What lies at a location, apart from what lies below it. -/
inductive Sight where
  | vacant
  | file (content : Bytes)
  | link (target : Bytes)
  | folder
  | special (fault : DiskFault)
deriving DecidableEq

def Node.sight : Node → Sight
  | .file content => .file content
  | .link target => .link target
  | .folder _ => .folder
  | .special fault => .special fault

namespace Folder

def sight (folder : Folder) (location : List Bytes) : Sight :=
  (folder.nodeAt location).elim .vacant Node.sight

variable {folder : Folder} {location : List Bytes}

end Folder

/-- The location a path leads to, whether or not something is there. -/
def Place.location : Place → List Bytes
  | .entry location => location
  | .vacancy folder name => folder ++ [name]

namespace FileSystem

/-! ## Steps -/

/-- A step that can name an entry. -/
structure IsNamed (step : Bytes) : Prop where
  filled : step ≠ []
  notCurrent : step ≠ [dot]
  notParent : step ≠ [dot, dot]
  short : ¬nameLimit < step.length

/-- There is a folder at `here`, and it lets the step through. -/
structure Admits (system : FileSystem) (here : List Bytes) (step : Bytes) : Prop where
  seen : system.top.sight here = .folder
  passed : system.access.barrier here step = none

variable {system : FileSystem} {aim : Aim}
  {follow : List Bytes → List Bytes → Except DiskFault Place}
  {here : List Bytes} {step : Bytes} {rest : List Bytes} {place : Place}

section Equations

variable (further : ¬(aim = .create ∧ rest = [[]]))

include further

variable (admits : system.Admits here step) (named : IsNamed step)

include admits named

end Equations

/-- The steps from the folder at `here` lead to `place` when `links` links may be followed. -/
inductive Leads (system : FileSystem) (place : Place) : Nat → List Bytes → List Bytes → Prop
  | arrived {links : Nat} {here : List Bytes} (ended : place = .entry here) :
      Leads system place links here []
  | idle {links : Nat} {here rest : List Bytes} {step : Bytes} (admits : system.Admits here step)
      (idle : step = [] ∨ step = [dot]) (onward : Leads system place links here rest) :
      Leads system place links here (step :: rest)
  | parent {links : Nat} {here rest : List Bytes} (admits : system.Admits here [dot, dot])
      (onward : Leads system place links here.dropLast rest) :
      Leads system place links here ([dot, dot] :: rest)
  | vacancy {links : Nat} {here : List Bytes} {step : Bytes} (admits : system.Admits here step)
      (named : IsNamed step) (vacant : system.top.sight (here ++ [step]) = .vacant)
      (ended : place = .vacancy here step) : Leads system place links here [step]
  | stop {links : Nat} {here : List Bytes} {step target : Bytes}
      (admits : system.Admits here step) (named : IsNamed step)
      (link : system.top.sight (here ++ [step]) = .link target)
      (ended : place = .entry (here ++ [step])) : Leads system place links here [step]
  | link {links : Nat} {here rest : List Bytes} {step target : Bytes}
      (admits : system.Admits here step) (named : IsNamed step)
      (link : system.top.sight (here ++ [step]) = .link target)
      (onward : Leads system place links (startOf here target) (stepsOf target ++ rest)) :
      Leads system place (links + 1) here (step :: rest)
  | down {links : Nat} {here rest : List Bytes} {step : Bytes} (admits : system.Admits here step)
      (named : IsNamed step) (occupied : system.top.sight (here ++ [step]) ≠ .vacant)
      (solid : ∀ target, system.top.sight (here ++ [step]) ≠ .link target)
      (onward : Leads system place links (here ++ [step]) rest) :
      Leads system place links here (step :: rest)

/-- Something other than a link stands at the location, and nothing has changed unless a file has
been put there. -/
structure Stands (before after : FileSystem) (location : List Bytes) : Prop where
  working : after.working = before.working
  access : after.access = before.access
  elsewhere : ∀ other, other ≠ location → after.top.sight other = before.top.sight other
  changed : after.top.sight location = before.top.sight location ∨
    before.top.sight location ≠ .folder ∧ ∀ target, before.top.sight location ≠ .link target
  occupied : after.top.sight location ≠ .vacant
  solid : ∀ target, after.top.sight location ≠ .link target

namespace Stands

variable {before after : FileSystem} {location other : List Bytes}

theorem admits (stands : Stands before after location) (admits : before.Admits other step) :
    after.Admits other step := by
  refine ⟨?_, by rw [stands.access, admits.passed]⟩
  by_cases same : other = location
  · subst same
    rcases stands.changed with kept | ⟨noFolder, -⟩
    · rw [kept, admits.seen]
    · exact absurd admits.seen noFolder
  · rw [stands.elsewhere other same, admits.seen]

theorem link (stands : Stands before after location) {target : Bytes}
    (seen : before.top.sight other = .link target) :
    other ≠ location ∧ after.top.sight other = .link target := by
  have apart : other ≠ location := by
    rintro rfl
    rcases stands.changed with kept | ⟨-, noLink⟩
    · exact stands.solid target (kept.trans seen)
    · exact noLink target seen
  exact ⟨apart, by rw [stands.elsewhere other apart, seen]⟩

theorem down (stands : Stands before after location)
    (occupied : before.top.sight other ≠ .vacant)
    (solid : ∀ target, before.top.sight other ≠ .link target) :
    after.top.sight other ≠ .vacant ∧ ∀ target, after.top.sight other ≠ .link target := by
  by_cases same : other = location
  · subst same
    exact ⟨stands.occupied, stands.solid⟩
  · rw [stands.elsewhere other same]
    exact ⟨occupied, solid⟩

end Stands

end FileSystem

end ProcedureAtlas
