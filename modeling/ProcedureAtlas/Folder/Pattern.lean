import ProcedureAtlas.Text.Basic

/-!
# Exclude patterns

A pattern is matched against a whole label. A question mark stands for one character, a star for any
run of characters, a set in brackets for one character in it or, behind an exclamation mark, not in
it; all of these may stand for a slash. Two stars must fill a component: they stand for nothing, for
any run that ends in a slash, or for all that is left, and take the slash behind them along.

The first character of a set is taken as it is, so it may be a closing bracket.

This module reads patterns; `ProcedureAtlas.Folder.Matching` says which labels they accept.
-/

namespace ProcedureAtlas

set_option autoImplicit false

inductive PatternFault where
  | tooManyStars (position : Nat)
  | brokenComponent (position : Nat)
  | openSet (position : Nat)
deriving DecidableEq, Repr

def PatternFault.message : PatternFault → String
  | .tooManyStars position =>
      "Pattern syntax error near position " ++ toString position
        ++ ": wildcards are either regular `*` or recursive `**`"
  | .brokenComponent position =>
      "Pattern syntax error near position " ++ toString position
        ++ ": recursive wildcards must form a single path component"
  | .openSet position =>
      "Pattern syntax error near position " ++ toString position ++ ": invalid range pattern"

/-- The characters from `first` to `last`; a single character is a range of its own. -/
structure CharRange where
  first : Char
  last : Char
deriving DecidableEq, Repr

inductive Token where
  | exactly (character : Char)
  | anyCharacter
  | anyRun
  | anyFolders
  | oneOf (set : List CharRange)
  | noneOf (set : List CharRange)
deriving DecidableEq, Repr

abbrev Pattern := List Token

namespace Pattern

def rangesOf : List Char → List CharRange
  | first :: '-' :: last :: rest => ⟨first, last⟩ :: rangesOf rest
  | first :: rest => ⟨first, first⟩ :: rangesOf rest
  | [] => []

/-- The characters up to the first closing bracket and those behind it. -/
def closeSet : Text → Option (Text × Text)
  | [] => none
  | ']' :: rest => some ([], rest)
  | character :: rest => do
      let (inside, behind) ← closeSet rest
      some (character :: inside, behind)

/-- The set behind an opening bracket, and what follows it. -/
def readSet : Text → Option (Token × Text)
  | [] => none
  | '!' :: [] => none
  | '!' :: first :: rest => do
      let (inside, behind) ← closeSet rest
      some (.noneOf (rangesOf (first :: inside)), behind)
  | first :: rest => do
      let (inside, behind) ← closeSet rest
      some (.oneOf (rangesOf (first :: inside)), behind)

theorem closeSet_length {text inside behind : Text}
    (closed : closeSet text = some (inside, behind)) : behind.length < text.length := by
  induction text generalizing inside with
  | nil => simp [closeSet] at closed
  | cons character rest ih =>
      unfold closeSet at closed
      split at closed
      · contradiction
      · simp_all
      · rename_i heads
        simp only [List.cons.injEq] at heads
        obtain ⟨rfl, rfl⟩ := heads
        cases found : closeSet rest with
        | none => simp [found] at closed
        | some parts =>
            obtain ⟨inner, tail⟩ := parts
            simp only [found, Option.bind_eq_bind, Option.bind_some, Option.some.injEq,
              Prod.mk.injEq] at closed
            have shorter := @ih inner (by rw [found, closed.2])
            simp only [List.length_cons]
            omega

theorem readSet_length {text behind : Text} {token : Token}
    (read : readSet text = some (token, behind)) : behind.length < text.length := by
  unfold readSet at read
  split at read
  · contradiction
  · contradiction
  · rename_i first rest
    cases found : closeSet rest with
    | none => simp [found] at read
    | some parts =>
        obtain ⟨inner, tail⟩ := parts
        simp only [found, Option.bind_eq_bind, Option.bind_some, Option.some.injEq,
          Prod.mk.injEq] at read
        have shorter := closeSet_length found
        rw [← read.2]
        simp only [List.length_cons]
        omega
  · rename_i first rest _ _
    cases found : closeSet rest with
    | none => simp [found] at read
    | some parts =>
        obtain ⟨inner, tail⟩ := parts
        simp only [found, Option.bind_eq_bind, Option.bind_some, Option.some.injEq,
          Prod.mk.injEq] at read
        have shorter := closeSet_length found
        rw [← read.2]
        simp only [List.length_cons]
        omega

/-- The tokens from `position` on. `startsComponent` tells whether nothing or a slash precedes. -/
def readFrom (position : Nat) (startsComponent : Bool) (text : Text) :
    Except PatternFault Pattern :=
  match text with
  | [] => .ok []
  | '?' :: rest => do
      let tokens ← readFrom (position + 1) false rest
      .ok (.anyCharacter :: tokens)
  | '*' :: '*' :: '*' :: _ => .error (.tooManyStars (position + 2))
  | '*' :: '*' :: rest =>
      if startsComponent then
        match rest with
        | [] => .ok [.anyFolders]
        | '/' :: behind => do
            let tokens ← readFrom (position + 3) true behind
            .ok (.anyFolders :: tokens)
        | _ => .error (.brokenComponent (position + 2))
      else
        .error (.brokenComponent (position - 1))
  | '*' :: rest => do
      let tokens ← readFrom (position + 1) false rest
      .ok (.anyRun :: tokens)
  | '[' :: rest =>
      match found : readSet rest with
      | none => .error (.openSet position)
      | some (token, behind) => do
          let tokens ← readFrom (position + 1 + (rest.length - behind.length)) false behind
          .ok (token :: tokens)
  | character :: rest => do
      let tokens ← readFrom (position + 1) (character == '/') rest
      .ok (.exactly character :: tokens)
termination_by text.length
decreasing_by
  · simp only [List.length_cons]
    omega
  · simp only [List.length_cons]
    omega
  · simp only [List.length_cons]
    omega
  · have shorter := readSet_length found
    simp only [List.length_cons]
    omega
  · simp only [List.length_cons]
    omega

def ofText (text : Text) : Except PatternFault Pattern :=
  readFrom 0 true text

end Pattern

end ProcedureAtlas
