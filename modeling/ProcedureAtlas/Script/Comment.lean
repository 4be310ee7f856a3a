import ProcedureAtlas.Text.Basic

/-!
# Comments

A comment runs from two dashes to the end of its line, or from a slash and a star to the star and
slash that close it; the second kind nests. A quoted string or a bracketed name hides whatever
stands inside it, and its closing delimiter written twice does not close it. Whatever is open at the
end of the text ends there.

The scan reads the UTF-8 bytes once and keeps the byte spans of the comments. Nothing else about a
script is interpreted here.
-/

namespace ProcedureAtlas

set_option autoImplicit false

/-- The bytes from `start` up to but excluding `stop`. -/
structure Span where
  start : Nat
  stop : Nat
deriving DecidableEq, Repr

structure Comments where
  spans : Array Span

namespace Comments

def quoteByte : UInt8 := 0x27

def openBracketByte : UInt8 := 0x5B

def closeBracketByte : UInt8 := 0x5D

def dashByte : UInt8 := 0x2D

def slashByte : UInt8 := 0x2F

def starByte : UInt8 := 0x2A

def newlineByte : UInt8 := 0x0A

/-- What is open before the byte that is read next. -/
inductive Mode where
  | code
  | quoted (close : UInt8)
  | line (start : Nat)
  | block (start depth : Nat)
deriving DecidableEq, Repr

/-- The spans found from `offset` on. A block of depth `n + 1` has `n` further blocks to close. -/
def scanFrom : Mode → Nat → Bytes → List Span
  | .code, _, [] => []
  | .quoted _, _, [] => []
  | .line start, offset, [] => [⟨start, offset⟩]
  | .block start _, offset, [] => [⟨start, offset⟩]
  | .code, offset, byte :: rest =>
      if byte = quoteByte then
        scanFrom (.quoted quoteByte) (offset + 1) rest
      else if byte = openBracketByte then
        scanFrom (.quoted closeBracketByte) (offset + 1) rest
      else
        match rest with
        | [] => []
        | follower :: tail =>
            if byte = dashByte ∧ follower = dashByte then
              scanFrom (.line offset) (offset + 2) tail
            else if byte = slashByte ∧ follower = starByte then
              scanFrom (.block offset 0) (offset + 2) tail
            else
              scanFrom .code (offset + 1) (follower :: tail)
  | .quoted close, offset, byte :: rest =>
      if byte = close then
        match rest with
        | [] => []
        | follower :: tail =>
            if follower = close then
              scanFrom (.quoted close) (offset + 2) tail
            else
              scanFrom .code (offset + 1) (follower :: tail)
      else
        scanFrom (.quoted close) (offset + 1) rest
  | .line start, offset, byte :: rest =>
      if byte = newlineByte then
        ⟨start, offset⟩ :: scanFrom .code (offset + 1) rest
      else
        scanFrom (.line start) (offset + 1) rest
  | .block start depth, offset, byte :: rest =>
      match rest with
      | [] => [⟨start, offset + 1⟩]
      | follower :: tail =>
          if byte = slashByte ∧ follower = starByte then
            scanFrom (.block start (depth + 1)) (offset + 2) tail
          else if byte = starByte ∧ follower = slashByte then
            match depth with
            | 0 => ⟨start, offset + 2⟩ :: scanFrom .code (offset + 2) tail
            | outer + 1 => scanFrom (.block start outer) (offset + 2) tail
          else
            scanFrom (.block start depth) (offset + 1) (follower :: tail)

def ofText (text : Text) : Comments :=
  ⟨(scanFrom .code 0 text.utf8).toArray⟩

def count (comments : Comments) : Nat :=
  comments.spans.size

/-- The first index in the window whose span ends after `offset`, when the ends ascend. -/
def partitionFrom (spans : Array Span) (offset low high : Nat) : Nat :=
  if low < high then
    match spans[(low + high) / 2]? with
    | some span =>
        if span.stop ≤ offset then
          partitionFrom spans offset ((low + high) / 2 + 1) high
        else
          partitionFrom spans offset low ((low + high) / 2)
    | none => low
  else
    low
termination_by high - low

def covers (comments : Comments) (offset : Nat) : Bool :=
  match comments.spans[partitionFrom comments.spans offset 0 comments.spans.size]? with
  | some span => decide (span.start ≤ offset)
  | none => false

/-- Ascending offsets gathered into the longest spans without a gap. -/
def gather : List Nat → List Span
  | [] => []
  | offset :: rest =>
      match gather rest with
      | [] => [⟨offset, offset + 1⟩]
      | span :: spans =>
          if span.start = offset + 1 then
            ⟨offset, span.stop⟩ :: spans
          else
            ⟨offset, offset + 1⟩ :: span :: spans

/-- The longest spans of covered offsets below `bound`. Comments that touch give one span. -/
def coveredBelow (comments : Comments) (bound : Nat) : List Span :=
  gather ((List.range bound).filter comments.covers)

end Comments

end ProcedureAtlas
