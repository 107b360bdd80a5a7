import Ricochet.Text.Grapheme.Tables
import Ricochet.Text.Utf8

set_option autoImplicit false

/-! # Characters that are seen as one

A reader sees a letter with its accents, a syllable of Hangul, a flag or a family of emoji as one
unit. `splitCluster` takes the first such unit off a text. Characters fall into classes
(`ClusterClass`), and whether a character continues a unit depends on its class and on what came
before it (`ClusterState`). A unit is as wide as its first character, to which most later characters
add nothing (`widen`).
-/

namespace Ricochet.Text

/-- The class of a character in the formation of units. -/
inductive ClusterClass where
  | other
  | carriageReturn
  | lineFeed
  | control
  | extend
  | joiner
  | spacingMark
  | prepend
  | hangulL
  | hangulV
  | hangulT
  | hangulLV
  | hangulLVT
  | regional
  | pictograph
  deriving DecidableEq, Repr

/-- The class of a syllable of Hangul: every twenty-eighth has no final consonant. -/
def syllableClass (n : Nat) : ClusterClass :=
  if (n - 0xAC00) % 28 = 0 then .hangulLV else .hangulLVT

/-- The class of an ASCII character. -/
def asciiClass (n : Nat) : ClusterClass :=
  if n = 0x0D then .carriageReturn
  else if n = 0x0A then .lineFeed
  else if n < 0x20 ∨ n = 0x7F then .control
  else .other

/-- The class of a character. -/
def clusterClass (c : Char) : ClusterClass :=
  let n := c.toNat
  if n < 0x80 then asciiClass n
  else if 0xAC00 ≤ n ∧ n ≤ 0xD7A3 then syllableClass n
  else if (0x1100 ≤ n ∧ n ≤ 0x115F) ∨ (0xA960 ≤ n ∧ n ≤ 0xA97C) then .hangulL
  else if (0x1160 ≤ n ∧ n ≤ 0x11A7) ∨ (0xD7B0 ≤ n ∧ n ≤ 0xD7C6) then .hangulV
  else if (0x11A8 ≤ n ∧ n ≤ 0x11FF) ∨ (0xD7CB ≤ n ∧ n ≤ 0xD7FB) then .hangulT
  else if 0x1F1E6 ≤ n ∧ n ≤ 0x1F1FF then .regional
  else if n = 0x200D then .joiner
  else if inRanges controlRanges n then .control
  else if inRanges extendRangesA n || inRanges extendRangesB n then .extend
  else if inRanges spacingMarkRanges n then .spacingMark
  else if inRanges prependRanges n then .prepend
  else if inRanges pictographRanges n then .pictograph
  else .other

/-- What the characters of a unit so far amount to. -/
inductive ClusterState where
  | other
  | carriageReturn
  | control
  | prepend
  /-- Hangul that ends in a leading consonant, a vowel, or a final consonant. -/
  | afterL
  | afterV
  | afterT
  | pictograph
  | pictographJoiner
  /-- An odd or an even number of regional indicators. -/
  | regionalOdd
  | regionalEven
  deriving DecidableEq, Repr

namespace ClusterState

/-- The state after a character that begins a unit. -/
def enter : ClusterClass → ClusterState
  | .carriageReturn => .carriageReturn
  | .lineFeed | .control => .control
  | .prepend => .prepend
  | .hangulL => .afterL
  | .hangulV | .hangulLV => .afterV
  | .hangulT | .hangulLVT => .afterT
  | .regional => .regionalOdd
  | .pictograph => .pictograph
  | .other | .extend | .joiner | .spacingMark => .other

/-- The state after one more character. -/
def next : ClusterState → ClusterClass → ClusterState
  | .pictograph, .extend => .pictograph
  | .pictograph, .joiner => .pictographJoiner
  | .regionalOdd, .regional => .regionalEven
  | _, c => enter c

/-- Whether a character continues the unit. -/
def joins : ClusterState → ClusterClass → Bool
  | .carriageReturn, c => c = .lineFeed
  | .control, _ => false
  | _, .carriageReturn | _, .lineFeed | _, .control => false
  | _, .extend | _, .joiner | _, .spacingMark => true
  | .prepend, _ => true
  | .afterL, c => c = .hangulL || c = .hangulV || c = .hangulLV || c = .hangulLVT
  | .afterV, c => c = .hangulV || c = .hangulT
  | .afterT, c => c = .hangulT
  | .pictographJoiner, c => c = .pictograph
  | .regionalOdd, c => c = .regional
  | _, _ => false

end ClusterState

/-- The cells of a character by itself. -/
def cellsOf (c : Char) : Nat :=
  let n := c.toNat
  match clusterClass c with
  | .control | .carriageReturn | .lineFeed | .extend | .joiner => 0
  | .regional => 2
  | .pictograph => if inRanges emojiRanges n then 2 else 1
  | _ =>
      if n = 0x2E3A then 3
      else if n = 0x2E3B then 4
      else if inRanges wideRanges n then 2
      else 1

/-- The width of a unit that begins with class `first` after one more character. A pictograph is one
cell wide before a mark for text and two before a mark for colour; flags and Hangul do not grow. -/
def widen (first : ClusterClass) (width : Nat) (c : Char) : Nat :=
  match first with
  | .pictograph => if c.toNat = 0xFE0E then 1 else if c.toNat = 0xFE0F then 2 else width
  | .regional | .hangulL => width
  | _ => width + cellsOf c

/-- Takes the characters that continue a unit off a text: the width of the whole and the rest. -/
def continueCluster (first : ClusterClass) :
    ClusterState → Nat → List Utf8.Piece → Nat × List Utf8.Piece
  | _, width, [] => (width, [])
  | s, width, p :: ps =>
      let class_ := clusterClass p.shown
      if s.joins class_ then continueCluster first (s.next class_) (widen first width p.shown) ps
      else (width, p :: ps)

/-- Takes the unit that begins with a character off a text: its width and the rest. A stray byte
counts as the character it is shown as. -/
def splitCluster (p : Utf8.Piece) (ps : List Utf8.Piece) : Nat × List Utf8.Piece :=
  let first := clusterClass p.shown
  continueCluster first (.enter first) (cellsOf p.shown) ps

/-- What remains after a unit is no longer than the text. -/
theorem length_continueCluster_le (first : ClusterClass) (s : ClusterState) (width : Nat)
    (ps : List Utf8.Piece) : (continueCluster first s width ps).2.length ≤ ps.length := by
  induction ps generalizing s width with
  | nil => simp [continueCluster]
  | cons p ps ih =>
    simp only [continueCluster]
    split
    · exact Nat.le_succ_of_le (ih _ _)
    · simp

/-- Taking a unit off a text makes it shorter. -/
theorem length_splitCluster_lt (p : Utf8.Piece) (ps : List Utf8.Piece) :
    (splitCluster p ps).2.length < (p :: ps).length :=
  Nat.lt_succ_of_le (length_continueCluster_le _ _ _ ps)

end Ricochet.Text
