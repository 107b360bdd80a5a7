import Ricochet.Numeric.Word
import Ricochet.Random.SeedTable
import Ricochet.Random.Source

set_option autoImplicit false

/-! # The additive lagged generator

The generator keeps 607 words and two cursors into them, 273 places apart. A draw moves both cursors
down by one, adds the word under the second to the word under the first, and returns the sum. All
words are 64-bit and sums wrap.

The words are set from a seed by a small multiplicative generator modulo `2^31 - 1`, three of whose
numbers are combined with each word of the seeding table.
-/

namespace Ricochet

/-- The words and the two cursors. -/
structure Lagged where
  words : Array UInt64
  tap : Nat
  feed : Nat

namespace Lagged

/-- How many words the generator keeps. -/
def length : Nat := 607

/-- The modulus of the seeding generator. -/
def seedModulus : Int := 2147483647

/-- One step of the seeding generator, `48271 · x` modulo `2^31 - 1`, split so that no
intermediate value leaves 32 bits. -/
def seedStep (x : Int) : Int :=
  let y := 48271 * (x.tmod 44488) - 3399 * (x.tdiv 44488)
  if y < 0 then y + seedModulus else y

/-- The start of the seeding generator: the seed modulo `2^31 - 1`, with a fixed replacement for
zero. -/
def seedStart (seed : Int) : Int :=
  let x := seed.tmod seedModulus
  let x := if x < 0 then x + seedModulus else x
  if x = 0 then 89482311 else x

/-- `n` steps of the seeding generator. -/
def seedSteps : Nat → Int → Int
  | 0, x => x
  | n + 1, x => seedSteps n (seedStep x)

/-- One word of the state from three numbers of the seeding generator. -/
def seedWord (table : UInt64) (x : Int) : UInt64 × Int :=
  let x₁ := seedStep x
  let x₂ := seedStep x₁
  let x₃ := seedStep x₂
  ((x₁.toNat.toUInt64 <<< 40) ^^^ (x₂.toNat.toUInt64 <<< 20) ^^^ x₃.toNat.toUInt64 ^^^ table, x₃)

/-- The generator with a seed. The first twenty numbers of the seeding generator are dropped. -/
def ofSeed (seed : Int) : Lagged :=
  let start := seedSteps 20 (seedStart seed)
  let (words, _) := seedTable.foldl (fun (words, x) w =>
    let (word, x) := seedWord w x
    (words.push word, x)) (#[], start)
  { words := words, tap := 0, feed := 334 }

/-- One place down, from the first place to the last. -/
def previous (i : Nat) : Nat := if i = 0 then length - 1 else i - 1

/-- The next word. -/
def next (g : Lagged) : UInt64 × Lagged :=
  let tap := previous g.tap
  let feed := previous g.feed
  let word := (g.words[feed]?).getD 0 + (g.words[tap]?).getD 0
  (word, { words := g.words.setIfInBounds feed word, tap := tap, feed := feed })

/-- The next number of 63 bits. -/
def next63 (g : Lagged) : Nat × Lagged :=
  let (word, g) := g.next
  (word.toNat % Nat.pow 2 63, g)

/-- The next number of 31 bits. -/
def next31 (g : Lagged) : Nat × Lagged :=
  let (n, g) := g.next63
  (n / Nat.pow 2 32, g)

/-- How often an unsuitable draw is repeated. An unsuitable draw has probability below one half. -/
def retries : Nat := 4096

/-- Draws until a number is at most `most`. -/
def atMost (draw : Lagged → Nat × Lagged) (most : Nat) : Nat → Lagged → Nat × Lagged
  | 0, g => draw g
  | n + 1, g =>
      let (k, g') := draw g
      if k ≤ most then (k, g') else atMost draw most n g'

/-- The next fraction: 63 bits over `2^63` rounded to binary64, again while rounding gives one. -/
def fractionFrom : Nat → Lagged → Float × Lagged
  | 0, g => (0.0, g)
  | n + 1, g =>
      let (k, g') := g.next63
      let x := k.toUInt64.toFloat / 9223372036854775808.0
      if x == 1.0 then fractionFrom n g' else (x, g')

/-- The next integer below a positive bound, every one equally likely. A bound that is a power of
two takes low bits; another takes the remainder of a draw below the greatest multiple. -/
def belowOf (bits : Nat) (draw : Lagged → Nat × Lagged) (n : Nat) (g : Lagged) : Nat × Lagged :=
  if n &&& (n - 1) = 0 then
    let (k, g) := draw g
    (k % n, g)
  else
    let (k, g) := atMost draw (Nat.pow 2 bits - 1 - Nat.pow 2 bits % n) retries g
    (k % n, g)

/-- The next integer below a bound; a bound that is not positive has none. -/
def below? (n : Int) (g : Lagged) : Option (Int × Lagged) :=
  if n ≤ 0 then none
  else
    let (k, g) :=
      if n < Nat.pow 2 31 then belowOf 31 next31 n.toNat g else belowOf 63 next63 n.toNat g
    some (k, g)

/-- The generator as a source of fractions and bounded integers. -/
def source : Source Lagged Float where
  fraction := fractionFrom retries
  below n g := (below? n g).getD (0, g)

end Lagged

end Ricochet
