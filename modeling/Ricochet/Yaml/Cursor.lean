import Ricochet.Yaml.Character

set_option autoImplicit false

/-! # Places in a text

A cursor is the rest of a text together with the place where it starts: how many characters came
before, the line and the column, both counted from zero.

A text is loaded in portions of 512 bytes, and only when the reader asks for characters that are not
loaded yet (`Cursor.need`). Two things depend on that. A character that is not allowed is noticed
when its portion is loaded, so it does no harm in a portion that is never reached. And a byte order
mark that happens to be next when a portion is loaded stays in force until the next load: while it
is, one character is passed over at the start of every line.
-/

namespace Ricochet.Yaml

/-- A portion of a text: how many characters it has, and whether all of them are allowed. -/
structure Portion where
  length : Nat
  clean : Bool
  deriving DecidableEq, Repr

namespace Portion

/-- The greatest size of a portion in bytes. -/
def size : Nat := 512

/-- A portion with one more character. -/
def add (p : Portion) (c : Char) : Portion := ⟨p.length + 1, p.clean && isAllowed c⟩

/-- The portions of a text: each takes the characters that still fit. `room` is what is left in the
portion at hand. -/
def split (room : Nat) (p : Portion) : List Char → List Portion
  | [] => if p.length = 0 then [] else [p]
  | c :: cs =>
      if c.utf8Size ≤ room then split (room - c.utf8Size) (p.add c) cs
      else p :: split (size - c.utf8Size) ((Portion.mk 0 true).add c) cs

end Portion

/-- The rest of a text and its place. -/
structure Cursor where
  rest : List Char
  index : Nat
  line : Nat
  column : Nat
  /-- The line on which the token at hand starts. -/
  origin : Nat
  /-- Whether a line break has been passed since the last character that is not blank. -/
  fresh : Bool
  /-- How many characters from here on are loaded; the end of the text counts as one each time it is
  met. -/
  loaded : Nat
  /-- The portions not loaded yet. -/
  portions : List Portion
  /-- Whether an order mark was next at the last load. -/
  marked : Bool
  /-- Whether a character that is not allowed has been loaded. -/
  spoiled : Bool

namespace Cursor

/-- The start of a text. An order mark at the very start is dropped, but takes its place in the
first portion. -/
def start (text : List Char) : Cursor :=
  let (cs, room) :=
    match text with
    | c :: cs => if isOrderMark c then (cs, Portion.size - 3) else (text, Portion.size)
    | [] => ([], Portion.size)
  { rest := cs, index := 0, line := 0, column := 0, origin := 0, fresh := false, loaded := 0,
    portions := Portion.split room ⟨0, true⟩ cs, marked := false, spoiled := false }

/-- The next character. -/
def head? (c : Cursor) : Option Char := c.rest.head?

/-- The character `i` places ahead. -/
def ahead? (c : Cursor) (i : Nat) : Option Char := c.rest[i]?

/-- Whether the text is used up. -/
def atEnd (c : Cursor) : Bool := c.rest.isEmpty

/-- Whether the next character is `ch`. -/
def isAt (c : Cursor) (ch : Char) : Bool := c.head? = some ch

/-- Whether the next character satisfies `p`. -/
def sees (c : Cursor) (p : Char → Bool) : Bool := (c.head?.map p).getD false

/-! ## Loading -/

/-- Loads portions until `want` characters are loaded or the end is met. -/
def load (want : Nat) : List Portion → Cursor → Cursor
  | [], c => { c with loaded := c.loaded + 1, portions := [] }
  | p :: ps, c =>
      let loaded := c.loaded + p.length
      let c :=
        { c with loaded := loaded, portions := ps, spoiled := c.spoiled || !p.clean }
      if want ≤ loaded then c else load want ps c

/-- Asks for the next `want` characters. -/
def need (want : Nat) (c : Cursor) : Cursor :=
  if want ≤ c.loaded then c
  else { load want c.portions c with marked := c.sees isOrderMark }

/-! ## Moving -/

/-- One character further on the same line, whatever the character is. -/
def advance (c : Cursor) : Cursor :=
  { c with
    rest := c.rest.tail
    index := c.index + 1
    column := c.column + 1
    fresh := c.fresh && c.sees isBlank
    loaded := c.loaded - 1 }

/-- `n` characters further on the same line. -/
def skip : Nat → Cursor → Cursor
  | 0, c => c
  | n + 1, c => skip n c.advance

/-- `n` characters further on the same line, asking for `want` more after each of them. -/
def pass (want : Nat) : Nat → Cursor → Cursor
  | 0, c => c
  | n + 1, c => pass want n (c.advance.need want)

/-- Past the characters that satisfy `p`. -/
def passWhile (p : Char → Bool) (c : Cursor) : Cursor :=
  let c := c.need 1
  c.pass 1 (c.rest.takeWhile p).length

/-- To the end of the line. -/
def passLine (c : Cursor) : Cursor := c.passWhile (fun ch => !isBreak ch)

/-- To the start of the next line, `n` characters further. -/
def toNextLine (n : Nat) (c : Cursor) : Cursor :=
  { c with
    rest := c.rest.drop n
    index := c.index + n
    line := c.line + 1
    column := 0
    fresh := true
    loaded := c.loaded - n }

/-- If a line break is next, what it counts for and the cursor after it. A carriage return and a
line feed are one break. -/
def break? (c : Cursor) : Option (Char × Cursor) :=
  match c.rest with
  | [] => none
  | ch :: rest =>
      if isBreak ch then
        let n := if ch = '\r' && rest.head? = some '\n' then 2 else 1
        some (breakText ch, (c.need 2).toNextLine n)
      else none

/-- Past a line break, if one is next. -/
def passBreak (c : Cursor) : Cursor := (c.break?.map Prod.snd).getD c

/-! ## Marks between documents -/

/-- Whether a line starts here that is a mark between documents: three dashes or three points, then
a space or the end. -/
def atMark (c : Cursor) (ch : Char) : Bool :=
  c.column = 0 && c.rest.take 3 = [ch, ch, ch] && endsWord (c.ahead? 3)

/-- Whether a line starts here that begins or ends a document. -/
def atDocumentMark (c : Cursor) : Bool := c.atMark '-' || c.atMark '.'

end Cursor

end Ricochet.Yaml
