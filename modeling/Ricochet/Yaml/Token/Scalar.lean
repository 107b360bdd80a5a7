import Ricochet.Decimal.Digits
import Ricochet.Yaml.Cursor
import Ricochet.Yaml.Fault

set_option autoImplicit false

/-! # Scalars in a text

The five ways to write a scalar: plain, in single quotes, in double quotes, and as a literal or a
folded block. Plain and quoted scalars may go over several lines; the white space between two words
is then folded (`Gap`). Each function takes the cursor at the start of the scalar and returns the
text it stands for and the cursor after it. The first argument of a loop bounds its rounds; the
length of the text is always enough.
-/

namespace Ricochet.Yaml

/-- The fault `p` at a cursor, in a construct that began on line `origin`. A character that is not
allowed comes first. -/
def faultFrom {β : Type} (origin : Nat) (c : Cursor) (p : Problem) : Except Fault β :=
  if c.spoiled then .error (Fault.placeless .character)
  else .error (Fault.scanning origin c.line p)

/-- The fault `p` at a cursor, in the token at hand. -/
def faultAt {β : Type} (c : Cursor) (p : Problem) : Except Fault β := faultFrom c.origin c p

/-! ## White space between words -/

/-- White space between two words. Without a line break it is the blanks themselves. Otherwise it
is the first break and the breaks after it; blanks next to breaks do not count. All lists are kept
latest first. -/
structure Gap where
  blanks : List Char
  broken : Bool
  first : List Char
  more : List Char

namespace Gap

/-- No white space. -/
def none : Gap := { blanks := [], broken := false, first := [], more := [] }

/-- White space that starts after a line break which counts for nothing. -/
def afterEscape : Gap := { blanks := [], broken := true, first := [], more := [] }

/-- The text that the white space stands for, latest first: a single line feed becomes a space, and
of several the first is dropped. -/
def folded (g : Gap) : List Char :=
  if g.broken then
    if g.first = ['\n'] then
      if g.more.isEmpty then [' '] else g.more
    else g.more ++ g.first
  else g.blanks

/-- The white space with one more blank. -/
def addBlank (g : Gap) (ch : Char) : Gap :=
  if g.broken then g else { g with blanks := ch :: g.blanks }

/-- The white space with one more line break. -/
def addBreak (g : Gap) (ch : Char) : Gap :=
  if g.broken then { g with more := ch :: g.more }
  else { blanks := [], broken := true, first := [ch], more := [] }

/-- Reads white space. A tab left of column `limit` on a later line is a fault. -/
def read (limit : Nat) : Nat → Gap → Cursor → Except Fault (Gap × Cursor)
  | 0, g, c => .ok (g, c)
  | fuel + 1, g, c =>
      match c.head? with
      | .none => .ok (g, c)
      | some ch =>
          if isBlank ch then
            if g.broken && ch = '\t' && c.column < limit then faultAt c .tabInPlain
            else read limit fuel (g.addBlank ch) (c.advance.need 1)
          else
            match c.break? with
            | some (b, c) => read limit fuel (g.addBreak b) (c.need 1)
            | .none => .ok (g, c)

end Gap

/-! ## Plain scalars -/

/-- The next word of a plain scalar: up to a space, a colon before a space, or, between brackets, a
character of the bracket notation. -/
def plainWord (flow : Bool) : List Char → List Char
  | [] => []
  | ch :: rest =>
      if isSpace ch then []
      else if ch = ':' && endsWord rest.head? then []
      else if flow && endsFlowScalar ch then []
      else ch :: plainWord flow rest

/-- Reads a plain scalar, word by word. `text` is what was read so far, latest first, and `gap` the
white space after it. Outside brackets a line left of column `limit` ends the scalar. The result
tells whether the scalar was followed by a line break. -/
def readPlain (flow : Bool) (limit : Nat) :
    Nat → List Char → Gap → Cursor → Except Fault (List Char × Bool × Cursor)
  | 0, text, gap, c => .ok (text.reverse, gap.broken, c)
  | fuel + 1, text, gap, c =>
      let c := c.need 4
      if c.atDocumentMark || c.isAt '#' then .ok (text.reverse, gap.broken, c)
      else
        let word := plainWord flow c.rest
        let c := c.pass 2 word.length
        let text := if word.isEmpty then text else word.reverse ++ (gap.folded ++ text)
        let gap := if word.isEmpty then gap else Gap.none
        if c.sees isSpace then do
          let (gap, c) ← Gap.read limit (fuel + 1) gap (c.need 1)
          if !flow && c.column < limit then .ok (text.reverse, gap.broken, c)
          else readPlain flow limit fuel text gap c
        else .ok (text.reverse, gap.broken, c)

/-! ## Quoted scalars -/

/-- The characters of a single-quoted scalar up to a space or the closing quote; a quote written
twice is one quote. `text` is kept latest first. -/
def singleWord : List Char → List Char → Cursor → List Char × Cursor
  | '\'' :: '\'' :: rest, text, c => singleWord rest ('\'' :: text) ((c.skip 2).need 2)
  | ch :: rest, text, c =>
      if ch = '\'' || isSpace ch then (text, c)
      else singleWord rest (ch :: text) (c.advance.need 2)
  | [], text, c => (text, c)

/-- What a backslash and one character stand for. -/
def escaped? (ch : Char) : Option Char :=
  match ch with
  | '0' => some (Char.ofNat 0)
  | 'a' => some (Char.ofNat 7)
  | 'b' => some (Char.ofNat 8)
  | 't' => some '\t'
  | '\t' => some '\t'
  | 'n' => some '\n'
  | 'v' => some (Char.ofNat 11)
  | 'f' => some (Char.ofNat 12)
  | 'r' => some '\r'
  | 'e' => some (Char.ofNat 27)
  | ' ' => some ' '
  | '"' => some '"'
  | '\'' => some '\''
  | '\\' => some '\\'
  | 'N' => some (Char.ofNat 0x85)
  | '_' => some (Char.ofNat 0xA0)
  | 'L' => some (Char.ofNat 0x2028)
  | 'P' => some (Char.ofNat 0x2029)
  | _ => none

/-- How many hexadecimal digits follow a backslash and a letter. -/
def codeLength? (ch : Char) : Option Nat :=
  match ch with
  | 'x' => some 2
  | 'u' => some 4
  | 'U' => some 8
  | _ => none

/-- The character with the code that the next `n` characters spell in hexadecimal. -/
def codePoint (n : Nat) (cs : List Char) : Except Problem Char :=
  let digits := cs.take n
  match if digits.length = n then Decimal.valueIn? 16 digits else none with
  | some code => if code.isValidChar then .ok (Char.ofNat code) else .error .escapeCode
  | none => .error .escapeDigits

/-- The characters of a double-quoted scalar up to a space or the closing quote, with escapes
resolved. The flag tells whether it stopped after an escaped line break. -/
def doubleWord : Nat → List Char → Cursor → Except Fault (List Char × Bool × Cursor)
  | 0, text, c => .ok (text, false, c)
  | fuel + 1, text, c =>
      match c.rest with
      | [] => .ok (text, false, c)
      | '\\' :: rest =>
          match rest with
          | [] => faultAt c .escape
          | ch :: rest =>
              if isBreak ch then .ok (text, true, (c.need 3).advance.passBreak)
              else
                match escaped? ch, codeLength? ch with
                | some e, _ => doubleWord fuel (e :: text) ((c.skip 2).need 2)
                | none, some n =>
                    let c := (c.skip 2).need n
                    match codePoint n rest with
                    | .ok e => doubleWord fuel (e :: text) ((c.skip n).need 2)
                    | .error p => faultAt c p
                | none, none => faultAt c .escape
      | ch :: _ =>
          if ch = '"' || isSpace ch then .ok (text, false, c)
          else doubleWord fuel (ch :: text) (c.advance.need 2)

/-- Reads a quoted scalar after its opening quote. `text` is what was read so far, latest first. -/
def readQuoted (single : Bool) : Nat → List Char → Cursor → Except Fault (List Char × Cursor)
  | 0, _, c => faultAt c .unclosedQuote
  | fuel + 1, text, c => do
      let c := c.need 4
      if c.atDocumentMark then faultAt c .documentInQuotes
      else if c.atEnd then faultAt c .unclosedQuote
      else
        let (text, escapedBreak, c) ←
          if single then
            let (text, c) := singleWord c.rest text c
            .ok (text, false, c)
          else doubleWord (fuel + 1) text c
        let c := c.need 1
        if c.isAt (if single then '\'' else '"') then .ok (text.reverse, c.advance)
        else
          let (gap, c) ←
            Gap.read 0 (fuel + 1) (if escapedBreak then Gap.afterEscape else Gap.none) c
          readQuoted single fuel (gap.folded ++ text) c

/-! ## Block scalars -/

/-- What happens to the line breaks at the end of a block scalar. -/
inductive Chomp where
  | strip
  | clip
  | keep
  deriving DecidableEq, Repr

/-- The header of a block scalar after its first character: how the end is treated, and how far the
text is indented, zero when that is left open. -/
structure BlockHeader where
  chomp : Chomp
  increment : Nat

/-- The sign that sets the treatment of the end. -/
def chomp? : Option Char → Option Chomp
  | some '+' => some .keep
  | some '-' => some .strip
  | _ => none

/-- The digit that sets the indentation; zero is a fault. -/
def increment? (c : Cursor) : Except Fault (Option Nat) :=
  match c.head?.bind Decimal.digit? with
  | some 0 => faultAt c .zeroIndent
  | some n => .ok (some n)
  | none => .ok none

/-- Reads the header of a block scalar: sign and digit in either order. -/
def readBlockHeader (c : Cursor) : Except Fault (BlockHeader × Cursor) := do
  let c := c.need 1
  match chomp? c.head? with
  | some chomp =>
      let c := c.advance.need 1
      match ← increment? c with
      | some n => return (⟨chomp, n⟩, c.advance)
      | none => return (⟨chomp, 0⟩, c)
  | none =>
      match ← increment? c with
      | some n =>
          let c := c.advance.need 1
          match chomp? c.head? with
          | some chomp => return (⟨chomp, n⟩, c.advance)
          | none => return (⟨.clip, n⟩, c)
      | none => return (⟨.clip, 0⟩, c)

/-- Empty lines before a line of text: the line breaks, latest first, the column reached, and the
cursor at the text. Spaces are passed over up to column `indent`, all of them while `indent` is
zero. -/
def blockBreaks (indent : Nat) : Nat → List Char → Nat → Cursor →
    Except Fault (List Char × Nat × Cursor)
  | 0, breaks, widest, c => .ok (breaks, widest, c)
  | fuel + 1, breaks, widest, c =>
      let c := c.need 1
      let spaces := (c.rest.takeWhile (· = ' ')).length
      let c := c.pass 1 (if indent = 0 then spaces else min spaces (indent - c.column))
      let widest := max widest c.column
      if (indent = 0 || c.column < indent) && c.isAt '\t' then faultAt c .tabInBlock
      else
        match c.break? with
        | some (b, c) => blockBreaks indent fuel (b :: breaks) widest c
        | none => .ok (breaks, widest, c)

/-- The lines of a block scalar. `text` and `breaks` (the breaks after the last line, without the
one that ends it) are kept latest first, `last` is the break that ends the last line, and `indented`
tells whether the last line started with a blank. In a folded scalar a single line feed between two
lines that do not start with a blank becomes a space. -/
def blockLines (literal : Bool) (indent : Nat) : Nat → List Char → List Char → List Char → Bool →
    Cursor → Except Fault (List Char × List Char × List Char × Cursor)
  | 0, text, last, breaks, _, c => .ok (text, last, breaks, c)
  | fuel + 1, text, last, breaks, indented, c =>
      if c.column ≠ indent || c.atEnd then .ok (text, last, breaks, c)
      else do
        let blank := c.sees isBlank
        let joint :=
          if !literal && !indented && !blank && last = ['\n'] then
            if breaks.isEmpty then [' '] else []
          else last
        let line := c.rest.takeWhile (fun ch => !isBreak ch)
        let c := (c.pass 1 line.length).need 2
        let (last', c) :=
          match c.break? with
          | some (b, c) => ([b], c)
          | none => ([], c)
        let (breaks', _, c) ← blockBreaks indent (fuel + 1) [] 0 c
        blockLines literal indent fuel (line.reverse ++ (breaks ++ (joint ++ text))) last' breaks'
          blank c

/-- Reads a block scalar after its first character. `parent` is the column of the enclosing block,
less than zero when there is none. -/
def readBlock (literal : Bool) (parent : Int) (fuel : Nat) (c : Cursor) :
    Except Fault (List Char × Cursor) := do
  let (header, c) ← readBlockHeader c
  let c := c.passWhile isBlank
  let c := if c.isAt '#' then c.passLine else c
  if !endsLine c.head? then faultAt c .lineEnd
  else
    let c := c.passBreak
    let base := parent.toNat
    let fixed := if header.increment = 0 then 0 else base + header.increment
    let (breaks, widest, c) ← blockBreaks fixed fuel [] 0 c
    let indent := if fixed = 0 then max widest (max (parent + 1).toNat 1) else fixed
    let (text, last, breaks, c) ← blockLines literal indent fuel [] [] breaks false (c.need 1)
    let text := if header.chomp = .strip then text else last ++ text
    let text := if header.chomp = .keep then breaks ++ text else text
    return (text.reverse, c)

end Ricochet.Yaml
