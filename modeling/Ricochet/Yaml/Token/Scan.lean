import Ricochet.Yaml.Token.Tag

set_option autoImplicit false

/-! # From characters to tokens

A `Scanner` reads a text from left to right and hands out its tokens one by one. Two things make
YAML more than a list of words.

* **Indentation.** The columns of the open blocks form a stack. A line further left closes blocks,
  and a dash or a key further right opens one.
* **Keys without a mark.** That a scalar is a key shows only at the colon after it. The scanner
  remembers, for each bracket level, the last place where such a key may have started; at the colon
  the key token, and the start of a block mapping if one is due, are put in before that place. A key
  must end on its line and within 1024 characters.

The scanner therefore stays ahead of its user: a token is handed out when two more follow it and no
possible key starts at it (`Scanner.supply`). What lies further ahead has not been read, and a fault
there is not known. Should a token be gone already when it turns out that a key started there, the
key token comes last instead.
-/

namespace Ricochet.Yaml

/-- A place where a key without a mark may have started. -/
structure PossibleKey where
  /-- Whether a colon may still make it one. -/
  possible : Bool
  /-- A required key stands at the column of its block: a scalar there must be a key. -/
  required : Bool
  /-- The number of the token that starts there. -/
  number : Nat
  index : Nat
  line : Nat
  column : Nat

/-- The state of the scanner. -/
structure Scanner where
  cursor : Cursor
  /-- All tokens so far, numbered from zero. -/
  tokens : Array Token
  /-- How many of them have been handed out. -/
  taken : Nat
  /-- The column of the innermost open block, `-1` outside all blocks. -/
  indent : Int
  /-- The columns of the blocks around it. -/
  outer : List Int
  /-- Whether a key without a mark may start here. -/
  keyAllowed : Bool
  /-- The possible key outside brackets and on each bracket level, outermost first. -/
  keys : Array PossibleKey
  /-- The tokens that wait for a possible key, by number, with the level of the key. -/
  waiting : List (Nat × Nat)
  /-- A bound on the length of the text, for loops. -/
  limit : Nat

namespace Scanner

/-- No possible key, at the place of a token. -/
def noKey (number : Nat) : PossibleKey :=
  { possible := false, required := false, number := number, index := 0, line := 0, column := 0 }

/-- The scanner at the start of a text. -/
def start (text : String) : Scanner :=
  let chars := text.toList
  { cursor := Cursor.start chars, tokens := #[], taken := 0, indent := -1, outer := [],
    keyAllowed := true, keys := #[noKey 0], waiting := [], limit := chars.length + 4 }

/-- The possible key of the innermost level. -/
def key (s : Scanner) : PossibleKey := s.keys.back?.getD (noKey 0)

/-- How many brackets are open. -/
def depth (s : Scanner) : Nat := s.keys.size - 1

/-- Whether the scanner is between brackets. -/
def inFlow (s : Scanner) : Bool := 0 < s.depth

/-- The greatest depth of blocks and of brackets. -/
def depthLimit : Nat := 10000

/-- Adds a token that starts at the cursor. -/
def push (s : Scanner) (kind : TokenKind) : Scanner :=
  { s with tokens := s.tokens.push ⟨kind, s.cursor.line⟩ }

/-- Adds a token of `n` characters and passes over them. -/
def pushChars (s : Scanner) (kind : TokenKind) (n : Nat) : Scanner :=
  { s.push kind with cursor := s.cursor.skip n }

/-- Puts a token in before the one with a number, or last if that one has been handed out. -/
def insert (s : Scanner) (number : Nat) (t : Token) : Scanner :=
  if number < s.taken then { s with tokens := s.tokens.push t }
  else { s with tokens := s.tokens.insertIdxIfInBounds number t }

/-! ## Blocks -/

/-- Closes the blocks right of a column. Between brackets indentation has no meaning. -/
def unroll (column : Int) (s : Scanner) : Scanner :=
  if s.inFlow then s else go s.outer s
where
  /-- One open block after the other. -/
  go : List Int → Scanner → Scanner
    | [], s => s
    | around :: outer, s =>
        if column < s.indent then
          go outer { s.push .blockEnd with indent := around, outer := outer }
        else s

/-- Opens a block at a column right of the innermost one; its start is put in at a number. -/
def roll (s : Scanner) (column : Nat) (number : Nat) (t : Token) : Except Fault Scanner :=
  if s.inFlow then .ok s
  else if s.indent < column then
    if depthLimit ≤ s.outer.length then faultFrom s.key.line s.cursor .depth
    else .ok { s.insert number t with indent := column, outer := s.indent :: s.outer }
  else .ok s

/-- Opens a block at the cursor. -/
def rollHere (s : Scanner) (kind : TokenKind) : Except Fault Scanner :=
  s.roll s.cursor.column s.tokens.size ⟨kind, s.cursor.line⟩

/-! ## Possible keys -/

/-- Replaces the possible key of a level. -/
def setKey (s : Scanner) (level : Nat) (k : PossibleKey) : Scanner :=
  { s with keys := s.keys.setIfInBounds level k }

/-- No token with this number waits any more. -/
def release (s : Scanner) (number : Nat) : Scanner :=
  { s with waiting := s.waiting.filter (fun w => w.1 ≠ number) }

/-- Whether the possible key of a level can still be one: the cursor is on its line and near enough.
A key that cannot be one is given up, and a required one must not be. -/
def checkKey (s : Scanner) (level : Nat) : Except Fault (Bool × Scanner) :=
  match s.keys[level]? with
  | none => .ok (false, s)
  | some k =>
      if !k.possible then .ok (false, s)
      else if k.line < s.cursor.line || k.index + 1024 < s.cursor.index then
        if k.required then faultFrom k.line s.cursor .missingColon
        else .ok (false, s.setKey level { k with possible := false })
      else .ok (true, s)

/-- Gives up the possible key of this level; a required one must not be given up. -/
def dropKey (s : Scanner) : Except Fault Scanner :=
  let k := s.key
  if !k.possible then .ok s
  else if k.required then faultFrom k.line s.cursor .missingColon
  else .ok ((s.setKey s.depth { k with possible := false }).release k.number)

/-- Remembers that a key may start here. -/
def saveKey (s : Scanner) : Except Fault Scanner :=
  if s.keyAllowed then do
    let s ← s.dropKey
    let number := s.tokens.size
    let k : PossibleKey :=
      { possible := true
        required := !s.inFlow && s.indent = s.cursor.column
        number := number
        index := s.cursor.index
        line := s.cursor.line
        column := s.cursor.column }
    let s := (s.setKey s.depth k).release number
    return { s with waiting := (number, s.depth) :: s.waiting }
  else .ok s

/-! ## White space and comments -/

/-- How far ahead a comment is looked for. -/
def commentReach : Nat := 512

/-- Looks for a comment after characters that satisfy `p`, `i` places ahead and further, as far as
`reach`: its distance, if there is one, and the cursor after loading what was looked at. -/
def findComment (p : Char → Bool) (i : Nat) : List Char → Nat → Cursor → Option Nat × Cursor
  | _, 0, c => (none, c)
  | [], _ + 1, c => (none, c.need (i + 1))
  | ch :: rest, reach + 1, c =>
      let c := c.need (i + 1)
      if ch = '#' then (some i, c)
      else if p ch then findComment p (i + 1) rest reach c
      else (none, c)

/-- Passes over white space up to a place. -/
def passTo (index : Nat) : Nat → Cursor → Cursor
  | 0, c => c
  | fuel + 1, c =>
      if index ≤ c.index then c
      else
        let c := c.need 1
        match c.break? with
        | some (_, c) => passTo index fuel c
        | none => passTo index fuel c.advance

/-- A comment, and the comments on the lines after it with nothing but white space between. Only
line feeds and carriage returns count as line ends here. -/
def passComments : Nat → Cursor → Cursor
  | 0, c => c
  | fuel + 1, c =>
      let c := c.passLine
      if c.sees (fun ch => ch = '\n' || ch = '\r') then
        let white (ch : Char) : Bool := isBlank ch || ch = '\n' || ch = '\r'
        match findComment white 1 c.rest.tail (commentReach - 1) c with
        | (some i, c) => passComments fuel (passTo (c.index + i) (i + 1) c)
        | (none, c) => c
      else c.need 2

/-- A comment after a token on its line. -/
def passLineComment (c : Cursor) : Cursor :=
  if c.fresh then c
  else
    match findComment isBlank 0 c.rest commentReach c with
    | (some i, c) => (passTo (c.index + i) (i + 1) c).passLine
    | (none, c) => c

/-- To the next token. Tabs are passed over between brackets and where no key may start. After a
line break a key may start. -/
def toNextToken : Nat → Scanner → Scanner
  | 0, s => s
  | fuel + 1, s =>
      let c := s.cursor.need 1
      let c := if c.column = 0 && c.marked then c.advance else c
      let tabs := s.inFlow || !s.keyAllowed
      let c := c.passWhile (fun ch => ch = ' ' || (tabs && ch = '\t'))
      let c := if c.isAt '#' then passComments (fuel + 1) c else c
      match c.break? with
      | some (_, c) =>
          toNextToken fuel { s with cursor := c, keyAllowed := s.keyAllowed || !s.inFlow }
      | none => { s with cursor := c }

/-! ## One token -/

/-- Ends all blocks before a token that stands outside them. -/
def leaveBlocks (s : Scanner) : Except Fault Scanner := do
  let s ← (s.unroll (-1)).dropKey
  return { s with keyAllowed := false }

/-- The end of the text. -/
def fetchEnd (s : Scanner) : Except Fault Scanner := do
  let c := s.cursor
  let c := if c.column = 0 then c else { c with column := 0, line := c.line + 1 }
  let s ← Scanner.leaveBlocks { s with cursor := c }
  return s.push .streamEnd

/-- An opening bracket: a possible key may start there and inside. -/
def fetchOpen (s : Scanner) (kind : TokenKind) : Except Fault Scanner := do
  let s ← s.saveKey
  if depthLimit ≤ s.depth then faultAt s.cursor .depth
  else
    let number := s.tokens.size
    let s := s.pushChars kind 1
    return { s with keys := s.keys.push (noKey number), keyAllowed := true }

/-- Leaves a bracket level. The token of its last possible key waits no more; while no key was
possible inside, that is the opening bracket itself. -/
def closeLevel (s : Scanner) : Scanner :=
  if s.inFlow then { s.release s.key.number with keys := s.keys.pop } else s

/-- A closing bracket. -/
def fetchClose (s : Scanner) (kind : TokenKind) : Except Fault Scanner := do
  let s ← s.dropKey
  return { s.closeLevel.pushChars kind 1 with keyAllowed := false }

/-- A comma. -/
def fetchFlowEntry (s : Scanner) : Except Fault Scanner := do
  let s ← s.dropKey
  return { s.pushChars .flowEntry 1 with keyAllowed := true }

/-- The dash of a block sequence. -/
def fetchBlockEntry (s : Scanner) : Except Fault Scanner := do
  let s ←
    if s.inFlow then .ok s
    else if !s.keyAllowed then faultAt s.cursor .entryPlace
    else s.rollHere .blockSequenceStart
  let s ← s.dropKey
  return { s.pushChars .blockEntry 1 with keyAllowed := true }

/-- The question mark of a key. -/
def fetchKey (s : Scanner) : Except Fault Scanner := do
  let s ←
    if s.inFlow then .ok s
    else if !s.keyAllowed then faultAt s.cursor .keyPlace
    else s.rollHere .blockMappingStart
  let s ← s.dropKey
  return { s.pushChars .key 1 with keyAllowed := !s.inFlow }

/-- A colon after a key without a mark: the key token goes in before the key, and the start of its
mapping before that. -/
def fetchValueOf (s : Scanner) (k : PossibleKey) : Except Fault Scanner := do
  let s ← (s.insert k.number ⟨.key, k.line⟩).roll k.column k.number ⟨.blockMappingStart, k.line⟩
  let s := (s.setKey s.depth { k with possible := false }).release k.number
  return { s.pushChars .value 1 with keyAllowed := false }

/-- A colon after a key that is written out, or missing. -/
def fetchValueAlone (s : Scanner) : Except Fault Scanner := do
  let s ←
    if s.inFlow then .ok s
    else if !s.keyAllowed then faultAt s.cursor .valuePlace
    else s.rollHere .blockMappingStart
  return { s.pushChars .value 1 with keyAllowed := !s.inFlow }

/-- A colon. -/
def fetchValue (s : Scanner) : Except Fault Scanner := do
  match ← s.checkKey s.depth with
  | (true, s) => s.fetchValueOf s.key
  | (false, s) => s.fetchValueAlone

/-- An anchor or an alias. -/
def fetchName (s : Scanner) (kind : List Char → TokenKind) : Except Fault Scanner := do
  let s ← s.saveKey
  let (name, c) ← readAnchor s.cursor
  return { s.push (kind name) with cursor := c, keyAllowed := false }

/-- A tag. -/
def fetchTag (s : Scanner) : Except Fault Scanner := do
  let s ← s.saveKey
  let (handle, suffix, c) ← readTag s.limit s.cursor
  return { s.push (.tag handle suffix) with cursor := c, keyAllowed := false }

/-- A block scalar. -/
def fetchBlockScalar (s : Scanner) (literal : Bool) : Except Fault Scanner := do
  let s ← s.dropKey
  let (text, c) ← readBlock literal s.indent s.limit s.cursor.advance
  return { s.push (.scalar text false) with cursor := c, keyAllowed := true }

/-- A quoted scalar. -/
def fetchQuoted (s : Scanner) (single : Bool) : Except Fault Scanner := do
  let s ← s.saveKey
  let (text, c) ← readQuoted single s.limit [] s.cursor.advance
  return { s.push (.scalar text false) with cursor := c, keyAllowed := false }

/-- A plain scalar. After a line break a key may start. -/
def fetchPlain (s : Scanner) : Except Fault Scanner := do
  let s ← s.saveKey
  let (text, broken, c) ← readPlain s.inFlow (s.indent + 1).toNat s.limit [] Gap.none s.cursor
  return { s.push (.scalar text true) with cursor := c, keyAllowed := broken }

/-- Whether a plain scalar starts with `ch` when `next` follows. -/
def startsPlain (s : Scanner) (ch : Char) (next : Option Char) : Bool :=
  if ch = '-' then !(next.map isBlank).getD false
  else if ch = '?' || ch = ':' then !s.inFlow && !endsWord next
  else !isIndicator ch && !isSpace ch

/-- The token that starts with `ch`. -/
def fetchAt (s : Scanner) (ch : Char) : Except Fault Scanner :=
  let next := s.cursor.ahead? 1
  if ch = '[' then s.fetchOpen .flowSequenceStart
  else if ch = '{' then s.fetchOpen .flowMappingStart
  else if ch = ']' then s.fetchClose .flowSequenceEnd
  else if ch = '}' then s.fetchClose .flowMappingEnd
  else if ch = ',' then s.fetchFlowEntry
  else if ch = '-' && endsWord next then s.fetchBlockEntry
  else if ch = '?' && (s.inFlow || endsWord next) then s.fetchKey
  else if ch = ':' && (s.inFlow || endsWord next) then s.fetchValue
  else if ch = '*' then s.fetchName .alias
  else if ch = '&' then s.fetchName .anchor
  else if ch = '!' then s.fetchTag
  else if ch = '|' && !s.inFlow then s.fetchBlockScalar true
  else if ch = '>' && !s.inFlow then s.fetchBlockScalar false
  else if ch = '\'' then s.fetchQuoted true
  else if ch = '"' then s.fetchQuoted false
  else if s.startsPlain ch next then s.fetchPlain
  else faultAt s.cursor .noToken

/-- Reads one token, together with the block ends before it. A comment after it on its line goes
too, except after a dash. -/
def fetchNext (s : Scanner) : Except Fault Scanner := do
  let s := toNextToken s.limit { s with cursor := s.cursor.need 1 }
  let s := s.unroll s.cursor.column
  let s := { s with cursor := { s.cursor.need 4 with origin := s.cursor.line } }
  match s.cursor.head? with
  | none => s.fetchEnd
  | some ch =>
      if s.cursor.column = 0 && ch = '%' then
        let s ← s.leaveBlocks
        let (kind, c) ← readDirective s.limit s.cursor
        return { s.push kind with cursor := c }
      else if s.cursor.atMark '-' then
        let s ← s.leaveBlocks
        return s.pushChars .documentStart 3
      else if s.cursor.atMark '.' then
        let s ← s.leaveBlocks
        return s.pushChars .documentEnd 3
      else
        let s ← s.fetchAt ch
        if (s.tokens.back?.map (·.kind)) = some .blockEntry then return s
        else return { s with cursor := passLineComment s.cursor }

/-- Reads one token. A character that is not allowed is a fault as soon as it is loaded. -/
def fetch (s : Scanner) : Except Fault Scanner := do
  let s ← s.fetchNext
  if s.cursor.spoiled then .error (Fault.placeless .character) else return s

/-! ## Handing out -/

/-- Reads on until the next token can be handed out. -/
def supplyWithin : Nat → Scanner → Except Fault Scanner
  | 0, s => .ok s
  | fuel + 1, s => do
      if s.taken + 2 < s.tokens.size then
        match s.waiting.lookup s.taken with
        | none => return s
        | some level =>
            match ← s.checkKey level with
            | (true, s) => supplyWithin fuel (← s.fetch)
            | (false, s) => return s
      else supplyWithin fuel (← s.fetch)

/-- Reads on until the next token can be handed out. Every token but the last has a character of
its own. -/
def supply (s : Scanner) : Except Fault Scanner := supplyWithin s.limit s

/-- The next token. -/
def next (s : Scanner) : Token := s.tokens[s.taken]?.getD ⟨.streamEnd, s.cursor.line⟩

/-- Hands out the next token. -/
def take (s : Scanner) : Scanner := { s.release s.taken with taken := s.taken + 1 }

end Scanner

end Ricochet.Yaml
