import Ricochet.Yaml.Token.Scan
import Ricochet.Yaml.Value

set_option autoImplicit false

/-! # YAML documents

The first document of a text is a tree of nodes. `Document.ofText` builds it by recursive descent,
taking tokens from a scanner one by one, so that a fault behind the document does no harm beyond the
few tokens that the scanner is ahead. Anchored nodes are numbered as they start, and an alias refers
to a number, so that an alias always means the latest node of its name before it.
-/

namespace Ricochet.Yaml

/-- A node, its tag in short form, and its line counted from one. -/
inductive Node where
  | scalar (tag : String) (text : String) (line : Nat)
  | sequence (tag : String) (items : List Node) (line : Nat)
  | mapping (tag : String) (entries : List (Node × Node)) (line : Nat)
  | alias (number : Nat) (name : String) (target : Nat) (line : Nat)

namespace Node

/-- The line a node starts on. -/
def line : Node → Nat
  | .scalar _ _ line => line
  | .sequence _ _ line => line
  | .mapping _ _ line => line
  | .alias _ _ _ line => line

/-- Whether a node is a mapping. -/
def isMapping : Node → Bool
  | .mapping .. => true
  | _ => false

end Node

/-- A document: its root, or nothing for a text without one, and the anchored nodes by number. -/
structure Document where
  root : Option Node
  anchored : List (Nat × Node)
  /-- A bound on the number of its nodes. -/
  size : Nat

/-- The state of building a document. -/
structure Builder where
  scanner : Scanner
  /-- Whether the next token is known. -/
  ready : Bool
  /-- What tag handles stand for. -/
  handles : List (List Char × List Char)
  /-- The number of the latest node of each anchor name. -/
  names : List (String × Nat)
  anchored : List (Nat × Node)
  nextAnchor : Nat
  nextAlias : Nat

/-- A step of building that may fail. -/
abbrev Build (β : Type) : Type := StateT Builder (Except Fault) β

namespace Build

/-- Fails at a token, in a construct that began on line `origin`. -/
def failFrom {β : Type} (origin : Nat) (t : Token) (p : Problem) : Build β :=
  throw (Fault.parsing origin t.line p)

/-- Fails at a token. -/
def fail {β : Type} (t : Token) (p : Problem) : Build β := failFrom t.line t p

/-- The next token. -/
def peek : Build Token := do
  let b ← get
  if b.ready then return b.scanner.next
  else
    match b.scanner.supply with
    | .error fault => throw fault
    | .ok scanner =>
        set { b with scanner := scanner, ready := true }
        return scanner.next

/-- Drops the next token. -/
def drop : Build Unit := modify fun b => { b with scanner := b.scanner.take, ready := false }

/-- Drops the next token if it is of a kind, and tells whether it was. -/
def take (kind : TokenKind) : Build Bool := do
  let t ← peek
  if t.kind = kind then drop; return true
  else return false

/-- Numbers an anchored node at its start. -/
def anchorNumber (name : Option (List Char)) : Build (Option Nat) := do
  match name with
  | none => return none
  | some name =>
      let b ← get
      set { b with
        names := (String.ofList name, b.nextAnchor) :: b.names
        nextAnchor := b.nextAnchor + 1 }
      return some b.nextAnchor

/-- Records a finished node under its number. -/
def record (number : Option Nat) (n : Node) : Build Node := do
  match number with
  | none => return n
  | some k =>
      modify fun b => { b with anchored := (k, n) :: b.anchored }
      return n

/-- The node of an alias. -/
def aliasNode (name : List Char) (line : Nat) : Build Node := do
  let b ← get
  let name := String.ofList name
  match b.names.lookup name with
  | none => throw (Fault.placeless (.unknownAnchor name))
  | some target =>
      set { b with nextAlias := b.nextAlias + 1 }
      return .alias b.nextAlias name target (line + 1)

/-- What the standard tags start with when written in full. -/
def standardTag : List Char := "tag:yaml.org,2002:".toList

/-- A tag in short form: `!!` for the standard start. -/
def shortTag (full : List Char) : String :=
  if standardTag.isPrefixOf full then String.ofList ('!' :: '!' :: full.drop standardTag.length)
  else String.ofList full

/-- The tag that a handle and a suffix stand for; nothing for the lone `!`. The tag belongs to a
node that began on line `origin`. -/
def resolveTag (origin : Nat) (t : Token) (handle suffix : List Char) : Build (Option String) := do
  let full ←
    if handle.isEmpty then pure suffix
    else
      match (← get).handles.lookup handle with
      | some shorthand => pure (shorthand ++ suffix)
      | none => failFrom origin t .tagHandle
  if full = ['!'] then return none else return some (shortTag full)

/-- What stands before the content of a node: an anchor and a tag in either order, and the line
they start on. -/
structure Properties where
  anchor : Option (List Char)
  tag : Option Token
  line : Nat

/-- Whether there is an anchor or a tag. -/
def Properties.present (p : Properties) : Bool := p.anchor.isSome || p.tag.isSome

/-- Reads an anchor and a tag. -/
def properties : Build Properties := do
  let first ← peek
  match first.kind with
  | .anchor name =>
      drop
      let second ← peek
      match second.kind with
      | .tag .. =>
          drop
          return ⟨some name, some second, first.line⟩
      | _ => return ⟨some name, none, first.line⟩
  | .tag .. =>
      drop
      let second ← peek
      match second.kind with
      | .anchor name =>
          drop
          return ⟨some name, some first, first.line⟩
      | _ => return ⟨none, some first, first.line⟩
  | _ => return ⟨none, none, first.line⟩

/-- The tag among the properties of a node, if one is written. -/
def Properties.writtenTag (p : Properties) : Build (Option String) := do
  match p.tag with
  | some t =>
      match t.kind with
      | .tag handle suffix => resolveTag p.line t handle suffix
      | _ => return none
  | none => return none

/-- The tag of a scalar: the one written, or what its form tells. The plain scalar `<<` has a tag of
its own. -/
def scalarTag (written : Option String) (text : String) (plain : Bool) : String :=
  match written with
  | some tag => tag
  | none =>
      if !plain then "!!str"
      else if text = "<<" then "!!merge"
      else (Value.ofPlain text).tag

/-- The empty scalar that stands for missing content. -/
def missing (line : Nat) : Node := .scalar "!!null" "" (line + 1)

/-- How a node may be written. -/
structure Style where
  /-- Outside brackets. -/
  block : Bool
  /-- Dashes may stand at the column of the mapping around. -/
  dashes : Bool

/-- The style of nodes outside brackets, but not in a mapping. -/
def Style.inBlock : Style := ⟨true, false⟩

/-- The style of keys and values outside brackets. -/
def Style.inMapping : Style := ⟨true, true⟩

/-- The style of nodes between brackets. -/
def Style.inFlow : Style := ⟨false, false⟩

/-- Whether a token shows that a key or value outside brackets is missing. -/
def endsBlockPart (k : TokenKind) : Bool := k = .key || k = .value || k = .blockEnd

/-- Whether a token shows that a value in a bracketed sequence is missing. -/
def endsSequencePart (k : TokenKind) : Bool := k = .flowEntry || k = .flowSequenceEnd

/-- Whether a token shows that a value in a bracketed mapping is missing. -/
def endsMappingPart (k : TokenKind) : Bool := k = .flowEntry || k = .flowMappingEnd

mutual

/-- Reads a node. -/
def node (style : Style) : Nat → Build Node
  | 0 => do fail (← peek) .depth
  | fuel + 1 => do
      let start ← peek
      match start.kind with
      | .alias name =>
          let n ← aliasNode name start.line
          drop
          return n
      | _ =>
          let p ← properties
          let t ← peek
          let tag ← p.writtenTag
          let line := p.line + 1
          match t.kind with
          | .scalar text plain =>
              let number ← anchorNumber p.anchor
              drop
              let text := String.ofList text
              record number (.scalar (scalarTag tag text plain) text line)
          | .flowSequenceStart =>
              let number ← anchorNumber p.anchor
              drop
              let items ← flowItems t.line fuel []
              record number (.sequence (tag.getD "!!seq") items line)
          | .flowMappingStart =>
              let number ← anchorNumber p.anchor
              drop
              let entries ← flowEntries t.line fuel []
              record number (.mapping (tag.getD "!!map") entries line)
          | kind =>
              if style.dashes && kind = .blockEntry then
                let number ← anchorNumber p.anchor
                let items ← dashItems fuel []
                record number (.sequence (tag.getD "!!seq") items line)
              else if style.block && kind = .blockSequenceStart then
                let number ← anchorNumber p.anchor
                drop
                let items ← blockItems t.line fuel []
                record number (.sequence (tag.getD "!!seq") items line)
              else if style.block && kind = .blockMappingStart then
                let number ← anchorNumber p.anchor
                drop
                let entries ← blockEntries t.line fuel []
                record number (.mapping (tag.getD "!!map") entries line)
              else if p.present then
                let number ← anchorNumber p.anchor
                record number (.scalar (tag.getD "!!null") "" line)
              else failFrom p.line t .nodeContent
termination_by structural fuel => fuel

/-- The items of a block sequence that began on line `origin`, each after a dash, after those in
`items`, latest first. -/
def blockItems (origin : Nat) : Nat → List Node → Build (List Node)
  | 0, _ => do fail (← peek) .depth
  | fuel + 1, items => do
      let t ← peek
      match t.kind with
      | .blockEntry =>
          drop
          let next ← peek
          let item ←
            if next.kind = .blockEntry || next.kind = .blockEnd then pure (missing t.line)
            else node Style.inBlock fuel
          blockItems origin fuel (item :: items)
      | .blockEnd =>
          drop
          return items.reverse
      | _ => failFrom origin t .blockEntry
termination_by structural fuel => fuel

/-- The items of a sequence whose dashes stand at the column of the mapping around, after those in
`items`, latest first. -/
def dashItems : Nat → List Node → Build (List Node)
  | 0, _ => do fail (← peek) .depth
  | fuel + 1, items => do
      let t ← peek
      match t.kind with
      | .blockEntry =>
          drop
          let next ← peek
          let item ←
            if next.kind = .blockEntry || endsBlockPart next.kind then pure (missing t.line)
            else node Style.inBlock fuel
          dashItems fuel (item :: items)
      | _ => return items.reverse
termination_by structural fuel => fuel

/-- The entries of a block mapping that began on line `origin`, after those in `entries`, latest
first. -/
def blockEntries (origin : Nat) : Nat → List (Node × Node) → Build (List (Node × Node))
  | 0, _ => do fail (← peek) .depth
  | fuel + 1, entries => do
      let t ← peek
      match t.kind with
      | .key =>
          drop
          let next ← peek
          let key ←
            if endsBlockPart next.kind then pure (missing t.line) else node Style.inMapping fuel
          let mark ← peek
          let value ←
            if mark.kind = .value then do
              drop
              let next ← peek
              if endsBlockPart next.kind then pure (missing mark.line)
              else node Style.inMapping fuel
            else pure (missing mark.line)
          blockEntries origin fuel ((key, value) :: entries)
      | .blockEnd =>
          drop
          return entries.reverse
      | _ => failFrom origin t .blockKey
termination_by structural fuel => fuel

/-- The items of a sequence between brackets that began on line `origin`, separated by commas, after
those in `items`, latest first; a comma may end them. -/
def flowItems (origin : Nat) : Nat → List Node → Build (List Node)
  | 0, _ => do fail (← peek) .depth
  | fuel + 1, items => do
      if ← take .flowSequenceEnd then return items.reverse
      else
        let comma ← if items.isEmpty then pure true else take .flowEntry
        let t ← peek
        if !comma then failFrom origin t .flowItem
        else
          match t.kind with
          | .flowSequenceEnd =>
              drop
              return items.reverse
          | .key =>
              drop
              let entry ← flowPair fuel
              flowItems origin fuel (.mapping "!!map" [entry] (t.line + 1) :: items)
          | _ =>
              let item ← node Style.inFlow fuel
              flowItems origin fuel (item :: items)
termination_by structural fuel => fuel

/-- A single entry inside a sequence between brackets, after its key token. -/
def flowPair : Nat → Build (Node × Node)
  | 0 => do fail (← peek) .depth
  | fuel + 1 => do
      let t ← peek
      let key ←
        if t.kind = .value || endsSequencePart t.kind then do
          drop
          pure (missing t.line)
        else node Style.inFlow fuel
      let mark ← peek
      if mark.kind = .value then
        drop
        let next ← peek
        if endsSequencePart next.kind then return (key, missing next.line)
        else return (key, ← node Style.inFlow fuel)
      else return (key, missing mark.line)
termination_by structural fuel => fuel

/-- The entries of a mapping between brackets that began on line `origin`, separated by commas,
after those in `entries`, latest first; a comma may end them. -/
def flowEntries (origin : Nat) : Nat → List (Node × Node) → Build (List (Node × Node))
  | 0, _ => do fail (← peek) .depth
  | fuel + 1, entries => do
      if ← take .flowMappingEnd then return entries.reverse
      else
        let comma ← if entries.isEmpty then pure true else take .flowEntry
        let t ← peek
        if !comma then failFrom origin t .flowEntry
        else
          match t.kind with
          | .flowMappingEnd =>
              drop
              return entries.reverse
          | .key =>
              drop
              let next ← peek
              let key ←
                if next.kind = .value || endsMappingPart next.kind then pure (missing next.line)
                else node Style.inFlow fuel
              let mark ← peek
              let value ←
                if mark.kind = .value then do
                  drop
                  let next ← peek
                  if endsMappingPart next.kind then pure (missing next.line)
                  else node Style.inFlow fuel
                else pure (missing mark.line)
              flowEntries origin fuel ((key, value) :: entries)
          | _ =>
              let key ← node Style.inFlow fuel
              let next ← peek
              flowEntries origin fuel ((key, missing next.line) :: entries)
termination_by structural fuel => fuel

end

/-- The handles that stand for something without a directive. -/
def standardHandles : List (List Char × List Char) :=
  [(['!'], ['!']), (['!', '!'], standardTag)]

/-- The directives before a document. A version other than 1.1 is not read, and a directive must
not be repeated. -/
def directives : Nat → Bool → Build Unit
  | 0, _ => return ()
  | fuel + 1, versioned => do
      let t ← peek
      match t.kind with
      | .version major minor =>
          drop
          if versioned then fail t .repeatedVersion
          else if major ≠ 1 || minor ≠ 1 then fail t .version
          else directives fuel true
      | .tagDirective handle shorthand =>
          drop
          let b ← get
          if (b.handles.lookup handle).isSome then fail t .repeatedHandle
          else
            set { b with handles := (handle, shorthand) :: b.handles }
            directives fuel versioned
      | _ => return ()

/-- Whether a token shows that an explicit document has no content. -/
def endsDocument : TokenKind → Bool
  | .version .. => true
  | .tagDirective .. => true
  | .documentStart => true
  | .documentEnd => true
  | .streamEnd => true
  | _ => false

/-- Whether a token starts an explicit document. -/
def startsDocument : TokenKind → Bool
  | .version .. => true
  | .tagDirective .. => true
  | .documentStart => true
  | _ => false

/-- The root of the first document, if the text has one. The token after it is looked at. -/
def document (fuel : Nat) : Build (Option Node) := do
  let t ← peek
  if t.kind = .streamEnd then return none
  else
    let root ←
      if startsDocument t.kind then do
        directives fuel false
        modify fun b => { b with handles := b.handles ++ standardHandles }
        let start ← peek
        if start.kind ≠ .documentStart then fail start .documentStart
        else
          drop
          let t ← peek
          if endsDocument t.kind then pure (missing t.line) else node Style.inBlock fuel
      else do
        modify fun b => { b with handles := standardHandles }
        node Style.inBlock fuel
    let _ ← peek
    return some root

end Build

/-- The first document of a text. -/
def Document.ofText (text : String) : Except Fault Document := do
  let scanner := Scanner.start text
  let size := 4 * scanner.limit
  let start : Builder :=
    { scanner := scanner, ready := false, handles := [], names := [], anchored := [],
      nextAnchor := 0, nextAlias := 0 }
  let (root, b) ← (Build.document (2 * size)).run start
  return { root := root, anchored := b.anchored, size := size }

end Ricochet.Yaml
