import Ricochet.Numeric.Scalar
import Ricochet.Text.Quoted
import Ricochet.Yaml.Node

set_option autoImplicit false

/-! # Fitting a document to a type

A `Shape` tells how a type is read from scalars, sequences and mappings. Reading starts from a value
and changes what the document speaks of: a null changes nothing. What does not fit is collected and
reading goes on, so that one report lists everything (`Mismatch`); only a document that means
nothing is given up at once (`Fault`).

A mapping that repeats a key is reported and not read. The key `<<` merges other mappings: keys of
the mapping itself win over merged ones, and earlier merged mappings over later ones. To know its
own keys a mapping that merges reads them a second time, without a type in mind (`Shape.any`); a key
that is itself a sequence or a mapping cannot be looked up, and reading breaks down.
-/

namespace Ricochet.Yaml

/-- Something in a document that does not fit. -/
inductive Mismatch where
  /-- A value of the wrong kind: its line, its tag, its text if it is a scalar, the wanted type. -/
  | kind (line : Nat) (tag : String) (text : String) (wanted : String)
  /-- A key that its mapping has already. -/
  | repeatedKey (line : Nat) (key : String) (firstLine : Nat)
  /-- A field named twice in different ways. -/
  | repeatedField (line : Nat) (name : String) (wanted : String)
  deriving DecidableEq, Repr

namespace Mismatch

/-- A text of more than ten bytes is cut to seven, be it inside a character. -/
def excerpt (s : String) : List UInt8 :=
  let bytes := Utf8.bytes s
  if 10 < bytes.length then bytes.take 7 ++ Utf8.bytes "..." else bytes

/-- A text as the report shows it: between marks, except under the tags of sequences and mappings,
which have no text of their own. -/
def shown (tag text : String) : List UInt8 :=
  if tag = "!!seq" ∨ tag = "!!map" then Utf8.bytes text
  else Utf8.bytes " `" ++ excerpt text ++ Utf8.bytes "`"

/-- One line of the report, as bytes. -/
def message : Mismatch → List UInt8
  | .kind line tag text wanted =>
      Utf8.bytes ("line " ++ Decimal.intText line ++ ": cannot unmarshal " ++ tag)
        ++ shown tag text ++ Utf8.bytes (" into " ++ wanted)
  | .repeatedKey line key first =>
      Utf8.bytes ("line " ++ Decimal.intText line ++ ": mapping key " ++ Text.quote key
        ++ " already defined at line " ++ Decimal.intText first)
  | .repeatedField line name wanted =>
      Utf8.bytes ("line " ++ Decimal.intText line ++ ": field " ++ name
        ++ " already set in type " ++ wanted)

end Mismatch

/-- Why a text gives no value. -/
inductive Error where
  | fault (fault : Fault)
  | mismatches (ms : List Mismatch)
  /-- A mapping that merges has a key that cannot be looked up. -/
  | breakdown
  deriving DecidableEq, Repr

/-- The message of a text that gives no value, as bytes. -/
def Error.message : Error → List UInt8
  | .fault f => Utf8.bytes f.message
  | .mismatches ms =>
      Utf8.bytes "yaml: unmarshal errors:" ++ ms.flatMap fun m => Utf8.bytes "\n  " ++ m.message
  | .breakdown => Utf8.bytes "yaml: key that cannot be looked up"

/-- Why reading stops at once. -/
inductive Stop where
  | fault (fault : Fault)
  | breakdown
  deriving DecidableEq, Repr

/-- The error of a reading that stopped. -/
def Stop.error : Stop → Error
  | .fault f => .fault f
  | .breakdown => .breakdown

/-- The state of reading. -/
structure Reading where
  /-- The mismatches so far, latest first. -/
  mismatches : List Mismatch
  /-- How many nodes were read, and how many of them through an alias. -/
  nodes : Nat
  aliased : Nat
  /-- The aliases being followed. -/
  following : List Nat
  /-- While merging: the keys that are already spoken for. -/
  taken : Option (List Value)

/-- A step of reading. -/
abbrev Read (β : Type) : Type := StateT Reading (Except Stop) β

/-- How a type is read. Each function takes the value so far and tells whether it was set. -/
structure Shape (β : Type) where
  /-- The name of the type in reports. -/
  name : String
  /-- From a scalar with a meaning; `none` does not fit. -/
  ofScalar : Value → String → Option β
  /-- From a null. -/
  ofNull : β → Bool × β
  /-- From the items of a sequence. -/
  ofItems : Option (List Node → β → Read (Bool × β))
  /-- From the entries of a mapping. -/
  ofEntries : Option (List (Node × Node) → β → Read (Bool × β))

/-- The anchored nodes of a document, by number. -/
abbrev Anchors : Type := List (Nat × Node)

namespace Read

/-- Stops at a problem that has no place. -/
def stop {β : Type} (p : Problem) : Read β := throw (.fault (Fault.placeless p))

/-- Adds a mismatch to the report. -/
def report (m : Mismatch) : Read Unit := modify fun r => { r with mismatches := m :: r.mismatches }

/-- The share of nodes that may be read through aliases. -/
def allowedShare (nodes : Nat) : Float :=
  if nodes ≤ 400000 then 0.99
  else if 4000000 ≤ nodes then 0.10
  else 0.99 - 0.89 * ((nodes - 400000).toFloat / 3600000.0)

/-- Counts a node. A large document that is mostly aliases is given up. -/
def count : Read Unit := do
  let r ← get
  let nodes := r.nodes + 1
  let aliased := if r.following.isEmpty then r.aliased else r.aliased + 1
  set { r with nodes := nodes, aliased := aliased }
  if 100 < aliased && 1000 < nodes
      && decide (allowedShare nodes < aliased.toFloat / nodes.toFloat) then
    stop .excessiveAliases

/-- The text by which two keys are compared: of a scalar its text, of an alias its name. Keys of
different kinds differ. -/
def keyText : Node → Nat × String
  | .scalar _ text _ => (0, text)
  | .sequence .. => (1, "")
  | .mapping .. => (2, "")
  | .alias _ name _ _ => (3, name)

/-- Reports every pair of equal keys of a mapping, and tells whether there was one. -/
def reportRepeated : List (Node × Node) → Read Bool
  | [] => return false
  | (k, _) :: rest => do
      let same := rest.filter fun e => keyText e.1 = keyText k
      same.forM fun e => report (.repeatedKey e.1.line (keyText e.1).2 k.line)
      let later ← reportRepeated rest
      return !same.isEmpty || later

/-- Reports a node that does not fit. -/
def misfit {β : Type} (wanted : String) (line : Nat) (tag text : String) (old : β) :
    Read (Bool × β) := do
  report (.kind line tag text wanted)
  return (false, old)

/-- Reads a node that is no alias. -/
def plainNode {β : Type} (shape : Shape β) (n : Node) (old : β) : Read (Bool × β) := do
  match n with
  | .scalar tag text line =>
      match Value.tagged tag text with
      | .error p => stop p
      | .ok .null => return shape.ofNull old
      | .ok v =>
          match shape.ofScalar v text with
          | some new => return (true, new)
          | none => misfit shape.name line tag text old
  | .sequence tag items line =>
      match shape.ofItems with
      | some read => read items old
      | none => misfit shape.name line tag "" old
  | .mapping tag entries line =>
      if ← reportRepeated entries then return (false, old)
      else
        match shape.ofEntries with
        | some read => read entries old
        | none => misfit shape.name line tag "" old
  | .alias .. => return (false, old)

/-- The node an alias refers to. -/
def target? (anchored : Anchors) : Node → Option Node
  | .alias _ _ target _ => anchored.lookup target
  | n => some n

/-- Reads a node, through an alias if it is one. An alias inside the node it refers to is a
fault. -/
def node {β : Type} (anchored : Anchors) (shape : Shape β) (n : Node) (old : β) :
    Read (Bool × β) := do
  count
  match n with
  | .alias number name target _ =>
      let r ← get
      if r.following.contains number then stop (.selfReference name)
      else
        match anchored.lookup target with
        | none => stop (.unknownAnchor name)
        | some t =>
            set { r with following := number :: r.following }
            count
            let result ← plainNode shape t old
            modify fun r => { r with following := r.following.tail }
            return result
  | n => plainNode shape n old

end Read

/-! ## Shapes -/

namespace Shape

/-- A null leaves the value as it is. -/
def keep {β : Type} (old : β) : Bool × β := (false, old)

/-- Decimal numbers, also written as integers. -/
def float : Shape Float where
  name := "float64"
  ofScalar v _ :=
    match v with
    | .int n => some (if n ≤ maxWord then floatOfWord n else n.toNat.toUInt64.toFloat)
    | .float x => some x
    | _ => none
  ofNull := keep
  ofItems := none
  ofEntries := none

/-- Signed words, also written as decimal numbers, whose fraction is dropped. A number above the
words does not fit; one below them becomes the least. -/
def int : Shape Int where
  name := "int"
  ofScalar v _ :=
    match v with
    | .int n => if n ≤ maxWord then some n else none
    | .float x => if x ≤ 9223372036854775808.0 then some (Scalar.truncInt x) else none
    | _ => none
  ofNull := keep
  ofItems := none
  ofEntries := none

/-- Texts: any scalar; one that is no text as it is written. -/
def text : Shape (List UInt8) where
  name := "string"
  ofScalar v written :=
    match v with
    | .text content => some content
    | _ => some (Utf8.bytes written)
  ofNull := keep
  ofItems := none
  ofEntries := none

/-- Lists of a type, none at first. A null means that there is no list. Items that are not set are
left out. -/
def list {β : Type} (anchored : Anchors) (item : Shape β) (start : β) :
    Shape (Option (List β)) where
  name := "[]" ++ item.name
  ofScalar _ _ := none
  ofNull _ := (true, none)
  ofItems := some fun items _ => do
    let read ← items.mapM fun n => Read.node anchored item n start
    return (true, some (read.filterMap fun (set, v) => if set then some v else none))
  ofEntries := none

/-- What is read from mappings only. -/
def ofMapping {β : Type} (name : String) (read : List (Node × Node) → β → Read β) : Shape β where
  name := name
  ofScalar _ _ := none
  ofNull := keep
  ofItems := none
  ofEntries := some fun entries old => do return (true, ← read entries old)

/-! ### Merging -/

/-- Whether a key merges other mappings. -/
def isMerge : Node → Bool
  | .scalar tag text _ => tag = "!!merge" && text = "<<"
  | _ => false

/-- What the mapping merges: the value of its last merging key. -/
def mergeSource? (entries : List (Node × Node)) : Option Node :=
  ((entries.filter fun e => isMerge e.1).getLast?).map Prod.snd

/-- Reads what is merged: a mapping, an alias of one, or a list of those in order. -/
def readSources {β : Type} (anchored : Anchors) (shape : Shape β) (source : Node) (old : β) :
    Read β := do
  let one (old : β) (n : Node) : Read β := do
    if ((Read.target? anchored n).map Node.isMapping).getD false then
      return (← Read.node anchored shape n old).2
    else Read.stop .mergeSource
  match source with
  | .sequence _ items _ => items.foldlM one old
  | n => one old n

/-- Reads the entries of a mapping and then what it merges. `entries` are read by `own`, which takes
and returns the keys already spoken for; merged mappings are read by `merged`. A mapping that is not
merged itself collects its own keys first, by `collect`. -/
def readMerging {β : Type} (anchored : Anchors)
    (own : Option (List Value) → β → Read (Option (List Value) × β)) (collect : Read Unit)
    (merged : Shape β) (entries : List (Node × Node)) (old : β) : Read β := do
  let taken := (← get).taken
  modify fun r => { r with taken := none }
  let (taken, new) ← own taken old
  modify fun r => { r with taken := taken }
  match mergeSource? entries with
  | none => return new
  | some source =>
      if taken.isNone then
        modify fun r => { r with taken := some [] }
        collect
        let new ← readSources anchored merged source new
        modify fun r => { r with taken := none }
        return new
      else readSources anchored merged source new

/-! ### Reading without a type -/

/-- What reading without a type keeps of a node. -/
inductive Untyped where
  | scalar (v : Value)
  | compound

/-- Whether all keys of a mapping are texts by their tags. -/
def hasTextKeys (anchored : Anchors) (entries : List (Node × Node)) : Bool :=
  entries.all fun (k, _) =>
    match Read.target? anchored k with
    | some (.scalar tag _ _) => tag = "!!str" || tag = "!!merge"
    | some (.sequence tag _ _) => tag = "!!str" || tag = "!!merge"
    | some (.mapping tag _ _) => tag = "!!str" || tag = "!!merge"
    | _ => false

/-- Adds a key to those spoken for; `none` if it is one of them. Without any, nothing is kept. -/
def takeKey (taken : Option (List Value)) (key : Untyped) :
    Read (Option (Option (List Value))) := do
  match taken, key with
  | none, _ => return some none
  | some _, .compound => throw .breakdown
  | some keys, .scalar v =>
      return if keys.any v.sameKey then none else some (some (v :: keys))

/-- One entry of a mapping without a type. -/
def readUntyped (readKey readValue : Node → Read (Bool × Untyped)) (taken : Option (List Value))
    (entry : Node × Node) : Read (Option (List Value)) := do
  if isMerge entry.1 then return taken
  else
    match ← readKey entry.1 with
    | (false, _) => return taken
    | (true, key) =>
        match ← takeKey taken key with
        | none => return taken
        | some taken =>
            match key with
            | .compound => Read.stop .compoundKey
            | .scalar _ =>
                let _ ← readValue entry.2
                return taken

/-- A key read as a text. -/
def readTextKey (anchored : Anchors) (n : Node) : Read (Bool × Untyped) := do
  let (set, name) ← Read.node anchored text n []
  return (set, .scalar (.text name))

/-- Collects the keys of a mapping as those spoken for. -/
def collectKeys (readKey : Node → Read (Bool × Untyped)) (entries : List (Node × Node)) :
    Read Unit :=
  entries.forM fun (k, _) => do
    match ← readKey k with
    | (false, _) => return ()
    | (true, .compound) => throw .breakdown
    | (true, .scalar v) => modify fun r => { r with taken := r.taken.map (v :: ·) }

mutual

/-- Whatever a node holds. Nothing is reported but repeated keys; `fuel` bounds the depth. -/
def any (anchored : Anchors) : Nat → Shape Untyped
  | 0 =>
      { name := "interface", ofScalar := fun v _ => some (.scalar v), ofNull := keep,
        ofItems := none, ofEntries := none }
  | fuel + 1 =>
      { name := "interface"
        ofScalar := fun v _ => some (.scalar v)
        ofNull := fun _ => (true, .scalar .null)
        ofItems := some fun items _ => do
          items.forM fun n => do
            let _ ← Read.node anchored (any anchored fuel) n .compound
          return (true, .compound)
        ofEntries := some fun entries _ => do
          readTable anchored (hasTextKeys anchored entries) fuel entries
          return (true, .compound) }

/-- The entries of a mapping without a type, with what it merges. -/
def readTable (anchored : Anchors) (textKeys : Bool) : Nat → List (Node × Node) → Read Unit
  | 0, _ => return ()
  | fuel + 1, entries => do
      let readAny (n : Node) : Read (Bool × Untyped) :=
        Read.node anchored (any anchored fuel) n .compound
      let readKey (n : Node) : Read (Bool × Untyped) :=
        if textKeys then readTextKey anchored n else readAny n
      readMerging anchored
        (fun taken _ => do
          let taken ← entries.foldlM (readUntyped readKey readAny) taken
          return (taken, ()))
        (collectKeys readAny entries)
        (ofMapping "interface" fun entries _ => readTable anchored textKeys fuel entries)
        entries ()

end

/-! ### Records -/

/-- A field of a record: its name and how to read it. -/
structure FieldOf (β : Type) where
  name : String
  read : Node → β → Read β

/-- The field that is read by a shape, and put back by `set`. -/
def field {β γ : Type} (anchored : Anchors) (name : String) (shape : Shape γ)
    (get : β → γ) (set : β → γ → β) : FieldOf β where
  name := name
  read n old := do
    let (_, new) ← Read.node anchored shape n (get old)
    return set old new

/-- One entry of a record, given the keys already spoken for, the fields already set by this
mapping, and the record so far. -/
def readEntry {β : Type} (anchored : Anchors) (name : String) (fields : List (FieldOf β))
    (state : Option (List Value) × List String × β) (entry : Node × Node) :
    Read (Option (List Value) × List String × β) := do
  let (taken, done, old) := state
  if isMerge entry.1 then return state
  else
    match ← Read.node anchored text entry.1 [] with
    | (false, _) => return state
    | (true, key) =>
        match ← takeKey taken (.scalar (.text key)) with
        | none => return state
        | some taken =>
            match fields.find? (fun f => Utf8.bytes f.name = key) with
            | none => return (taken, done, old)
            | some f =>
                if done.contains f.name then
                  Read.report (.repeatedField entry.1.line f.name name)
                  return (taken, done, old)
                else
                  let new ← f.read entry.2 old
                  return (taken, f.name :: done, new)

/-- Records: a mapping sets the fields it names, then takes the others from what it merges. Keys
that name no field are ignored. `fuel` bounds how deep merged mappings merge others. -/
def record {β : Type} (anchored : Anchors) (name : String) (fields : List (FieldOf β)) :
    Nat → Shape β
  | 0 => ofMapping name fun _ old => return old
  | fuel + 1 =>
      ofMapping name fun entries old =>
        readMerging anchored
          (fun taken old => do
            let (taken, _, new) ← entries.foldlM (readEntry anchored name fields) (taken, [], old)
            return (taken, new))
          (collectKeys (fun n => Read.node anchored (any anchored fuel) n .compound) entries)
          (record anchored name fields fuel) entries old

end Shape

/-- Reads the first document of a text into a value. A text without a document changes nothing. -/
def decode {β : Type} (shape : Anchors → Nat → Shape β) (start : β) (text : String) :
    Except Error β :=
  match Document.ofText text with
  | .error fault => .error (.fault fault)
  | .ok doc =>
      match doc.root with
      | none => .ok start
      | some root =>
          let reading : Reading :=
            { mismatches := [], nodes := 1, aliased := 0, following := [], taken := none }
          let depth := (doc.size + 1) * (doc.size + 1)
          match (Read.node doc.anchored (shape doc.anchored depth) root start).run reading with
          | .error stop => .error stop.error
          | .ok ((_, value), reading) =>
              if reading.mismatches.isEmpty then .ok value
              else .error (.mismatches reading.mismatches.reverse)

end Ricochet.Yaml
