import Ricochet.Text.Quoted

set_option autoImplicit false

/-! # The registry of demos

A registry maps names to demos and names to titles. A name is any bytes. The registry is generic in
what a demo is: all it needs of one is its title, which it asks for once, when the demo is
registered. The listing is sorted by the bytes of the names, so it does not depend on the order of
registration.
-/

namespace Ricochet

variable {δ : Type}

/-- The demos registered so far, and their titles, latest first. -/
structure Registry (δ : Type) where
  entries : List (List UInt8 × δ)
  titles : List (List UInt8 × String)

/-- Why the registry refuses. -/
inductive RegistryError where
  | alreadyRegistered (id : List UInt8)
  | unknown (id : List UInt8)
  deriving DecidableEq, Repr

/-- The message of a refusal. -/
def RegistryError.message : RegistryError → String
  | .alreadyRegistered id => "registry: demo " ++ Text.quoteBytes id ++ " already registered"
  | .unknown id => "registry: unknown demo " ++ Text.quoteBytes id

/-- A line of the listing. -/
structure Listing where
  id : List UInt8
  title : String
  deriving DecidableEq, Repr

/-- Whether a name comes before another, or is the same, in the order of their bytes. -/
def nameLE (a b : List UInt8) : Bool := decide (a ≤ b)

namespace Registry

/-- No demo. -/
def empty : Registry δ := ⟨[], []⟩

/-- The demo of a name. -/
def find? (r : Registry δ) (id : List UInt8) : Option δ := r.entries.lookup id

/-- Whether a name is registered. -/
def contains (r : Registry δ) (id : List UInt8) : Bool := (r.find? id).isSome

/-- Adds a demo under a name that is not taken yet: what comes of it, and the registry after it. -/
def register (title : δ → String) (id : List UInt8) (demo : δ) (r : Registry δ) :
    Except RegistryError Unit × Registry δ :=
  if r.contains id then (.error (.alreadyRegistered id), r)
  else
    (.ok (), { entries := (id, demo) :: r.entries, titles := (id, title demo) :: r.titles })

/-- The demo of a name, which must be registered. -/
def create (r : Registry δ) (id : List UInt8) : Except RegistryError δ :=
  match r.find? id with
  | some demo => .ok demo
  | none => .error (.unknown id)

/-- The names of the demos. -/
def names (r : Registry δ) : List (List UInt8) := r.entries.map Prod.fst

/-- The line of a name; a name without a title has an empty one. -/
def line (r : Registry δ) (id : List UInt8) : Listing := ⟨id, (r.titles.lookup id).getD ""⟩

/-- All names with their titles, sorted by name. -/
def list (r : Registry δ) : List Listing :=
  (r.names.map r.line).mergeSort fun a b => nameLE a.id b.id

end Registry

end Ricochet
