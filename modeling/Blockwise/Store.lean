import Blockwise.Address.Text
import Blockwise.Bytes
import Blockwise.Path

/-!
# The store of resources

A store maps canonical paths to payloads and knows under which address and
scheme its resources can be reached.  Every operation takes any text as a path
and goes by its canonical form.
-/

namespace Blockwise

/-- A resource: its canonical path and its payload. -/
structure Resource where
  path : String
  payload : Bytes
  deriving DecidableEq, Repr

/-- The resources under one address. -/
structure Store where
  /-- Where the resources can be reached. -/
  authority : SocketAddress
  /-- How they can be reached, `coap` or `coaps`. -/
  scheme : String
  resources : List Resource
  deriving DecidableEq, Repr

/-- What can be wrong with a look-up: there is nothing at the canonical path. -/
inductive StoreError where
  | notFound (path : String)
  deriving DecidableEq, Repr

/-- The text of a store error. -/
def StoreError.message : StoreError → String
  | .notFound path => s!"no resource registered at {path}"

namespace Store

/-- A store without resources. -/
def empty (authority : SocketAddress) (scheme : String) : Store :=
  { authority, scheme, resources := [] }

/-- The resource at a path. -/
def find? (store : Store) (path : String) : Option Resource :=
  store.resources.find? (·.path = Path.normalize path)

/-- The payload at a path. -/
def get (store : Store) (path : String) : Except StoreError Bytes :=
  match store.find? path with
  | some resource => .ok resource.payload
  | none => .error (.notFound (Path.normalize path))

/-- Whether there is a resource at a path. -/
def contains (store : Store) (path : String) : Bool := (store.find? path).isSome

/-- The store without the resource at a path. -/
def erase (store : Store) (path : String) : Store :=
  { store with resources := store.resources.filter (·.path ≠ Path.normalize path) }

/-- The store with a resource put at a path, in the place of what was there. -/
def set (store : Store) (path : String) (payload : Bytes) : Store :=
  { store with resources :=
      ⟨Path.normalize path, payload⟩ :: (store.erase path).resources }

/-- The URI of a path, whether or not there is a resource. -/
def uri (store : Store) (path : String) : String :=
  s!"{store.scheme}://{store.authority.text}{Path.normalize path}"

/-- Puts a resource at a path and gives its URI. -/
def register (store : Store) (path : String) (payload : Bytes) : String × Store :=
  (store.uri path, store.set path payload)

/-- Takes the resource at a path out of the store. -/
def remove (store : Store) (path : String) : Option Resource × Store :=
  (store.find? path, store.erase path)

end Store
end Blockwise
