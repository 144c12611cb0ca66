import Blockwise.Proofs.Store.Calls
import Mathlib.Logic.Function.Basic

/-!
# Keys and handles

A store can be kept as a table that has each resource under a key, besides the path that
the resource carries itself, and any number of handles may lead to one store.

* `KeyedStore` — the table with its calls; `Lists.call` says that it answers as the store
  does, so that every resource carries the path that is its key.
* `Store.callsThrough` — calls through handles; `callsThrough_leads` says that a store
  has just the calls through the handles that lead to it.
* `Store.answers_through_handles` — the main result, for any calls through any handles.
-/

namespace Blockwise

/-! ## A table with keys -/

/-- A store as a table: what is under a key is a resource that carries a path itself. -/
structure KeyedStore where
  authority : SocketAddress
  scheme : String
  resources : String → Option Resource

namespace KeyedStore

/-- A table without resources. -/
def empty (authority : SocketAddress) (scheme : String) : KeyedStore :=
  { authority, scheme, resources := fun _ => none }

/-- The resource under the canonical text of a path. -/
def find? (keyed : KeyedStore) (path : String) : Option Resource :=
  keyed.resources (Path.normalize path)

/-- The URI of a path. -/
def uri (keyed : KeyedStore) (path : String) : String :=
  Store.uriOf keyed.authority keyed.scheme path

/-- The table with another entry under a key. -/
def enter (keyed : KeyedStore) (key : String) (entry : Option Resource) : KeyedStore :=
  { keyed with resources := Function.update keyed.resources key entry }

theorem resources_enter (keyed : KeyedStore) (key other : String) (entry : Option Resource) :
    (keyed.enter key entry).resources other =
      if key = other then entry else keyed.resources other := by
  simp only [enter, Function.update_apply, eq_comm]

/-- A call: its answer and the table after it. -/
def call (keyed : KeyedStore) : Store.Call → Store.Answer × KeyedStore
  | .set path payload =>
    (.done, keyed.enter (Path.normalize path) (some ⟨Path.normalize path, payload⟩))
  | .register path payload =>
    (.uri (keyed.uri path),
      keyed.enter (Path.normalize path) (some ⟨Path.normalize path, payload⟩))
  | .remove path => (.removed (keyed.find? path), keyed.enter (Path.normalize path) none)
  | .get path =>
    match keyed.find? path with
    | some resource => (.got (.ok resource.payload), keyed)
    | none => (.got (.error (.notFound (Path.normalize path))), keyed)
  | .contains path => (.contained (keyed.find? path).isSome, keyed)
  | .uri path => (.uri (keyed.uri path), keyed)

/-- The table after calls, one after the other. -/
def calls (keyed : KeyedStore) (list : List Store.Call) : KeyedStore :=
  list.foldl (fun keyed call => (keyed.call call).2) keyed

/-- A table lists a store if under each key it has the resource that carries this path. -/
structure Lists (keyed : KeyedStore) (store : Store) : Prop where
  authority : keyed.authority = store.authority
  scheme : keyed.scheme = store.scheme
  resources : ∀ key, keyed.resources key = store.resources.find? (·.path = key)

variable {keyed : KeyedStore} {store : Store}

theorem lists_empty (authority : SocketAddress) (scheme : String) :
    (empty authority scheme).Lists (.empty authority scheme) :=
  ⟨rfl, rfl, fun _ => rfl⟩

/-- Every resource carries the path that is its key. -/
theorem Lists.path_eq (h : keyed.Lists store) {key : String} {resource : Resource}
    (hresource : keyed.resources key = some resource) : resource.path = key := by
  rw [h.resources key] at hresource
  simpa using List.find?_some hresource

theorem Lists.find?_eq (h : keyed.Lists store) (path : String) :
    keyed.find? path = store.find? path :=
  h.resources (Path.normalize path)

theorem Lists.uri_eq (h : keyed.Lists store) (path : String) : keyed.uri path = store.uri path := by
  rw [uri, h.authority, h.scheme]
  rfl

theorem Lists.set (h : keyed.Lists store) (path : String) (payload : Bytes) :
    (keyed.enter (Path.normalize path) (some ⟨Path.normalize path, payload⟩)).Lists
      (store.set path payload) := by
  refine ⟨h.authority, h.scheme, fun key => ?_⟩
  rw [Store.find?_resources_set, resources_enter, h.resources key]

theorem Lists.erase (h : keyed.Lists store) (path : String) :
    (keyed.enter (Path.normalize path) none).Lists (store.erase path) := by
  refine ⟨h.authority, h.scheme, fun key => ?_⟩
  rw [Store.find?_resources_erase, resources_enter, h.resources key]

/-- **A table answers as the store does that it lists,** and lists it afterwards. -/
theorem Lists.call (h : keyed.Lists store) (call : Store.Call) :
    (keyed.call call).1 = (store.call call).1 ∧ (keyed.call call).2.Lists (store.call call).2 := by
  cases call with
  | set path payload => exact ⟨rfl, h.set path payload⟩
  | register path payload =>
      exact ⟨congrArg Store.Answer.uri (h.uri_eq path), h.set path payload⟩
  | remove path => exact ⟨congrArg Store.Answer.removed (h.find?_eq path), h.erase path⟩
  | get path =>
      rw [KeyedStore.call, Store.call, Store.get, h.find?_eq]
      cases store.find? path with
      | none => exact ⟨rfl, h⟩
      | some resource => exact ⟨rfl, h⟩
  | contains path =>
      refine ⟨?_, h⟩
      rw [KeyedStore.call, Store.call, Store.contains, h.find?_eq]
  | uri path => exact ⟨congrArg Store.Answer.uri (h.uri_eq path), h⟩

/-- So it does after any calls. -/
theorem Lists.calls (h : keyed.Lists store) (list : List Store.Call) :
    (keyed.calls list).Lists (store.calls list) := by
  induction list generalizing keyed store with
  | nil => exact h
  | cons call list ih => exact ih (h.call call).2

end KeyedStore

namespace Store

/-! ## Handles -/

/-- The stores after a call through a handle, where `leads` says to which store a handle
leads.  A clone of a handle leads where the handle leads. -/
def callThrough (leads : Nat → Nat) (stores : Nat → Store) (handle : Nat) (call : Call) :
    Nat → Store :=
  Function.update stores (leads handle) ((stores (leads handle)).call call).2

/-- The stores after calls through handles, one after the other. -/
def callsThrough (leads : Nat → Nat) (stores : Nat → Store) (list : List (Nat × Call)) :
    Nat → Store :=
  list.foldl (fun stores call => callThrough leads stores call.1 call.2) stores

/-- The calls through those handles that lead where one handle does. -/
def throughClones (leads : Nat → Nat) (handle : Nat) (list : List (Nat × Call)) : List Call :=
  (list.filter fun call => leads call.1 = leads handle).map (·.2)

/-- A store has just the calls through the handles that lead to it. -/
theorem callsThrough_leads (leads : Nat → Nat) (stores : Nat → Store) (handle : Nat)
    (list : List (Nat × Call)) :
    callsThrough leads stores list (leads handle) =
      (stores (leads handle)).calls (throughClones leads handle list) := by
  induction list generalizing stores with
  | nil => rfl
  | cons call list ih =>
      have hrest := ih (callThrough leads stores call.1 call.2)
      by_cases h : leads call.1 = leads handle
      · have hfirst : throughClones leads handle (call :: list) =
            call.2 :: throughClones leads handle list := by
          rw [throughClones, List.filter_cons_of_pos (by simpa using h), List.map_cons]
          rfl
        rw [hfirst]
        rw [callThrough, h, Function.update_self] at hrest
        rw [calls, List.foldl_cons, ← calls, ← hrest, ← h]
        rfl
      · have hfirst : throughClones leads handle (call :: list) =
            throughClones leads handle list := by
          rw [throughClones, List.filter_cons_of_neg (by simpa using h)]
          rfl
        rw [hfirst]
        rwa [callThrough, Function.update_of_ne (Ne.symm h)] at hrest

/-- **A store is a map over canonical paths.**  However stores without resources are called
through any handles, each of them answers a further call by the calls that it has had
through clones of one handle: with the payload that these have left at the path.
Registering leaves the store that setting leaves, and every resource is found under the
path that it carries.  A table with keys would have answered the same, and in it every
resource carries the path that is its key. -/
theorem answers_through_handles (leads : Nat → Nat) (authority : Nat → SocketAddress)
    (scheme : Nat → String) (list : List (Nat × Call)) (handle : Nat) :
    let place := leads handle
    let history := throughClones leads handle list
    let store := callsThrough leads (fun place => empty (authority place) (scheme place)) list place
    let keyed := (KeyedStore.empty (authority place) (scheme place)).calls history
    (∀ call, Due (authority place) (scheme place) history call (store.call call).1) ∧
    (∀ path payload,
      (store.call (.register path payload)).2 = (store.call (.set path payload)).2) ∧
    (∀ resource ∈ store.resources, store.find? resource.path = some resource) ∧
    (∀ call, (keyed.call call).1 = (store.call call).1) ∧
    (∀ path payload,
      (keyed.call (.register path payload)).2 = (keyed.call (.set path payload)).2) ∧
    ∀ key resource, keyed.resources key = some resource → resource.path = key := by
  intro place history store keyed
  have hstore : store = (empty (authority place) (scheme place)).calls history :=
    callsThrough_leads leads _ handle list
  have hreflects : store.Reflects history := by
    have hcalls := (reflects_empty (authority place) (scheme place)).calls history
    rwa [List.nil_append, ← hstore] at hcalls
  have htidy : store.Tidy := hstore ▸ (tidy_empty (authority place) (scheme place)).calls history
  have hlists : keyed.Lists store :=
    hstore ▸ (KeyedStore.lists_empty (authority place) (scheme place)).calls history
  obtain ⟨hauthority, hscheme⟩ := authority_calls (empty (authority place) (scheme place)) history
  rw [← hstore] at hauthority hscheme
  refine ⟨fun call => ?_, fun _ _ => rfl, fun resource hmem => htidy.find?_eq hmem,
    fun call => (hlists.call call).1, fun _ _ => rfl, fun _ _ => hlists.path_eq⟩
  have hdue := hreflects.due call
  rwa [hauthority, hscheme] at hdue

end Store

end Blockwise
