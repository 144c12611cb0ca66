import Blockwise.Proofs.Path.Canonical

/-!
# What the calls of a store come back with

A store answers each call by the calls that it has had before: at a path there is what
was put there last, unless it was removed since, and paths with the same segments are
one path.

* `Store.call`, `Store.calls` — one call with its answer, and the store after many.
* `Store.Left` — the payload that calls leave at a path.
* `Store.left_append_singleton` — one call more: it puts, it removes, or nothing changes.
* `Store.Reflects` — a store holds what its calls have left; `Reflects.call` is the step
  and `Reflects.calls` the run.
* `Store.Tidy` — no path twice and canonical paths only, so that `Tidy.find?_eq` finds
  every resource under the path that it carries.
* `Store.Due` — the answer that is due after some calls, and `Reflects.due` says that a
  store which holds what they have left gives it.
-/

namespace Blockwise

/-- Whether two paths have the same parts between their slashes, apart from empty ones. -/
def Path.Same (path other : String) : Prop :=
  Text.parts (· = '/') path = Text.parts (· = '/') other

/-- They are the same if their canonical texts are. -/
theorem Path.same_iff {path other : String} : Same path other ↔ normalize path = normalize other := by
  rw [Same, normalize_eq_normalize_iff, segments_eq_parts, segments_eq_parts]

namespace Store

/-! ## Calls -/

/-- A call of a store. -/
inductive Call where
  | set (path : String) (payload : Bytes)
  | register (path : String) (payload : Bytes)
  | remove (path : String)
  | get (path : String)
  | contains (path : String)
  | uri (path : String)

/-- What a call comes back with. -/
inductive Answer where
  | done
  | uri (uri : String)
  | removed (resource : Option Resource)
  | got (payload : Except StoreError Bytes)
  | contained (found : Bool)

/-- A call: its answer and the store after it. -/
def call (store : Store) : Call → Answer × Store
  | .set path payload => (.done, store.set path payload)
  | .register path payload => (store.register path payload).map .uri id
  | .remove path => (store.remove path).map .removed id
  | .get path => (.got (store.get path), store)
  | .contains path => (.contained (store.contains path), store)
  | .uri path => (.uri (store.uri path), store)

/-- The store after calls, one after the other. -/
def calls (store : Store) (list : List Call) : Store :=
  list.foldl (fun store call => (store.call call).2) store

namespace Call

/-- Whether a call puts a payload at a path. -/
def Puts (path : String) (payload : Bytes) : Call → Prop
  | .set other data | .register other data => Path.Same other path ∧ data = payload
  | _ => False

/-- Whether a call puts anything at a path or removes what is there. -/
def Touches (path : String) : Call → Prop
  | .set other _ | .register other _ | .remove other => Path.Same other path
  | _ => False

theorem Puts.touches {path : String} {payload : Bytes} {call : Call} (h : call.Puts path payload) :
    call.Touches path := by
  cases call with
  | set other data | register other data => exact h.1
  | _ => exact h.elim

theorem Puts.unique {path : String} {payload other : Bytes} {call : Call}
    (h : call.Puts path payload) (hother : call.Puts path other) : payload = other := by
  cases call with
  | set path data | register path data => exact h.2.symm.trans hother.2
  | _ => exact h.elim

end Call

/-! ## What calls leave behind -/

/-- Calls leave a payload at a path if one of them puts it there and none that follows
puts anything there or removes it. -/
def Left (history : List Call) (path : String) (payload : Bytes) : Prop :=
  ∃ before put after, history = before ++ put :: after ∧ put.Puts path payload ∧
    ∀ call ∈ after, ¬call.Touches path

variable {history : List Call} {path : String} {payload : Bytes}

theorem not_left_nil : ¬Left [] path payload := by
  rintro ⟨before, put, after, h, -⟩
  simp at h

/-- One call more: what it puts is there, and what it does not touch stays. -/
theorem left_append_singleton {call : Call} :
    Left (history ++ [call]) path payload ↔
      call.Puts path payload ∨ Left history path payload ∧ ¬call.Touches path := by
  constructor
  · rintro ⟨before, put, after, h, hputs, hafter⟩
    rcases List.eq_nil_or_concat after with rfl | ⟨after, last, rfl⟩
    · obtain ⟨-, rfl⟩ := List.append_singleton_inj.1 h
      exact .inl hputs
    · rw [List.concat_eq_append] at h hafter
      rw [← List.cons_append, ← List.append_assoc] at h
      obtain ⟨hhistory, rfl⟩ := List.append_singleton_inj.1 h
      refine .inr ⟨⟨before, put, after, hhistory, hputs, fun call hcall => ?_⟩, ?_⟩
      · exact hafter call (List.mem_append_left _ hcall)
      · exact hafter _ (List.mem_append_right _ (List.mem_singleton_self _))
  · rintro (hputs | ⟨⟨before, put, after, rfl, hputs, hafter⟩, hcall⟩)
    · exact ⟨history, call, [], rfl, hputs, by simp⟩
    · refine ⟨before, put, after ++ [call], by simp, hputs, fun other hother => ?_⟩
      rcases List.mem_append.1 hother with hmem | hmem
      · exact hafter other hmem
      · exact List.mem_singleton.1 hmem ▸ hcall

/-! ## The store reflects its calls -/

/-- A store holds what calls have left, each resource under its canonical path. -/
def Reflects (store : Store) (history : List Call) : Prop :=
  ∀ path resource, store.find? path = some resource ↔
    resource.path = Path.normalize path ∧ Left history path resource.payload

variable {store : Store}

/-- What a call puts is found. -/
theorem find?_of_puts {call : Call} (h : call.Puts path payload) :
    (store.call call).2.find? path = some ⟨Path.normalize path, payload⟩ := by
  have hset : ∀ other, Path.Same other path →
      (store.set other payload).find? path = some ⟨Path.normalize path, payload⟩ := by
    intro other hsame
    rw [find?, find?_resources_set, if_pos (Path.same_iff.1 hsame), Path.same_iff.1 hsame]
  cases call with
  | set other data | register other data => exact h.2 ▸ hset other h.1
  | _ => exact h.elim

/-- What a call does not touch is found as before. -/
theorem find?_of_untouched {call : Call} (h : ¬call.Touches path) :
    (store.call call).2.find? path = store.find? path := by
  have hset : ∀ other data, ¬Path.Same other path →
      (store.set other data).find? path = store.find? path := by
    intro other data hother
    rw [find?, find?_resources_set, if_neg (hother ∘ Path.same_iff.2), find?]
  cases call with
  | set other data | register other data => exact hset other data h
  | remove other =>
      show (store.erase other).find? path = store.find? path
      rw [find?, find?_resources_erase, if_neg (h ∘ Path.same_iff.2), find?]
  | _ => rfl

/-- Where a call touches a path without putting anything there, nothing is found. -/
theorem find?_of_removes {call : Call} (h : call.Touches path)
    (hputs : ∀ payload, ¬call.Puts path payload) : (store.call call).2.find? path = none := by
  cases call with
  | set other data | register other data => exact absurd ⟨h, rfl⟩ (hputs data)
  | remove other =>
      show (store.erase other).find? path = none
      rw [find?, find?_resources_erase, if_pos (Path.same_iff.1 h)]
  | _ => exact h.elim

theorem reflects_empty (authority : SocketAddress) (scheme : String) :
    (empty authority scheme).Reflects [] := by
  intro path resource
  simp [empty, find?, not_left_nil]

/-- **One call keeps it so.** -/
theorem Reflects.call (h : store.Reflects history) (call : Call) :
    (store.call call).2.Reflects (history ++ [call]) := by
  intro path resource
  rw [left_append_singleton]
  by_cases htouches : call.Touches path
  · by_cases hputs : ∃ payload, call.Puts path payload
    · obtain ⟨payload, hput⟩ := hputs
      rw [find?_of_puts hput, Option.some.injEq]
      constructor
      · rintro rfl
        exact ⟨rfl, .inl hput⟩
      · rintro ⟨hpath, hother | ⟨-, huntouched⟩⟩
        · rw [← hpath, hput.unique hother]
        · exact absurd htouches huntouched
    · rw [find?_of_removes htouches fun payload hput => hputs ⟨payload, hput⟩]
      constructor
      · intro hnone
        cases hnone
      · rintro ⟨-, hput | ⟨-, huntouched⟩⟩
        · exact absurd ⟨_, hput⟩ hputs
        · exact absurd htouches huntouched
  · rw [find?_of_untouched htouches, h path resource]
    constructor
    · rintro ⟨hpath, hleft⟩
      exact ⟨hpath, .inr ⟨hleft, htouches⟩⟩
    · rintro ⟨hpath, hput | ⟨hleft, -⟩⟩
      · exact absurd hput.touches htouches
      · exact ⟨hpath, hleft⟩

/-- So any number of calls does. -/
theorem Reflects.calls (h : store.Reflects history) (list : List Call) :
    (store.calls list).Reflects (history ++ list) := by
  induction list generalizing store history with
  | nil => simpa [Store.calls] using h
  | cons call list ih =>
      have hnext := ih (h.call call)
      rwa [List.append_assoc, List.singleton_append] at hnext

/-! ## Each resource under its own path -/

/-- A store is tidy if it has no two resources of one path, and no other paths than
canonical ones. -/
structure Tidy (store : Store) : Prop where
  distinct : store.resources.Pairwise fun a b => a.path ≠ b.path
  canonical : ∀ resource ∈ store.resources, Path.normalize resource.path = resource.path

theorem tidy_empty (authority : SocketAddress) (scheme : String) : (empty authority scheme).Tidy :=
  ⟨.nil, by simp [empty]⟩

theorem Tidy.erase (h : store.Tidy) (path : String) : (store.erase path).Tidy :=
  ⟨h.distinct.filter _, fun resource hmem => h.canonical resource (List.mem_filter.1 hmem).1⟩

theorem Tidy.set (h : store.Tidy) (path : String) (payload : Bytes) :
    (store.set path payload).Tidy := by
  refine ⟨List.pairwise_cons.2 ⟨fun other hother => ?_, (h.erase path).distinct⟩, ?_⟩
  · exact Ne.symm (by simpa using (List.mem_filter.1 hother).2)
  · intro resource hmem
    rcases List.mem_cons.1 hmem with rfl | hmem
    · exact Path.normalize_normalize path
    · exact (h.erase path).canonical resource hmem

/-- Calls keep a store tidy. -/
theorem Tidy.calls (h : store.Tidy) (list : List Call) : (store.calls list).Tidy := by
  induction list generalizing store with
  | nil => exact h
  | cons call list ih =>
      apply ih
      cases call with
      | set path payload | register path payload => exact h.set path payload
      | remove path => exact h.erase path
      | get path | contains path | uri path => exact h

/-- **Each resource is found under the path that it carries.** -/
theorem Tidy.find?_eq (h : store.Tidy) {resource : Resource}
    (hmem : resource ∈ store.resources) : store.find? resource.path = some resource := by
  obtain ⟨before, after, hresources⟩ := List.append_of_mem hmem
  rw [find?, h.canonical resource hmem, List.find?_eq_some_iff_append]
  refine ⟨by simp, before, after, hresources, fun other hother => ?_⟩
  have hdistinct := h.distinct
  rw [hresources, List.pairwise_append] at hdistinct
  simpa using hdistinct.2.2 other hother resource (List.mem_cons_self ..)

/-! ## The answer that is due -/

/-- The URI of a path under an address. -/
def uriOf (authority : SocketAddress) (scheme path : String) : String :=
  scheme ++ "://" ++ authority.text ++ Path.normalize path

/-- The answer to a call that is due from a store under an address, after the calls that it
has had: what these have left at the path, and if they have left nothing there, that
nothing is found under its canonical text. -/
inductive Due (authority : SocketAddress) (scheme : String) (history : List Call) :
    Call → Answer → Prop where
  | set {path : String} {payload : Bytes} : Due authority scheme history (.set path payload) .done
  | register {path : String} {payload : Bytes} :
      Due authority scheme history (.register path payload) (.uri (uriOf authority scheme path))
  | uri {path : String} :
      Due authority scheme history (.uri path) (.uri (uriOf authority scheme path))
  | got {path : String} {payload : Bytes} (h : Left history path payload) :
      Due authority scheme history (.get path) (.got (.ok payload))
  | notFound {path : String} (h : ∀ payload, ¬Left history path payload) :
      Due authority scheme history (.get path) (.got (.error (.notFound (Path.normalize path))))
  | contained {path : String} {payload : Bytes} (h : Left history path payload) :
      Due authority scheme history (.contains path) (.contained true)
  | missing {path : String} (h : ∀ payload, ¬Left history path payload) :
      Due authority scheme history (.contains path) (.contained false)
  | removed {path : String} {payload : Bytes} (h : Left history path payload) :
      Due authority scheme history (.remove path) (.removed (some ⟨Path.normalize path, payload⟩))
  | nothing {path : String} (h : ∀ payload, ¬Left history path payload) :
      Due authority scheme history (.remove path) (.removed none)

/-- What is found at a path is what calls have left there. -/
theorem Reflects.find?_cases (h : store.Reflects history) (path : String) :
    (∃ payload, Left history path payload ∧
      store.find? path = some ⟨Path.normalize path, payload⟩) ∨
    (∀ payload, ¬Left history path payload) ∧ store.find? path = none := by
  cases hfind : store.find? path with
  | some resource =>
      obtain ⟨hpath, hleft⟩ := (h path resource).1 hfind
      exact .inl ⟨resource.payload, hleft, by rw [← hpath]⟩
  | none =>
      refine .inr ⟨fun payload hleft => ?_, rfl⟩
      have hsome := (h path ⟨Path.normalize path, payload⟩).2 ⟨rfl, hleft⟩
      rw [hfind] at hsome
      cases hsome

/-- **The answer that is due is given.** -/
theorem Reflects.due (h : store.Reflects history) (call : Call) :
    Due store.authority store.scheme history call (store.call call).1 := by
  cases call with
  | set path payload => exact .set
  | register path payload => exact .register
  | uri path => exact .uri
  | get path =>
      rcases h.find?_cases path with ⟨payload, hleft, hfind⟩ | ⟨hnone, hfind⟩
      · rw [Store.call, get, hfind]
        exact .got hleft
      · rw [Store.call, get, hfind]
        exact .notFound hnone
  | contains path =>
      rcases h.find?_cases path with ⟨payload, hleft, hfind⟩ | ⟨hnone, hfind⟩
      · rw [Store.call, contains, hfind]
        exact .contained hleft
      · rw [Store.call, contains, hfind]
        exact .missing hnone
  | remove path =>
      rcases h.find?_cases path with ⟨payload, hleft, hfind⟩ | ⟨hnone, hfind⟩
      · rw [Store.call, remove, hfind]
        exact .removed hleft
      · rw [Store.call, remove, hfind]
        exact .nothing hnone

/-- Calls change neither address nor scheme. -/
theorem authority_calls (store : Store) (list : List Call) :
    (store.calls list).authority = store.authority ∧ (store.calls list).scheme = store.scheme := by
  induction list generalizing store with
  | nil => exact ⟨rfl, rfl⟩
  | cons call list ih =>
      have hcall : (store.call call).2.authority = store.authority ∧
          (store.call call).2.scheme = store.scheme := by
        cases call <;> exact ⟨rfl, rfl⟩
      exact ⟨(ih _).1.trans hcall.1, (ih _).2.trans hcall.2⟩

end Store

end Blockwise
