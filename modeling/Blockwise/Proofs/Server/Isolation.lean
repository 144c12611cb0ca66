import Blockwise.Proofs.Server.Stream
import Blockwise.Proofs.Transfer.Run

/-!
# Transfers and changes of the store

While blocks of a resource go out, the resource may be replaced or removed.  A
transfer keeps the payload that it began with.

* `Server.block?` — the block that an input makes the server send for a path.
* `Ledger` — a run with the transfers of a path: for each of them what the store
  had when it began, and the requests that it has answered.
* `Ledger.Isolated` — the invariant: each transfer has answered with blocks of
  that payload, and one is under way exactly if the server has one for the path;
  `Isolated.take` says that every input preserves this.
* `Ledger.isolated_takeAll` — what that says of the blocks that a stream makes
  the server send.
-/

namespace Blockwise

/-! ## Answers as they are sent -/

namespace Message

/-- What carries a block still does when it is fitted to its request. -/
theorem CarriesBlock.of_saysSame {answer response : Message} {payload : Bytes} {size : BlockSize}
    {number : Nat} (h : response.CarriesBlock payload size number)
    (hsame : answer.SaysSame response) : answer.CarriesBlock payload size number where
  code := hsame.code.trans h.code
  block := by
    rw [block_congr hsame.options]
    exact h.block
  payload := hsame.payload.trans h.payload

end Message

namespace Transfer

/-- The size agreed on does not depend on the answers. -/
theorem agreed_answer (offered : BlockSize) (served : List (Message × Message))
    (request answer response : Message) :
    agreed offered (served ++ [(request, answer)]) =
      agreed offered (served ++ [(request, response)]) := by
  cases served with
  | nil => rfl
  | cons first rest => rfl

/-- The invariant of a transfer speaks of its answers as they were sent. -/
theorem Log.Sound.sent {after : Transfer} {served : List (Message × Message)}
    {request answer response : Message} {path : String} {payload : Bytes} {offered : BlockSize}
    (h : Log.Sound ⟨after, served ++ [(request, response)]⟩ path payload offered)
    (hsame : answer.SaysSame response) :
    Log.Sound ⟨after, served ++ [(request, answer)]⟩ path payload offered := by
  have hagreed := agreed_answer offered served request answer response
  have hlength : (Log.answers ⟨after, served ++ [(request, answer)]⟩).length =
      (Log.answers ⟨after, served ++ [(request, response)]⟩).length := by
    simp [Log.answers]
  constructor
  · exact h.path_eq
  · exact h.payload_eq
  · rw [hagreed]
    exact h.size_eq
  · have hblocks := h.blocks
    rw [hagreed]
    simp only [Log.answers, List.map_append, List.map_cons, List.map_nil,
      Message.carryBlocks_append_singleton] at hblocks ⊢
    exact ⟨hblocks.1, hblocks.2.of_saysSame hsame⟩
  · rw [hagreed, hlength]
    exact h.phase_eq
  · rw [hagreed, hlength]
    exact h.needed

end Transfer

namespace Server

variable {server : Server} {path : String} {peer : Peer} {message answer : Message}

/-! ## The transfer of a path -/

/-- The transfer for a request is the one under way, or a fresh one of what the
store has. -/
theorem transferFor_eq_ok_iff {transfer : Transfer} :
    server.transferFor path = .ok transfer ↔
      server.transfer? path = some transfer ∨
        server.transfer? path = none ∧ ∃ payload, server.store.get path = .ok payload ∧
          transfer = Transfer.begin path payload server.blockSize := by
  rw [transferFor]
  cases server.transfer? path with
  | some known => simp
  | none =>
      cases server.store.get path with
      | error error => simp [Except.map]
      | ok payload => simp [Except.map, eq_comm]

theorem path_of_transferFor {transfer : Transfer} (h : server.transferFor path = .ok transfer) :
    transfer.path = path := by
  rcases transferFor_eq_ok_iff.1 h with hknown | ⟨-, payload, -, rfl⟩
  · have hfound := List.find?_some (p := fun known : Transfer => decide (known.path = path)) hknown
    exact of_decide_eq_true hfound
  · rfl

/-- Without the transfer of one path those of the others are still there. -/
theorem transfer?_dropTransfer (server : Server) (path other : String) :
    (server.dropTransfer other).transfer? path =
      if other = path then none else server.transfer? path := by
  rw [transfer?, dropTransfer, List.find?_filter]
  by_cases hpath : other = path
  · rw [if_pos hpath, List.find?_eq_none]
    intro transfer _
    simp [hpath]
  · rw [if_neg hpath, transfer?]
    congr 1
    funext transfer
    by_cases hsame : transfer.path = path
    · simp [hsame, Ne.symm hpath]
    · simp [hsame]

/-- The transfer that was moved on is the one for its path, unless it is
complete; those of other paths stay. -/
theorem find?_transfersWith (server : Server) (after : Transfer) (path : String) :
    (server.transfersWith after).find? (·.path = path) =
      if after.path = path then (if after.isComplete then none else some after)
      else server.transfer? path := by
  have hothers := server.transfer?_dropTransfer path after.path
  rw [transfer?, dropTransfer] at hothers
  rw [transfersWith, List.find?_append, hothers]
  by_cases hpath : after.path = path
  · cases hcomplete : after.isComplete <;> simp [hpath]
  · cases hcomplete : after.isComplete <;> simp [hpath]

/-! ## The blocks that are sent for a path -/

/-- The block that an input makes the server send for a path: the request and the
2.05 answer that it gets.  An earlier answer sent once more does not count. -/
def block? (server : Server) (path : String) (input : Input) : Option (Message × Message) :=
  match input with
  | .message _ message =>
    if message.path = path && !server.repeats input then
      (((server.sends input).map (·.message)).find? (·.code = .content)).map fun answer =>
        (message, answer)
    else none
  | .change _ => none

theorem repeats_eq_false {input : Input}
    (h : (server.take input).stats.duplicates = server.stats.duplicates) :
    server.repeats input = false :=
  decide_eq_false (h ▸ Nat.lt_irrefl _)

theorem repeats_eq_true {input : Input}
    (h : (server.take input).stats.duplicates = server.stats.duplicates + 1) :
    server.repeats input = true :=
  decide_eq_true (h ▸ Nat.lt_succ_self _)

theorem block?_of_quiet (h : (server.take (.message peer message)).endpoint.socket.sent =
    server.endpoint.socket.sent) : server.block? path (.message peer message) = none := by
  simp only [block?, sends, sentBetween_self h]
  split <;> rfl

theorem block?_of_repeats (h : server.repeats (.message peer message) = true) :
    server.block? path (.message peer message) = none := by
  simp [block?, h]

theorem block?_of_sent (path : String) {sent : Outgoing}
    (hsent : (server.take (.message peer message)).endpoint.socket.sent =
      server.endpoint.socket.sent ++ [sent])
    (hnew : server.repeats (.message peer message) = false) :
    server.block? path (.message peer message) =
      if message.path = path ∧ sent.message.code = .content then some (message, sent.message)
      else none := by
  simp only [block?, sends, sentBetween_append hsent, hnew]
  by_cases hpath : message.path = path
  · by_cases hcode : sent.message.code = .content
    · simp [hpath, hcode]
    · simp [hpath, hcode]
  · simp [hpath]

/-- **What an input does to the transfer of a path.**  No block is sent for the
path, and if the server is running afterwards its transfer stays.  Or its
transfer, the one under way or a fresh one, has answered a request for the path,
and stays unless it is complete. -/
theorem block?_cases (server : Server) (path : String) (input : Input) :
    (server.block? path input = none ∧
        ((server.take input).failure = none → server.failure = none ∧
          (server.take input).transfer? path = server.transfer? path)) ∨
      server.failure = none ∧ ∃ request response answer transfer after,
        server.block? path input = some (request, answer) ∧
        server.transferFor path = .ok transfer ∧
        transfer.handle request = .ok (response, after) ∧ answer.SaysSame response ∧
        (server.take input).transfer? path = if after.isComplete then none else some after := by
  cases input with
  | change change => exact Or.inl ⟨rfl, fun hrunning => ⟨hrunning, rfl⟩⟩
  | message peer message =>
      by_cases hrunning : server.failure = none
      case neg =>
        have htake := take_of_stopped peer message hrunning
        refine Or.inl ⟨block?_of_quiet (by rw [htake]), fun hafter => ?_⟩
        rw [htake] at hafter
        exact absurd hafter hrunning
      have hserved := served_serve (server.hearing peer server.wokeAt) message hrunning
      rw [← take_of_running peer message hrunning] at hserved
      generalize hafter : server.take (.message peer message) = after at hserved ⊢
      have hquiet : after.endpoint.socket.sent = server.endpoint.socket.sent →
          server.block? path (.message peer message) = none :=
        fun hsame => block?_of_quiet (hafter ▸ hsame)
      have hrepeats : after.stats.duplicates = server.stats.duplicates →
          server.repeats (.message peer message) = false :=
        fun hsame => repeats_eq_false (hafter ▸ hsame)
      cases hserved with
      | passed => exact Or.inl ⟨hquiet rfl, fun _ => ⟨hrunning, rfl⟩⟩
      | ignored => exact Or.inl ⟨hquiet rfl, fun _ => ⟨hrunning, rfl⟩⟩
      | stopped => exact Or.inl ⟨hquiet rfl, nofun⟩
      | repeated =>
          refine Or.inl ⟨block?_of_repeats (repeats_eq_true ?_), fun _ => ⟨hrunning, rfl⟩⟩
          rw [hafter]
          rfl
      | declined known nextId answer code hrequest hcode hanswer =>
          refine Or.inl ⟨?_, fun _ => ⟨hrunning, rfl⟩⟩
          rw [block?_of_sent path (by rw [hafter]; rfl) (hrepeats rfl), if_neg]
          rintro ⟨-, hcontent⟩
          rw [hanswer.code] at hcontent
          rcases hcode with rfl | rfl
          · cases hcontent
          · cases hcontent
      | block known nextId answer response transfer next hrequest htransfer hhandle hanswer =>
          have hsent := block?_of_sent path (by rw [hafter]; rfl) (hrepeats rfl)
          obtain ⟨_, _, _, _, hcarries, _⟩ := Transfer.carriesBlock_of_handle hhandle
          have hpath : next.path = message.path :=
            (Transfer.path_of_handle hhandle).trans (path_of_transferFor htransfer)
          have hfound := (server.hearing peer server.wokeAt).find?_transfersWith next path
          rw [hpath] at hfound
          by_cases hsame : message.path = path
          · rw [if_pos hsame] at hfound
            rw [if_pos ⟨hsame, hanswer.code.trans hcarries.code⟩] at hsent
            exact Or.inr ⟨hrunning, message, response, answer, transfer, next, hsent,
              hsame ▸ htransfer, hhandle, hanswer, hfound⟩
          · rw [if_neg hsame] at hfound
            rw [if_neg fun h => hsame h.1] at hsent
            exact Or.inl ⟨hsent, fun _ => ⟨hrunning, hfound⟩⟩

/-- The blocks that a stream makes the server send for a path. -/
def blocks (server : Server) (path : String) : List Input → List (Message × Message)
  | [] => []
  | input :: rest => (server.block? path input).toList ++ (server.take input).blocks path rest

end Server

/-! ## Courses -/

/-- The course of a transfer, as it shows from outside: what the store had for
its path when its first request was answered, and the requests that it has
answered, each with its answer. -/
structure Course where
  stored : Except StoreError Bytes
  served : List (Message × Message)

namespace Course

/-- The answers, in order. -/
def answers (course : Course) : List Message := course.served.map (·.2)

/-- The course with one more request answered. -/
def serve (course : Course) (served : Message × Message) : Course :=
  { course with served := course.served ++ [served] }

/-- The answers are blocks, from block 0 on and all of one size, of the one
payload that the store had. -/
def Uniform (course : Course) : Prop :=
  course.served ≠ [] ∧ ∃ payload size, course.stored = .ok payload ∧
    Message.CarryBlocks course.answers payload size

/-- Together the answers are the payload that the store had. -/
def Whole (course : Course) : Prop :=
  course.stored = .ok (course.answers.flatMap (·.payload))

/-- The transfer has come to where this course leads. -/
def LeadsTo (course : Course) (transfer : Transfer) (path : String) : Prop :=
  ∃ payload offered, course.stored = .ok payload ∧
    Transfer.Log.Sound ⟨transfer, course.served⟩ path payload offered

variable {course : Course} {transfer after : Transfer} {path : String}
  {request response answer : Message}

/-- An answered request takes course and transfer one block further. -/
theorem LeadsTo.serve (h : course.LeadsTo transfer path)
    (hhandle : transfer.handle request = .ok (response, after))
    (hanswer : answer.SaysSame response) :
    (course.serve (request, answer)).LeadsTo after path := by
  obtain ⟨payload, offered, hstored, hsound⟩ := h
  exact ⟨payload, offered, hstored, (Transfer.sound_handle hsound hhandle).sent hanswer⟩

theorem LeadsTo.uniform (h : course.LeadsTo transfer path) (hserved : course.served ≠ []) :
    course.Uniform := by
  obtain ⟨payload, offered, hstored, hsound⟩ := h
  exact ⟨hserved, payload, _, hstored, hsound.blocks⟩

/-- At the end of a transfer the whole payload went out. -/
theorem LeadsTo.whole (h : course.LeadsTo transfer path) (hcomplete : transfer.isComplete = true) :
    course.Whole := by
  obtain ⟨payload, offered, hstored, hsound⟩ := h
  obtain ⟨-, hall⟩ := hsound.length_of_complete (of_decide_eq_true hcomplete)
  rw [hsound.size_eq] at hall
  have hjoined := Message.flatMap_payload_of_carryBlocks hsound.blocks
  rw [List.take_of_length_le hall] at hjoined
  exact hstored.trans (congrArg Except.ok hjoined.symm)

end Course

/-! ## Ledgers -/

/-- A server with the courses of the transfers of a path: those that have ended,
and the one under way. -/
structure Ledger where
  server : Server
  ended : List Course
  current : Option Course

namespace Ledger

/-- Nothing has been served yet. -/
def begin (server : Server) : Ledger := ⟨server, [], none⟩

/-- All courses, in order. -/
def courses (ledger : Ledger) : List Course := ledger.ended ++ ledger.current.toList

/-- The ledger after an input.  A block belongs to the course under way, else it
begins one with what the store has.  The course ends when the server has no
transfer for the path any more. -/
def take (path : String) (ledger : Ledger) (input : Input) : Ledger :=
  let server := ledger.server.take input
  match ledger.server.block? path input with
  | none => { ledger with server }
  | some served =>
    let course := (ledger.current.getD ⟨ledger.server.store.get path, []⟩).serve served
    match server.transfer? path with
    | some _ => { ledger with server, current := some course }
    | none => { server, ended := ledger.ended ++ [course], current := none }

/-- The ledger after a stream of inputs. -/
def takeAll (path : String) (ledger : Ledger) (inputs : List Input) : Ledger :=
  inputs.foldl (take path) ledger

variable {ledger : Ledger} {path : String}

/-- Every block that is sent is the next one of the course under way. -/
theorem served_take (ledger : Ledger) (path : String) (input : Input) :
    (ledger.take path input).courses.flatMap (·.served) =
      ledger.courses.flatMap (·.served) ++ (ledger.server.block? path input).toList := by
  rw [take]
  cases ledger.server.block? path input with
  | none => simp [courses]
  | some served =>
      cases (ledger.server.take input).transfer? path with
      | none => cases hcurrent : ledger.current <;> simp [courses, Course.serve, hcurrent]
      | some transfer => cases hcurrent : ledger.current <;> simp [courses, Course.serve, hcurrent]

theorem served_takeAll (ledger : Ledger) (path : String) (inputs : List Input) :
    (ledger.takeAll path inputs).courses.flatMap (·.served) =
      ledger.courses.flatMap (·.served) ++ ledger.server.blocks path inputs := by
  induction inputs generalizing ledger with
  | nil => simp [takeAll, Server.blocks]
  | cons input rest ih =>
      have hserver : (ledger.take path input).server = ledger.server.take input := by
        rw [take]
        split
        · rfl
        · split <;> rfl
      rw [takeAll, List.foldl_cons, ← takeAll, ih, served_take, hserver, Server.blocks,
        List.append_assoc]

/-! ## The invariant -/

/-- Every transfer of the path has kept to the payload that it began with.  While
the server is running, its transfer is where the course under way leads. -/
structure Isolated (ledger : Ledger) (path : String) : Prop where
  ended : ∀ course ∈ ledger.ended, course.Uniform ∧ course.Whole
  current : ∀ course, ledger.current = some course → course.Uniform
  idle : ledger.server.failure = none → ledger.current = none →
    ledger.server.transfer? path = none
  busy : ledger.server.failure = none → ∀ course, ledger.current = some course →
    ∃ transfer, ledger.server.transfer? path = some transfer ∧ course.LeadsTo transfer path

/-- Without transfers there is nothing to keep to. -/
theorem isolated_begin {server : Server} (hnone : server.transfers = []) (path : String) :
    (begin server).Isolated path where
  ended := nofun
  current := nofun
  idle := fun _ _ => by rw [begin, Server.transfer?, hnone, List.find?_nil]
  busy := fun _ => nofun

/-- The transfer that a request belongs to is where the course under way leads;
without one it is a fresh one of what the store has. -/
theorem Isolated.leadsTo (h : ledger.Isolated path) (hrunning : ledger.server.failure = none)
    {transfer : Transfer} (htransfer : ledger.server.transferFor path = .ok transfer) :
    (ledger.current.getD ⟨ledger.server.store.get path, []⟩).LeadsTo transfer path := by
  have hfor := Server.transferFor_eq_ok_iff.1 htransfer
  cases hcurrent : ledger.current with
  | none =>
      have hidle := h.idle hrunning hcurrent
      rcases hfor with hknown | ⟨-, payload, hget, rfl⟩
      · cases hidle.symm.trans hknown
      · exact ⟨payload, _, hget, Transfer.sound_begin path payload _⟩
  | some course =>
      obtain ⟨known, hknown, hleads⟩ := h.busy hrunning course hcurrent
      rcases hfor with hsame | ⟨hnone, -⟩
      · obtain rfl : known = transfer := Option.some.inj (hknown.symm.trans hsame)
        exact hleads
      · cases hnone.symm.trans hknown

/-- Every input preserves the invariant. -/
theorem Isolated.take (h : ledger.Isolated path) (input : Input) :
    (ledger.take path input).Isolated path := by
  rcases ledger.server.block?_cases path input with
    ⟨hnone, hstay⟩ | ⟨hrunning, request, response, answer, transfer, after, hblock, htransfer,
      hhandle, hanswer, hafter⟩
  · have htake : ledger.take path input =
        { ledger with server := ledger.server.take input } := by
      simp only [Ledger.take, hnone]
    rw [htake]
    constructor
    · exact h.ended
    · exact h.current
    · intro hopen hcurrent
      obtain ⟨hrunning, hsame⟩ := hstay hopen
      exact hsame.trans (h.idle hrunning hcurrent)
    · intro hopen course hcurrent
      obtain ⟨hrunning, hsame⟩ := hstay hopen
      obtain ⟨transfer, hknown, hleads⟩ := h.busy hrunning course hcurrent
      exact ⟨transfer, hsame.trans hknown, hleads⟩
  · -- The course under way goes on by a block, and ends if that was the last one.
    have hleads := (h.leadsTo hrunning htransfer).serve hhandle hanswer
    have huniform := hleads.uniform (List.append_ne_nil_of_right_ne_nil _ (List.cons_ne_nil _ _))
    cases hcomplete : after.isComplete with
    | true =>
        rw [hcomplete, if_pos rfl] at hafter
        simp only [Ledger.take, hblock, hafter]
        constructor
        · intro course hmem
          rcases List.mem_append.1 hmem with hbefore | hlast
          · exact h.ended course hbefore
          · rw [List.mem_singleton.1 hlast]
            exact ⟨huniform, hleads.whole hcomplete⟩
        · exact nofun
        · exact fun _ _ => hafter
        · exact fun _ => nofun
    | false =>
        rw [hcomplete, if_neg Bool.false_ne_true] at hafter
        simp only [Ledger.take, hblock, hafter]
        constructor
        · exact h.ended
        · intro course hcurrent
          rw [← Option.some.inj hcurrent]
          exact huniform
        · exact fun _ => nofun
        · intro _ course hcurrent
          rw [← Option.some.inj hcurrent]
          exact ⟨after, hafter, hleads⟩

theorem Isolated.takeAll (h : ledger.Isolated path) (inputs : List Input) :
    (ledger.takeAll path inputs).Isolated path := by
  induction inputs generalizing ledger with
  | nil => exact h
  | cons input rest ih => exact ih (h.take input)

/-! ## Main result -/

/-- **Transfers are isolated from changes of the store.**  Whatever messages come
from whatever peers, and however the store is changed in between, the blocks that
a server sends for a path fall into transfers.  The blocks of each transfer are
those of one payload from block 0 on, all of one size, and that payload is the
one that the store had when the first of them was sent.  A transfer that has
ended has sent that payload as a whole.  While the server runs, a transfer is
under way exactly if the server has one for the path. -/
theorem isolated_takeAll (endpoint : Endpoint) (gate : Gate) (settings : Settings)
    (offered : BlockSize) :
    ∃ server, Server.start endpoint gate { settings with blockSize := offered.bytes } =
        .ok server ∧
      ∀ (store : Store) (inputs : List Input) (path : String),
        let ledger := takeAll path (begin { server with store }) inputs
        ledger.courses.flatMap (·.served) = Server.blocks { server with store } path inputs ∧
          (∀ course ∈ ledger.courses, course.Uniform) ∧
          (∀ course ∈ ledger.ended, course.Whole) ∧
          (ledger.server.failure = none →
            ledger.current.isSome = (ledger.server.transfer? path).isSome) := by
  refine ⟨_, Server.start_eq_ok gate rfl, fun store inputs path => ?_⟩
  intro ledger
  have h : ledger.Isolated path := (isolated_begin rfl path).takeAll inputs
  refine ⟨served_takeAll _ path inputs, fun course hmem => ?_, fun course hmem => ?_,
    fun hrunning => ?_⟩
  · rcases List.mem_append.1 hmem with hended | hcurrent
    · exact (h.ended course hended).1
    · exact h.current course (Option.mem_toList.1 hcurrent)
  · exact (h.ended course hmem).2
  · cases hcurrent : ledger.current with
    | none =>
        rw [h.idle hrunning hcurrent]
        rfl
    | some course =>
        obtain ⟨transfer, hknown, -⟩ := h.busy hrunning course hcurrent
        rw [hknown]
        rfl

end Ledger
end Blockwise
