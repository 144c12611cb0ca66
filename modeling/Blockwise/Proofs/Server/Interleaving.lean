import Blockwise.Proofs.Server.Fetch
import Blockwise.Proofs.Server.Isolation
import Blockwise.Proofs.Server.Reply
import Blockwise.Proofs.Server.Retransmission

/-!
# Transfers of different paths, interleaved

A server may have transfers of several paths under way, and its history and its
kept answer are for all of them.  Here a stream is served as a whole, and once
more with nothing in it but the messages for one path and the changes of the
store.

* `Server.fates` — what becomes of the messages for a path.
* `Server.Unrepeated` — no request repeats a confirmable one that was answered.
* `Server.AgreeOn` — two servers do not differ in what bears on a path:
  `AgreeOn.skip` says that messages for other paths leave it so, and
  `AgreeOn.serve` that a message for the path does the same to both.
* `Server.fates_filter` — the messages for a path fare alike in both runs.
-/

namespace Blockwise

/-! ## Streams -/

namespace Input

/-- Whether an input bears on a path: a message for it or a change of the
store. -/
def concerns (path : String) : Input → Bool
  | .message _ received => received.path = path
  | .change _ => true

/-- The requests of a stream. -/
def requests (inputs : List Input) : List Message :=
  inputs.filterMap fun
    | .message _ received => if received.isRequest then some received else none
    | .change _ => none

theorem mem_requests_cons {input : Input} {inputs : List Input} {request : Message}
    (h : request ∈ requests inputs) : request ∈ requests (input :: inputs) := by
  obtain ⟨source, hsource, hrequest⟩ := List.mem_filterMap.1 h
  exact List.mem_filterMap.2 ⟨source, List.mem_cons_of_mem input hsource, hrequest⟩

theorem mem_requests_message {peer : Peer} {received : Message} (h : received.isRequest = true)
    (inputs : List Input) : received ∈ requests (.message peer received :: inputs) :=
  List.mem_filterMap.2 ⟨_, List.mem_cons_self, if_pos h⟩

end Input

/-- What was sent for a request, up to an id that had to be made up. -/
def Outgoing.upToId (request : Message) (outgoing : Outgoing) : Outgoing :=
  if request.isConfirmable then outgoing
  else { outgoing with message := { outgoing.message with id := 0 } }

/-- What becomes of a message: what is sent for it, up to an id that has to be made
up, and whether it is ignored. -/
structure Fate where
  message : Message
  sent : List Outgoing
  ignored : Bool

namespace Server

/-- What becomes of an input that is a message for a path. -/
def fate? (server : Server) (path : String) (input : Input) : Option Fate :=
  match input with
  | .message _ message =>
    if message.path = path then
      some ⟨message, (server.sends input).map (·.upToId message), server.ignores input⟩
    else none
  | .change _ => none

/-- What becomes of the messages for a path. -/
def fates (server : Server) (path : String) : List Input → List Fate
  | [] => []
  | input :: rest => (server.fate? path input).toList ++ (server.take input).fates path rest

/-- No request repeats id and token of a confirmable request that was answered
before. -/
def Unrepeated (server : Server) : List Input → Prop
  | [] => True
  | .change change :: rest => (server.take (.change change)).Unrepeated rest
  | .message peer request :: rest =>
    (request.isConfirmable = true → server.sends (.message peer request) ≠ [] →
      ∀ later ∈ Input.requests rest, later.tag ≠ request.tag) ∧
    (server.take (.message peer request)).Unrepeated rest

/-- The kept answer, if there is one, fits none of the requests to come. -/
def Outdated (server : Server) (inputs : List Input) : Prop :=
  ∀ kept, server.lastAnswer = some kept →
    ∀ request ∈ Input.requests inputs, kept.fits request = false

/-- In what bears on a path the servers do not differ. -/
structure AgreeOn (path : String) (whole alone : Server) : Prop where
  gate_eq : alone.gate = whole.gate
  store_eq : alone.store = whole.store
  blockSize_eq : alone.blockSize = whole.blockSize
  failure_eq : alone.failure = whole.failure
  transfer?_eq : alone.transfer? path = whole.transfer? path
  count_eq : ∀ record : RequestRecord, record.path = path →
    alone.history.count record = whole.history.count record

variable {server whole alone : Server} {path : String} {peer : Peer} {message request : Message}
  {response : Message} {after : Option Transfer} {input : Input} {rest : List Input}

/-! ## What bears on a path -/

/-- The reply to a request for a path is settled by what bears on the path. -/
theorem AgreeOn.reply_eq (h : AgreeOn path whole alone) (hpath : request.path = path) :
    alone.reply request = whole.reply request := by
  have hfor : alone.transferFor request.path = whole.transferFor request.path := by
    rw [transferFor, transferFor, hpath, h.transfer?_eq, h.store_eq, h.blockSize_eq]
  rw [reply, reply, hfor]

/-- The transfer behind a reply is one for the path of the request. -/
theorem path_of_reply {next : Transfer} (h : server.reply request = .ok (response, some next)) :
    next.path = request.path := by
  rcases server.reply_cases request with
    ⟨code, -, hdecline, -⟩ | ⟨transfer, mismatch, hrefuse, -⟩ |
      ⟨transfer, block, other, htransfer, hhandle, hblock, -⟩
  · cases hdecline.symm.trans h
  · cases hrefuse.symm.trans h
  · cases hblock.symm.trans h
    exact (Transfer.path_of_handle hhandle).trans (path_of_transferFor htransfer)

/-- The transfer for a path when a reply went out for the same or another one. -/
theorem transfer?_replied (server : Server) (peer : Peer)
    (hreply : server.reply request = .ok (response, after)) (path : String) :
    (server.replied request peer response after).transfer? path =
      if request.path = path then
        after.elim (server.transfer? path) fun next => if next.isComplete then none else some next
      else server.transfer? path := by
  cases after with
  | none => exact (ite_self _).symm
  | some next =>
      have hfound := server.find?_transfersWith next path
      rw [path_of_reply hreply] at hfound
      exact hfound

/-- To ignore a request for another path leaves what bears on this one. -/
theorem AgreeOn.skip_ignored (h : AgreeOn path whole alone) (hpath : request.path ≠ path) :
    AgreeOn path (whole.ignore request) alone where
  gate_eq := h.gate_eq
  store_eq := h.store_eq
  blockSize_eq := h.blockSize_eq
  failure_eq := h.failure_eq
  transfer?_eq := h.transfer?_eq
  count_eq := by
    intro record hrecord
    have hne : record ≠ request.record := by
      rintro rfl
      exact hpath hrecord
    rw [h.count_eq record hrecord]
    show _ = (whole.history.push request.record).count record
    rw [History.count_push, if_neg hne, Nat.add_zero]

/-- So does the reply to one. -/
theorem AgreeOn.skip_replied (h : AgreeOn path whole alone) (hpath : request.path ≠ path)
    (hreply : whole.reply request = .ok (response, after)) :
    AgreeOn path ((whole.record request).replied request peer response after) alone := by
  have hskip := h.skip_ignored hpath
  have htransfer := transfer?_replied (whole.record request) peer hreply path
  rw [if_neg hpath] at htransfer
  constructor
  · cases after <;> exact hskip.gate_eq
  · cases after <;> exact hskip.store_eq
  · cases after <;> exact hskip.blockSize_eq
  · cases after <;> exact hskip.failure_eq
  · exact h.transfer?_eq.trans htransfer.symm
  · cases after <;> exact hskip.count_eq

/-- **Messages for other paths** leave what bears on this one. -/
theorem AgreeOn.skip (h : AgreeOn path whole alone) (hpath : message.path ≠ path)
    (hpeer : whole.endpoint.peer = some peer) (hopen : whole.failure = none)
    (hrunning : (whole.serve message).failure = none) :
    AgreeOn path (whole.serve message) alone := by
  have hserve := continues_serve hpeer hrunning hopen
  generalize whole.serve message = next at hserve ⊢
  cases hserve with
  | passed => exact h
  | repeated => exact ⟨h.1, h.2, h.3, h.4, h.5, h.6⟩
  | ignored => exact h.skip_ignored hpath
  | replied response after _ _ _ hreply => exact h.skip_replied hpath hreply

/-- To ignore a request does the same to both servers. -/
theorem AgreeOn.ignore (h : AgreeOn path whole alone) (request : Message) :
    AgreeOn path (whole.ignore request) (alone.ignore request) where
  gate_eq := h.gate_eq
  store_eq := h.store_eq
  blockSize_eq := h.blockSize_eq
  failure_eq := h.failure_eq
  transfer?_eq := h.transfer?_eq
  count_eq := by
    intro record hrecord
    show (alone.history.push request.record).count record =
      (whole.history.push request.record).count record
    rw [History.count_push, History.count_push, h.count_eq record hrecord]

/-- So does the reply to one for the path. -/
theorem AgreeOn.replied (h : AgreeOn path whole alone) (hpath : request.path = path) (peer : Peer)
    (hreply : whole.reply request = .ok (response, after)) :
    AgreeOn path ((whole.record request).replied request peer response after)
      ((alone.record request).replied request peer response after) := by
  have hignore := h.ignore request
  have hwhole := transfer?_replied (whole.record request) peer hreply path
  have halone := transfer?_replied (alone.record request) peer
    ((h.reply_eq hpath).trans hreply) path
  constructor
  · cases after <;> exact hignore.gate_eq
  · cases after <;> exact hignore.store_eq
  · cases after <;> exact hignore.blockSize_eq
  · cases after <;> exact hignore.failure_eq
  · rw [halone, hwhole]
    have hbefore : (alone.record request).transfer? path = (whole.record request).transfer? path :=
      h.transfer?_eq
    rw [hbefore]
  · cases after <;> exact hignore.count_eq

/-- Up to an id that has to be made up, a reply is the same from every server. -/
theorem upToId_fittedTo (request response : Message) (peer : Peer) (nextId other : UInt16) :
    Outgoing.upToId request ⟨peer.address, response.fittedTo request nextId⟩ =
      Outgoing.upToId request ⟨peer.address, response.fittedTo request other⟩ := by
  by_cases h : request.isConfirmable = true
  · simp [Outgoing.upToId, Message.fittedTo, h]
  · simp [Outgoing.upToId, Message.fittedTo, h]

/-- **A message for the path** does the same to both servers. -/
theorem AgreeOn.serve (h : AgreeOn path whole alone) (hpath : message.path = path)
    (hwhole : whole.endpoint.peer = some peer) (halone : alone.endpoint.peer = some peer)
    (hopen : whole.failure = none) (hrunning : (whole.serve message).failure = none)
    (hnewWhole : message.isRequest = true → whole.lastAnswer.filter (·.fits message) = none)
    (hnewAlone : message.isRequest = true → alone.lastAnswer.filter (·.fits message) = none) :
    AgreeOn path (whole.serve message) (alone.serve message) ∧
      (alone.sentBetween (alone.serve message)).map (·.upToId message) =
        (whole.sentBetween (whole.serve message)).map (·.upToId message) ∧
      (alone.stats.dropped < (alone.serve message).stats.dropped ↔
        whole.stats.dropped < (whole.serve message).stats.dropped) := by
  have hgate : alone.gate message (alone.history.count message.record) =
      whole.gate message (whole.history.count message.record) := by
    rw [h.gate_eq, h.count_eq message.record hpath]
  have hserve := continues_serve hwhole hrunning hopen
  generalize whole.serve message = next at hserve ⊢
  cases hserve with
  | passed hmessage =>
      rw [serve_of_other hmessage]
      refine ⟨h, ?_, ?_⟩
      · rw [sentBetween_self rfl, sentBetween_self rfl]
      · simp
  | repeated kept hrequest hkept =>
      rw [hnewWhole hrequest] at hkept
      cases hkept
  | ignored hrequest _ hignored =>
      rw [serve_of_ignored hrequest (hnewAlone hrequest) (hgate.trans hignored)]
      have hquiet : ∀ server : Server, server.sentBetween (server.ignore message) = [] :=
        fun _ => sentBetween_self rfl
      refine ⟨h.ignore message, ?_, ?_⟩
      · rw [hquiet, hquiet]
      · simp [Server.ignore, Server.record, Server.count, tally]
  | replied response after hrequest _ hadmitted hreply hsendable =>
      have hsame : (alone.record message).reply message = .ok (response, after) :=
        (h.reply_eq hpath).trans hreply
      have hrespond : (alone.record message).respond message =
          (alone.record message).replied message peer response after :=
        respond_of_reply (h.failure_eq.trans hopen) halone hsame
          (Message.sendable_fittedTo _ hsendable)
      rw [serve_of_admitted hrequest (hnewAlone hrequest) (hgate.trans hadmitted), hrespond]
      refine ⟨h.replied hpath peer hreply, ?_, ?_⟩
      · rw [sentBetween_replied, sentBetween_replied, List.map_singleton, List.map_singleton,
          upToId_fittedTo]
      · cases after <;> simp [Server.replied, answered, moved, Server.record, Server.count, tally,
          Stats.afterBlock]

/-! ## Kept answers -/

/-- The kept answer changes only to that of the confirmable request that was
answered. -/
theorem lastAnswer_take (server : Server) (peer : Peer) (message : Message)
    (hopen : server.failure = none) :
    (server.take (.message peer message)).lastAnswer = server.lastAnswer ∨
      ∃ answered : Answered, answered.request = message ∧ message.isConfirmable = true ∧
        server.sends (.message peer message) ≠ [] ∧
        (server.take (.message peer message)).lastAnswer = some answered.kept := by
  have hserve := Answered.serve_cases (server.hearing peer server.wokeAt) message hopen rfl
  rw [← take_of_running peer message hopen] at hserve
  rcases hserve with ⟨-, hsame⟩ | ⟨answered, hbetween, hkept, -, rfl, hsound⟩
  · exact Or.inl hsame
  · refine Or.inr ⟨answered, rfl, hsound.isConfirmable, ?_, hkept⟩
    intro hquiet
    have hnone : (server.hearing peer server.wokeAt).sentBetween
        (server.take (.message peer answered.request)) = [] := hquiet
    rw [Answered.between?, hnone] at hbetween
    simp at hbetween

/-- A kept answer that fits no request to come does not fit the next one. -/
theorem Outdated.isNew (h : server.Outdated (.message peer message :: rest))
    (hrequest : message.isRequest = true) :
    server.lastAnswer.filter (·.fits message) = none := by
  rw [Option.filter_eq_none_iff]
  intro kept hkept hfits
  rw [h kept hkept message (Input.mem_requests_message hrequest rest)] at hfits
  cases hfits

/-- It fits none of those behind the next one either. -/
theorem Outdated.tail (h : server.Outdated (input :: rest)) : server.Outdated rest := by
  intro kept hkept request hrequest
  exact h kept hkept request (Input.mem_requests_cons hrequest)

/-- Nor does the answer to the next one, if no later request repeats that. -/
theorem Outdated.take (h : server.Outdated (.message peer message :: rest))
    (hopen : server.failure = none)
    (hlater : message.isConfirmable = true → server.sends (.message peer message) ≠ [] →
      ∀ later ∈ Input.requests rest, later.tag ≠ message.tag) :
    (server.take (.message peer message)).Outdated rest := by
  rcases server.lastAnswer_take peer message hopen with
    hsame | ⟨answered, rfl, hconfirmable, hsends, hkept⟩
  · intro kept hlast
    exact h.tail kept (hsame ▸ hlast)
  · intro kept hlast request hrequest
    cases hkept.symm.trans hlast
    rw [← Bool.not_eq_true]
    intro hfits
    exact hlater hconfirmable hsends request hrequest (answered.of_fits hfits).2

/-! ## Streams -/

/-- A message for the path does the same to both servers. -/
theorem AgreeOn.take (h : AgreeOn path whole alone) (hpath : message.path = path)
    (hwhole : whole.Outdated (.message peer message :: rest))
    (halone : alone.Outdated (.message peer message :: rest))
    (hrunning : (whole.take (.message peer message)).failure = none) :
    AgreeOn path (whole.take (.message peer message)) (alone.take (.message peer message)) ∧
      (alone.sends (.message peer message)).map (·.upToId message) =
        (whole.sends (.message peer message)).map (·.upToId message) ∧
      alone.ignores (.message peer message) = whole.ignores (.message peer message) := by
  have hopen := running_of_take hrunning
  rw [take_of_running peer message hopen] at hrunning
  have hheard : AgreeOn path (whole.hearing peer whole.wokeAt)
      (alone.hearing peer alone.wokeAt) := ⟨h.1, h.2, h.3, h.4, h.5, h.6⟩
  obtain ⟨hafter, hsent, hdropped⟩ := hheard.serve hpath rfl rfl hopen hrunning hwhole.isNew
    halone.isNew
  rw [← take_of_running peer message hopen,
    ← take_of_running peer message (h.failure_eq.trans hopen)] at hafter hsent hdropped
  exact ⟨hafter, hsent, decide_eq_decide.2 hdropped⟩

/-- One for another path leaves them in agreement. -/
theorem AgreeOn.skip_take (h : AgreeOn path whole alone) (hpath : message.path ≠ path)
    (hrunning : (whole.take (.message peer message)).failure = none) :
    AgreeOn path (whole.take (.message peer message)) alone := by
  have hopen := running_of_take hrunning
  rw [take_of_running peer message hopen] at hrunning ⊢
  have hheard : AgreeOn path (whole.hearing peer whole.wokeAt) alone :=
    ⟨h.1, h.2, h.3, h.4, h.5, h.6⟩
  exact hheard.skip hpath rfl hopen hrunning

/-- The invariant along a stream: the two servers agree on the path, and neither has
kept an answer that fits a request to come. -/
theorem AgreeOn.fates_eq (h : AgreeOn path whole alone) {inputs : List Input}
    (hwhole : whole.Outdated inputs) (halone : alone.Outdated inputs)
    (hunrepeated : whole.Unrepeated inputs) (hrunning : (whole.takeAll inputs).failure = none) :
    alone.fates path (inputs.filter (·.concerns path)) = whole.fates path inputs ∧
      (alone.takeAll (inputs.filter (·.concerns path))).failure = none := by
  induction inputs generalizing whole alone with
  | nil => exact ⟨rfl, h.failure_eq.trans hrunning⟩
  | cons input rest ih =>
      have hnext : (whole.take input).failure = none := running_of_takeAll hrunning
      cases input with
      | change change =>
          have hchanged : AgreeOn path (whole.take (.change change))
              (alone.take (.change change)) :=
            ⟨h.1, congrArg (·.change change) h.store_eq, h.3, h.4, h.5, h.6⟩
          exact ih hchanged hwhole.tail halone.tail hunrepeated hrunning
      | message peer message =>
          obtain ⟨hlater, hrest⟩ := hunrepeated
          have hopen := running_of_take hnext
          have hwhole' := hwhole.take hopen hlater
          by_cases hpath : message.path = path
          · obtain ⟨hafter, hsends, hignores⟩ := h.take hpath hwhole halone hnext
            have halone' : (alone.take (.message peer message)).Outdated rest := by
              refine halone.take (h.failure_eq.trans hopen) ?_
              intro hconfirmable hsent
              refine hlater hconfirmable ?_
              intro hquiet
              rw [hquiet, List.map_nil, List.map_eq_nil_iff] at hsends
              exact hsent hsends
            obtain ⟨hfates, hend⟩ := ih hafter hwhole' halone' hrest hrunning
            rw [List.filter_cons_of_pos (by simp [Input.concerns, hpath])]
            refine ⟨?_, hend⟩
            rw [fates, fates, hfates]
            simp only [fate?, hsends, hignores]
          · obtain ⟨hfates, hend⟩ :=
              ih (h.skip_take hpath hnext) hwhole' halone.tail hrest hrunning
            rw [List.filter_cons_of_neg (by simp [Input.concerns, hpath])]
            refine ⟨?_, hend⟩
            rw [hfates, fates]
            simp [fate?, hpath]

/-! ## Main result -/

/-- **Transfers of different paths do not influence each other.**  Take any server,
with any gate, and a stream that does not stop it and in which no request repeats
a confirmable one that was answered before.  Serve it once more with only the
messages for one path and the changes of the store left in it.  Each of these
messages gets the same answer as in the whole stream, up to an id that has to be
made up, and is ignored if and only if it is there; and nothing stops the server
either. -/
theorem fates_filter (server : Server) (inputs : List Input) (path : String)
    (hkept : server.Outdated inputs) (hunrepeated : server.Unrepeated inputs)
    (hrunning : (server.takeAll inputs).failure = none) :
    server.fates path (inputs.filter (·.concerns path)) = server.fates path inputs ∧
      (server.takeAll (inputs.filter (·.concerns path))).failure = none := by
  have hself : AgreeOn path server server := ⟨rfl, rfl, rfl, rfl, rfl, fun _ _ => rfl⟩
  exact hself.fates_eq hkept hkept hunrepeated hrunning

/-! ## Two downloads -/

/-- A confirmable request for a block of 16 bytes of a file with a name of one
letter. -/
def readBlock (id : UInt16) (letter : UInt8) (block : UInt8) : Message :=
  { Message.bare .confirmable .get id with
    options :=
      (Options.empty.add OptionField.uriPath [letter]).add OptionField.block2 [block * 16] }

/-- A server with two files of two blocks each.  It ignores the first request for
the second block of a file. -/
def twoFiles : Server :=
  let server := fresh (Endpoint.bind (.v4 127 0 0 1 5683) .none 0) ModuloBackoff.standard.gate
    Settings.standard BlockSize.smallest
  { server with
    store := (server.store.set "a" (List.replicate 20 1)).set "b" (List.replicate 20 2) }

/-- Two clients read one file each, and their requests come by turns. -/
def twoDownloads : List Input :=
  let first : Peer := ⟨.v4 127 0 0 1, 40001⟩
  let second : Peer := ⟨.v4 127 0 0 1, 40002⟩
  [.message first (readBlock 1 97 0), .message second (readBlock 2 98 0),
    .message first (readBlock 3 97 1), .message second (readBlock 4 98 1),
    .message first (readBlock 5 97 1), .message second (readBlock 6 98 1)]

/-- Each of the two gets what it would get alone. -/
theorem fates_filter_two_downloads :
    twoFiles.Outdated twoDownloads ∧ twoFiles.Unrepeated twoDownloads ∧
      (twoFiles.takeAll twoDownloads).failure = none ∧
      (twoFiles.takeAll twoDownloads).stats.completed = 2 ∧
      twoFiles.fates "/a" (twoDownloads.filter (·.concerns "/a")) =
        twoFiles.fates "/a" twoDownloads := by
  have hkept : twoFiles.Outdated twoDownloads := by
    intro kept hkept
    cases hkept
  have hunrepeated : twoFiles.Unrepeated twoDownloads := by
    refine ⟨?_, ?_, ?_, ?_, ?_, ?_, trivial⟩
    all_goals
      intro _ _
      decide +kernel
  have hrunning : (twoFiles.takeAll twoDownloads).failure = none := by decide +kernel
  have hcompleted : (twoFiles.takeAll twoDownloads).stats.completed = 2 := by decide +kernel
  exact ⟨hkept, hunrepeated, hrunning, hcompleted,
    (fates_filter twoFiles twoDownloads "/a" hkept hunrepeated hrunning).1⟩

end Server
end Blockwise
