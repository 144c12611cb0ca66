import Blockwise.Proofs.Server.Interleaving
import Mathlib.Algebra.GroupWithZero.Nat

/-!
# The books of a server

A server counts what it does, keeps a history, and has transfers under way.  All
of this is about the same requests, so it has to agree.

* `Transfer.UnderWay` — where a transfer stands between two requests;
  `Transfer.moves_on` says where an answered request takes it.
* `Books` — a server with an account of what it was given and of what it sent:
  the requests that were new, how many of them were declined, and the transfers
  that have ended.
* `Books.Balanced` — what the server has counted and kept agrees with that
  account; `Balanced.take` says that every input leaves it so.
* `Books.balanced_takeAll` — the main result.
-/

namespace Blockwise

/-! ## Where a transfer stands -/

namespace Transfer

/-- So many blocks went out and more are to follow, at a size that is not larger
than the one offered. -/
structure UnderWay (transfer : Transfer) (offered number : Nat) : Prop where
  phase_eq : transfer.phase = .awaiting number
  pos : 1 ≤ number
  size_le : transfer.size.bytes ≤ offered
  more : number * transfer.size.bytes < transfer.payload.length

variable {transfer after : Transfer} {request response : Message} {offered number : Nat}

theorem UnderWay.next_eq (h : transfer.UnderWay offered number) : transfer.next = number := by
  simp [next, h.phase_eq]

/-- A request is answered with one block, and the transfer is under way or has sent
all its blocks. -/
theorem moves_on (hhandle : transfer.handle request = .ok (response, after))
    (hsize : transfer.size.bytes ≤ offered)
    (hmore : 0 < transfer.next →
      transfer.next * transfer.size.bytes < transfer.payload.length) :
    after.isComplete = false ∧ after.UnderWay offered (transfer.next + 1) ∨
      after.isComplete = true ∧ after.blockCount = transfer.next + 1 := by
  obtain ⟨requested, -, hadmits, hnumber, -, rfl⟩ := carriesBlock_of_handle hhandle
  by_cases hgoes : (transfer.next + 1) * (negotiated transfer.size requested).bytes <
      transfer.payload.length
  · have hsmaller : (negotiated transfer.size requested).bytes ≤ transfer.size.bytes := by
      cases requested with
      | none => exact Nat.le_refl _
      | some block =>
          rw [negotiated, BlockSize.bytes_smaller]
          exact Nat.min_le_right _ _
    refine Or.inl ⟨by simp [isComplete, afterBlock, hgoes], ?_⟩
    exact ⟨if_pos hgoes, by omega, Nat.le_trans hsmaller hsize, hgoes⟩
  · have hcount : (negotiated transfer.size requested).count transfer.payload.length =
        transfer.next + 1 := by
      have hlast := mt (BlockSize.lt_count_iff (Nat.succ_pos transfer.next)).1 hgoes
      have hthis : transfer.next < (negotiated transfer.size requested).count
          transfer.payload.length := by
        rcases Nat.eq_zero_or_pos transfer.next with hzero | hpos
        · rw [hzero]
          exact BlockSize.count_pos _ _
        · rw [negotiated_of_admits (by omega) hadmits, BlockSize.lt_count_iff hpos]
          exact hmore hpos
      omega
    refine Or.inr ⟨by simp [isComplete, afterBlock, hgoes], ?_⟩
    show (negotiated transfer.size requested).count transfer.payload.length % UInt32.size = _
    rw [hcount]
    refine Nat.mod_eq_of_lt ?_
    simp only [Block.numberLimit, UInt32.size] at hnumber ⊢
    omega

/-! ## Transfers of several paths -/

/-- With one transfer for each path, each is the one that is found for its path. -/
theorem find?_path_of_mem {transfers : List Transfer} (h : (transfers.map (·.path)).Nodup)
    (hmem : transfer ∈ transfers) :
    transfers.find? (·.path = transfer.path) = some transfer := by
  induction transfers with
  | nil => cases hmem
  | cons first rest ih =>
      rw [List.map_cons, List.nodup_cons] at h
      rcases List.mem_cons.1 hmem with rfl | hrest
      · simp
      · have hne : first.path ≠ transfer.path := by
          intro hsame
          exact h.1 (hsame ▸ List.mem_map_of_mem hrest)
        rw [List.find?_cons_of_neg (by simp [hne])]
        exact ih h.2 hrest

/-- A sum over the transfers is one over those of the other paths and the one for
the path. -/
theorem sum_filter_path {transfers : List Transfer} (h : (transfers.map (·.path)).Nodup)
    (path : String) (value : Transfer → Nat) :
    ((transfers.filter (·.path ≠ path)).map value).sum +
        (transfers.find? (·.path = path)).elim 0 value = (transfers.map value).sum := by
  induction transfers with
  | nil => rfl
  | cons first rest ih =>
      rw [List.map_cons, List.nodup_cons] at h
      by_cases hpath : first.path = path
      · have hothers : rest.filter (·.path ≠ path) = rest := by
          rw [List.filter_eq_self]
          intro other hmem
          have : other.path ≠ first.path := fun hsame => h.1 (hsame ▸ List.mem_map_of_mem hmem)
          simp [← hpath, this]
        rw [List.filter_cons_of_neg (by simp [hpath]), hothers,
          List.find?_cons_of_pos (by simp [hpath])]
        simp [Nat.add_comm]
      · rw [List.filter_cons_of_pos (by simp [hpath]), List.find?_cons_of_neg (by simp [hpath])]
        have := ih h.2
        simp only [List.map_cons, List.sum_cons]
        omega

end Transfer

/-! ## The account -/

namespace Server

/-- The request that comes with an input, unless it repeats the one answered
last. -/
def newRequest? (server : Server) : Input → Option Message
  | .message _ request =>
    if request.isRequest && (server.lastAnswer.filter (·.fits request)).isNone then some request
    else none
  | .change _ => none

/-- The answer that a new request gets. -/
def answer? (server : Server) (input : Input) : Option Message :=
  (server.newRequest? input).bind fun _ => (server.sends input).head?.map (·.message)

/-- Whether a new request is declined with 4.04 or 4.05. -/
def declines (server : Server) (input : Input) : Bool :=
  (server.answer? input).any fun answer =>
    answer.code = .notFound || answer.code = .methodNotAllowed

/-- The transfer whose last block is sent for an input, as it is afterwards. -/
def ended? (server : Server) (input : Input) : Option Transfer :=
  (server.newRequest? input).bind fun request =>
    if (server.answer? input).any (·.code = .content) then
      ((server.transferFor request.path).toOption.bind fun transfer =>
        (transfer.handle request).toOption.map (·.2)).filter (·.isComplete)
    else none

end Server

/-- A server with an account of what it was given and of what it sent. -/
structure Books where
  server : Server
  /-- The requests that repeated no answered one, in order. -/
  requests : List Message
  /-- How many of them were declined with 4.04 or 4.05. -/
  declined : Nat
  /-- The transfers that have sent their last block. -/
  ended : List Transfer

namespace Books

/-- Nothing has been served yet. -/
def begin (server : Server) : Books := ⟨server, [], 0, []⟩

/-- The books after an input. -/
def take (books : Books) (input : Input) : Books where
  server := books.server.take input
  requests := books.requests ++ (books.server.newRequest? input).toList
  declined := books.declined + if books.server.declines input then 1 else 0
  ended := books.ended ++ (books.server.ended? input).toList

/-- The books after a stream of inputs. -/
def takeAll (books : Books) (inputs : List Input) : Books := inputs.foldl take books

/-- What a server has counted and kept agrees with the account. -/
structure Balanced (books : Books) (offered : Nat) : Prop where
  blockSize_eq : books.server.blockSize.bytes = offered
  /-- A request that came was a duplicate, or it is in the history. -/
  received_eq : books.server.stats.received =
    books.server.stats.duplicates + books.server.history.length
  /-- What is in the history was ignored, answered with a block, or declined. -/
  length_eq : books.server.history.length =
    books.server.stats.dropped + books.server.stats.answered + books.declined
  /-- The history is that of the requests that were no duplicates. -/
  records_eq : books.server.history.records = books.requests.map (·.record)
  /-- There is one transfer for each path. -/
  nodup : (books.server.transfers.map (·.path)).Nodup
  /-- Each of them is under way. -/
  underWay : ∀ transfer ∈ books.server.transfers, ∃ number, transfer.UnderWay offered number
  /-- The blocks sent are those of the transfers under way and those of the
  transfers that have ended. -/
  answered_eq : books.server.stats.answered =
    (books.server.transfers.map (·.next)).sum + (books.ended.map (·.blockCount)).sum
  completed_eq : books.server.stats.completed = books.ended.length
  isComplete : ∀ transfer ∈ books.ended, transfer.isComplete = true

variable {books : Books} {offered : Nat} {peer : Peer} {message request response : Message}
  {input : Input} {server : Server} {transfer : Transfer}

theorem server_takeAll (books : Books) (inputs : List Input) :
    (books.takeAll inputs).server = books.server.takeAll inputs := by
  induction inputs generalizing books with
  | nil => rfl
  | cons input rest ih => exact ih (books.take input)

/-! ## What an input adds to the account -/

theorem newRequest?_of_new (peer : Peer) (hrequest : request.isRequest = true)
    (hnew : server.lastAnswer.filter (·.fits request) = none) :
    server.newRequest? (.message peer request) = some request := by
  simp [Server.newRequest?, hrequest, hnew]

/-- What is no new request adds nothing. -/
theorem take_of_old (hold : books.server.newRequest? input = none) :
    books.take input = { books with server := books.server.take input } := by
  simp [take, Server.declines, Server.answer?, Server.ended?, hold]

/-- A new request that is not answered is one more request. -/
theorem take_of_unanswered (hnew : books.server.newRequest? input = some request)
    (hquiet : books.server.sends input = []) :
    books.take input = { books with
      server := books.server.take input
      requests := books.requests ++ [request] } := by
  simp [take, Server.declines, Server.answer?, Server.ended?, hnew, hquiet]

/-- One that is declined is also one more of those. -/
theorem take_of_declined {answer : Outgoing} (hnew : books.server.newRequest? input = some request)
    (hsends : books.server.sends input = [answer])
    (hcode : answer.message.code = .notFound ∨ answer.message.code = .methodNotAllowed) :
    books.take input = { books with
      server := books.server.take input
      requests := books.requests ++ [request]
      declined := books.declined + 1 } := by
  have hother : ¬answer.message.code = .content := by
    rcases hcode with hcode | hcode <;> rw [hcode] <;> decide
  simp [take, Server.declines, Server.answer?, Server.ended?, hnew, hsends, hcode, hother]

/-- One that gets a block may end its transfer. -/
theorem take_of_block {answer : Outgoing} {after : Transfer}
    (hnew : books.server.newRequest? input = some request)
    (hsends : books.server.sends input = [answer]) (hcode : answer.message.code = .content)
    (htransfer : books.server.transferFor request.path = .ok transfer)
    (hhandle : transfer.handle request = .ok (response, after)) :
    books.take input = { books with
      server := books.server.take input
      requests := books.requests ++ [request]
      ended := books.ended ++ if after.isComplete then [after] else [] } := by
  have hanswer : books.server.answer? input = some answer.message := by
    simp [Server.answer?, hnew, hsends]
  have hdeclines : books.server.declines input = false := by
    rw [Server.declines, hanswer, Option.any_some, hcode]
    decide
  have hended : books.server.ended? input = (some after).filter (·.isComplete) := by
    simp [Server.ended?, hnew, hanswer, hcode, htransfer, hhandle, Except.toOption]
  rw [take, hnew, hdeclines, hended]
  cases hcomplete : after.isComplete with
  | true => simp [hcomplete]
  | false => simp [hcomplete]

/-! ## The invariant -/

/-- A kept answer that goes out again is a duplicate. -/
theorem Balanced.repeat (h : books.Balanced offered) (peer : Peer) (kept : CachedAnswer) :
    { books with server := books.server.count.repeated peer kept }.Balanced offered := by
  refine ⟨h.1, ?_, h.3, h.4, h.5, h.6, h.7, h.8, h.9⟩
  show books.server.stats.received + 1 =
    books.server.stats.duplicates + 1 + books.server.history.length
  rw [h.received_eq]
  omega

/-- A request that is recorded is one more that came, and one more in the history. -/
theorem Balanced.received_record (h : books.Balanced offered) (request : Message) :
    books.server.stats.received + 1 =
      books.server.stats.duplicates + (books.server.history.push request.record).length := by
  rw [History.length_push, h.received_eq]
  omega

theorem Balanced.records_record (h : books.Balanced offered) (request : Message) :
    (books.server.history.push request.record).records =
      (books.requests ++ [request]).map (·.record) := by
  simp [History.push, h.records_eq]

/-- A request that is ignored is recorded. -/
theorem Balanced.ignore (h : books.Balanced offered) (request : Message) :
    { books with
      server := books.server.ignore request
      requests := books.requests ++ [request] }.Balanced offered := by
  refine ⟨h.1, h.received_record request, ?_, h.records_record request, h.5, h.6, h.7, h.8, h.9⟩
  show (books.server.history.push request.record).length =
    books.server.stats.dropped + 1 + books.server.stats.answered + books.declined
  rw [History.length_push, h.length_eq]
  omega

/-- So is one that is declined. -/
theorem Balanced.decline (h : books.Balanced offered) (request response : Message) (peer : Peer) :
    { books with
      server := (books.server.record request).replied request peer response none
      requests := books.requests ++ [request]
      declined := books.declined + 1 }.Balanced offered := by
  refine ⟨h.1, h.received_record request, ?_, h.records_record request, h.5, h.6, h.7, h.8, h.9⟩
  show (books.server.history.push request.record).length =
    books.server.stats.dropped + books.server.stats.answered + (books.declined + 1)
  rw [History.length_push, h.length_eq]
  omega

/-- The transfer of a request is one under way, or a fresh one. -/
theorem Balanced.transferFor (h : books.Balanced offered)
    (htransfer : books.server.transferFor request.path = .ok transfer) :
    transfer.size.bytes ≤ offered ∧
      (0 < transfer.next → transfer.next * transfer.size.bytes < transfer.payload.length) ∧
      (books.server.transfer? request.path).elim 0 (·.next) = transfer.next := by
  rcases Server.transferFor_eq_ok_iff.1 htransfer with hknown | ⟨hnone, payload, -, rfl⟩
  · obtain ⟨number, hunderWay⟩ := h.underWay transfer (List.mem_of_find?_eq_some hknown)
    refine ⟨hunderWay.size_le, ?_, by rw [hknown]; rfl⟩
    intro _
    rw [hunderWay.next_eq]
    exact hunderWay.more
  · refine ⟨Nat.le_of_eq h.blockSize_eq, ?_, by rw [hnone]; rfl⟩
    intro hpos
    exact absurd hpos (Nat.lt_irrefl 0)

/-- A block that goes out moves its transfer on or ends it, and counts for it. -/
theorem Balanced.transfersWith {after : Transfer} (h : books.Balanced offered)
    (htransfer : books.server.transferFor request.path = .ok transfer)
    (hhandle : transfer.handle request = .ok (response, after)) :
    ((books.server.transfersWith after).map (·.path)).Nodup ∧
      (∀ other ∈ books.server.transfersWith after, ∃ number, other.UnderWay offered number) ∧
      (books.server.transfers.map (·.next)).sum + 1 =
        ((books.server.transfersWith after).map (·.next)).sum +
          if after.isComplete then after.blockCount else 0 := by
  obtain ⟨hsize, hmore, hnext⟩ := h.transferFor htransfer
  have hpath : after.path = request.path :=
    (Transfer.path_of_handle hhandle).trans (Server.path_of_transferFor htransfer)
  have hsum := Transfer.sum_filter_path h.nodup after.path (·.next)
  rw [← Server.transfer?, hpath, hnext] at hsum
  have hnodup : ((books.server.transfers.filter (·.path ≠ after.path)).map (·.path)).Nodup :=
    h.nodup.sublist (List.filter_sublist.map _)
  have hothers : ∀ other ∈ books.server.transfers.filter (·.path ≠ after.path),
      ∃ number, other.UnderWay offered number := by
    intro other hmem
    exact h.underWay other (List.mem_filter.1 hmem).1
  unfold Server.transfersWith
  rcases Transfer.moves_on hhandle hsize hmore with ⟨hgoes, hunderWay⟩ | ⟨hcomplete, hcount⟩
  · rw [hgoes, if_neg Bool.false_ne_true, if_neg Bool.false_ne_true, List.singleton_append]
    refine ⟨?_, ?_, ?_⟩
    · rw [List.map_cons, List.nodup_cons]
      refine ⟨?_, hnodup⟩
      simp
    · exact List.forall_mem_cons.2 ⟨⟨_, hunderWay⟩, hothers⟩
    · rw [List.map_cons, List.sum_cons, hunderWay.next_eq, hpath]
      omega
  · rw [hcomplete, if_pos rfl, if_pos rfl, List.nil_append]
    refine ⟨hnodup, hothers, ?_⟩
    rw [hcount, hpath]
    omega

/-- So is one that gets a block. -/
theorem Balanced.block {after : Transfer} (h : books.Balanced offered)
    (htransfer : books.server.transferFor request.path = .ok transfer)
    (hhandle : transfer.handle request = .ok (response, after)) (peer : Peer) :
    { books with
      server := (books.server.record request).replied request peer response (some after)
      requests := books.requests ++ [request]
      ended := books.ended ++ if after.isComplete then [after] else [] }.Balanced offered := by
  obtain ⟨hnodup, hunderWay, hsum⟩ := h.transfersWith htransfer hhandle
  have hanswered := h.answered_eq
  refine ⟨h.1, h.received_record request, ?_, h.records_record request, hnodup, hunderWay, ?_, ?_,
    ?_⟩
  · show (books.server.history.push request.record).length =
      books.server.stats.dropped + (books.server.stats.answered + 1) + books.declined
    rw [History.length_push, h.length_eq]
    omega
  · show books.server.stats.answered + 1 =
      ((books.server.transfersWith after).map (·.next)).sum +
        ((books.ended ++ if after.isComplete then [after] else []).map (·.blockCount)).sum
    cases hcomplete : after.isComplete with
    | true =>
        rw [hcomplete, if_pos rfl] at hsum
        simp
        omega
    | false =>
        rw [hcomplete, if_neg Bool.false_ne_true] at hsum
        simp
        omega
  · show books.server.stats.completed + (if after.isComplete then 1 else 0) =
      (books.ended ++ if after.isComplete then [after] else []).length
    rw [h.completed_eq]
    cases after.isComplete with
    | true => simp
    | false => simp
  · intro other hmem
    rcases List.mem_append.1 hmem with hended | hnew
    · exact h.isComplete other hended
    · cases hcomplete : after.isComplete with
      | true =>
          rw [hcomplete, if_pos rfl, List.mem_singleton] at hnew
          exact hnew ▸ hcomplete
      | false =>
          rw [hcomplete] at hnew
          cases hnew

/-- **Every input leaves the books balanced.** -/
theorem Balanced.take (h : books.Balanced offered) (input : Input)
    (hrunning : (books.server.take input).failure = none) :
    (books.take input).Balanced offered := by
  have hopen := Server.running_of_take hrunning
  cases input with
  | change change =>
      rw [take_of_old rfl]
      exact ⟨h.1, h.2, h.3, h.4, h.5, h.6, h.7, h.8, h.9⟩
  | message peer message =>
      have htake := Server.take_of_running peer message hopen
      rw [htake] at hrunning
      have hserve := Server.continues_serve rfl hrunning hopen
      rw [← htake] at hserve
      have hheard : { books with
          server := books.server.hearing peer books.server.wokeAt }.Balanced offered :=
        ⟨h.1, h.2, h.3, h.4, h.5, h.6, h.7, h.8, h.9⟩
      generalize hafter : books.server.take (.message peer message) = after at hserve
      cases hserve with
      | passed hmessage =>
          have hold : books.server.newRequest? (.message peer message) = none := by
            simp [Server.newRequest?, hmessage]
          rw [take_of_old hold, hafter]
          exact hheard
      | repeated kept hrequest hkept =>
          have hfits : books.server.lastAnswer.filter (·.fits message) = some kept := hkept
          have hold : books.server.newRequest? (.message peer message) = none := by
            simp [Server.newRequest?, hfits]
          rw [take_of_old hold, hafter]
          exact hheard.repeat peer kept
      | ignored hrequest hnew =>
          have hquiet : books.server.sends (.message peer message) = [] := by
            rw [Server.sends, hafter]
            exact Server.sentBetween_self rfl
          rw [take_of_unanswered (newRequest?_of_new peer hrequest hnew) hquiet, hafter]
          exact hheard.ignore message
      | replied response next hrequest hnew hgate hreply hsendable =>
          have hsends : books.server.sends (.message peer message) =
              [⟨peer.address, response.fittedTo message books.server.endpoint.nextId⟩] := by
            rw [Server.sends, hafter]
            exact Server.sentBetween_replied (books.server.hearing peer _) message peer
              response next
          have hnew := newRequest?_of_new peer hrequest hnew
          rcases books.server.reply_cases message with
            ⟨code, hcode, hdecline, -⟩ | ⟨transfer, mismatch, hrefuse, -⟩ |
              ⟨transfer, response, after, htransfer, hhandle, hblock, -⟩
          · cases hdecline.symm.trans hreply
            rw [take_of_declined hnew hsends hcode, hafter]
            exact hheard.decline message _ peer
          · cases hrefuse.symm.trans hreply
          · cases hblock.symm.trans hreply
            have hcode : response.code = .content := by
              obtain ⟨_, _, _, _, hcarries, _⟩ := Transfer.carriesBlock_of_handle hhandle
              exact hcarries.code
            rw [take_of_block hnew hsends hcode htransfer hhandle, hafter]
            exact hheard.block htransfer hhandle peer

/-- So does every stream. -/
theorem Balanced.takeAll (h : books.Balanced offered) (inputs : List Input)
    (hrunning : (books.server.takeAll inputs).failure = none) :
    (books.takeAll inputs).Balanced offered := by
  induction inputs generalizing books with
  | nil => exact h
  | cons input rest ih => exact ih (h.take input (Server.running_of_takeAll hrunning)) hrunning

/-! ## Main result -/

/-- **The books of a server balance.**  Take any gate, any settings that a server
starts with, any store, and any stream of messages and of changes of the store
after which the server is running.  Then its counts, its history and its transfers
agree with what it was given and what it has sent, and each of its transfers is
the one that is found for its path. -/
theorem balanced_takeAll {endpoint : Endpoint} {gate : Gate} {settings : Settings}
    (hstart : Server.start endpoint gate settings = .ok server) (store : Store)
    (inputs : List Input) (hrunning : ({ server with store }.takeAll inputs).failure = none) :
    let books := (begin { server with store }).takeAll inputs
    books.server = { server with store }.takeAll inputs ∧ books.Balanced settings.blockSize ∧
      ∀ transfer ∈ books.server.transfers,
        books.server.transfer? transfer.path = some transfer := by
  intro books
  have hfresh : (begin { server with store }).Balanced settings.blockSize := by
    unfold Server.start at hstart
    split at hstart
    · cases hstart
    · rename_i size hvalid
      cases hstart
      have hsize : size.bytes = settings.blockSize := by
        unfold Settings.validBlockSize BlockSize.ofBytes at hvalid
        split at hvalid
        · cases hvalid
          exact BlockSize.bytes_of_ofBytes? ‹_›
        · cases hvalid
      exact ⟨hsize, rfl, rfl, rfl, List.nodup_nil, by simp [begin], rfl, rfl, by simp [begin]⟩
  have hbalanced := hfresh.takeAll inputs hrunning
  refine ⟨server_takeAll _ inputs, hbalanced, ?_⟩
  intro transfer hmem
  exact Transfer.find?_path_of_mem hbalanced.nodup hmem

/-- Of two downloads one is done and the other one has still to come back for its
second block, which was ignored once; a request was sent twice, and one was for
nothing that there is. -/
theorem balanced_takeAll_two_downloads :
    let again : List Input := [.message ⟨.v4 127 0 0 1, 40001⟩ (Server.readBlock 5 97 1),
      .message ⟨.v4 127 0 0 1, 40001⟩ (Server.readBlock 7 99 0)]
    let inputs := Server.twoDownloads.take 5 ++ again
    let books := (begin Server.twoFiles).takeAll inputs
    (Server.twoFiles.takeAll inputs).failure = none ∧ books.Balanced 16 ∧
      books.requests.length = 6 ∧ books.declined = 1 ∧ books.ended.length = 1 ∧
      books.server.transfers.length = 1 := by
  intro again inputs books
  have hstart : Server.start (Endpoint.bind (.v4 127 0 0 1 5683) .none 0)
      ModuloBackoff.standard.gate { Settings.standard with blockSize := 16 } =
      .ok (Server.fresh (Endpoint.bind (.v4 127 0 0 1 5683) .none 0) ModuloBackoff.standard.gate
        Settings.standard BlockSize.smallest) :=
    Server.start_eq_ok ModuloBackoff.standard.gate rfl
  have hrunning : (Server.twoFiles.takeAll inputs).failure = none := by decide +kernel
  obtain ⟨-, hbalanced, -⟩ := balanced_takeAll hstart Server.twoFiles.store inputs hrunning
  exact ⟨hrunning, hbalanced, by decide +kernel, by decide +kernel, by decide +kernel,
    by decide +kernel⟩

end Books
end Blockwise
