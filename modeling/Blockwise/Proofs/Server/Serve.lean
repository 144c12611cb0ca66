import Blockwise.Proofs.Server.Answer

/-!
# What one request does to a server

A request that repeats no answered one is recorded.  Then the gate ignores it,
and nothing but the record and the counts has changed, or it is answered.

* `Server.serve_of_gate` — the server after a request that the gate ignores.
* `Server.serve_of_handle` — the server after a request that its transfer
  answers with a block.
-/

namespace Blockwise

/-- A request to read is a request. -/
theorem Message.isRequest_of_get {message : Message} (h : message.code = .get) :
    message.isRequest = true := by
  rw [isRequest, h]
  decide

namespace Transfer

theorem path_of_handle {transfer after : Transfer} {request response : Message}
    (h : transfer.handle request = .ok (response, after)) : after.path = transfer.path := by
  obtain ⟨-, -, -, -, -, rfl⟩ := carriesBlock_of_handle h
  rfl

end Transfer

/-- The stats when a block went out and the transfer has come this far. -/
def Stats.afterBlock (stats : Stats) (after : Transfer) : Stats :=
  { stats with
    answered := stats.answered + 1
    completed := stats.completed + if after.isComplete then 1 else 0 }

namespace Server

variable {server : Server} {request response fitted : Message} {transfer after : Transfer}
  {endpoint sent : Endpoint}

/-! ## Starting -/

/-- A server that has just started. -/
def fresh (endpoint : Endpoint) (gate : Gate) (settings : Settings) (size : BlockSize) :
    Server where
  endpoint := endpoint
  store := Store.empty endpoint.socket.address endpoint.security.scheme
  history := History.empty
  gate := gate
  blockSize := size
  idleTimeout := settings.receiveTimeout
  transfers := []
  lastAnswer := none
  stats := Stats.zero
  failure := none
  wokeAt := 0

/-- A server starts if the settings have a block size. -/
theorem start_eq_ok (gate : Gate) {settings : Settings} {size : BlockSize}
    (h : settings.blockSize = size.bytes) :
    start endpoint gate settings = .ok (fresh endpoint gate settings size) := by
  have hvalid : settings.validBlockSize = .ok size := by
    rw [Settings.validBlockSize, h, BlockSize.ofBytes, BlockSize.ofBytes?_bytes]
  rw [start, hvalid]
  rfl

/-! ## A request that is new -/

/-- A request that repeats no answered one is counted and considered. -/
theorem serve_of_new (hrequest : request.isRequest = true)
    (hnew : server.lastAnswer.filter (·.fits request) = none) :
    server.serve request =
      (server.tally fun stats => { stats with received := stats.received + 1 }).consider
        request := by
  rw [serve, if_pos hrequest]
  simp only [tally, hnew]

/-! ## A request that is ignored -/

/-- **A request that the gate ignores** is recorded and counted, and that is
all. -/
theorem serve_of_gate (hrequest : request.isRequest = true)
    (hnew : server.lastAnswer.filter (·.fits request) = none)
    (hgate : server.gate request (server.history.count request.record) = true) :
    server.serve request =
      { server with
        history := server.history.push request.record
        stats := { server.stats with
          received := server.stats.received + 1
          dropped := server.stats.dropped + 1 } } := by
  rw [serve_of_new hrequest hnew]
  simp only [consider, tally, History.arrive, hgate, if_true]

/-! ## A request that is answered -/

/-- An answer that is sent is kept if the request is confirmable. -/
theorem answer_of_sent (hfitted : server.endpoint.correlate request response = (fitted, endpoint))
    (hsent : endpoint.sendMessage fitted = .ok sent) :
    server.answer request response =
      { server with
        endpoint := sent
        lastAnswer :=
          if request.isConfirmable then some ⟨request.id, request.token, fitted⟩
          else server.lastAnswer } := by
  simp only [answer, hfitted, hsent]

/-- The transfers when a transfer has come this far: the others, and this one
unless it is complete. -/
def transfersWith (server : Server) (after : Transfer) : List Transfer :=
  (if after.isComplete then [] else [after]) ++ server.transfers.filter (·.path ≠ after.path)

/-- A request that its transfer answers. -/
theorem serveBlock_of_handle (hopen : server.failure = none)
    (hhandle : transfer.handle request = .ok (response, after))
    (hfitted : server.endpoint.correlate request response = (fitted, endpoint))
    (hsent : endpoint.sendMessage fitted = .ok sent) :
    server.serveBlock transfer request =
      { server with
        endpoint := sent
        lastAnswer :=
          if request.isConfirmable then some ⟨request.id, request.token, fitted⟩
          else server.lastAnswer
        transfers := server.transfersWith after
        stats := Stats.afterBlock server.stats after } := by
  have hpath := Transfer.path_of_handle hhandle
  have hkept : ((server.keepTransfer transfer).keepTransfer after).endpoint.correlate request
      response = (fitted, endpoint) := hfitted
  have hanswer := answer_of_sent hkept hsent
  simp only [serveBlock, hhandle, hanswer]
  rw [if_neg (by simp [isStopped, keepTransfer, hopen])]
  -- Keeping, replacing and dropping a transfer leaves the transfers of other paths.
  by_cases hcomplete : after.isComplete = true
  · simp [countBlock, keepTransfer, dropTransfer, tally, hcomplete, transfersWith,
      Stats.afterBlock, hpath]
  · simp [countBlock, keepTransfer, dropTransfer, tally, hcomplete, transfersWith,
      Stats.afterBlock, hpath]

/-- **A request that its transfer answers with a block.**  It is recorded and
counted, the answer is sent and kept, and the transfer moves on or ends. -/
theorem serve_of_handle (hopen : server.failure = none) (hcode : request.code = .get)
    (hnew : server.lastAnswer.filter (·.fits request) = none)
    (hgate : server.gate request (server.history.count request.record) = false)
    (htransfer : server.transferFor request.path = .ok transfer)
    (hhandle : transfer.handle request = .ok (response, after))
    (hfitted : server.endpoint.correlate request response = (fitted, endpoint))
    (hsent : endpoint.sendMessage fitted = .ok sent) :
    server.serve request =
      { server with
        endpoint := sent
        history := server.history.push request.record
        lastAnswer :=
          if request.isConfirmable then some ⟨request.id, request.token, fitted⟩
          else server.lastAnswer
        transfers := server.transfersWith after
        stats := Stats.afterBlock
          { server.stats with received := server.stats.received + 1 } after } := by
  rw [serve_of_new (Message.isRequest_of_get hcode) hnew]
  simp only [consider, tally, History.arrive, hgate, Bool.false_eq_true, if_false]
  rw [respond, if_neg (not_not_intro hcode)]
  have hfor : transferFor { server with
      stats := { server.stats with received := server.stats.received + 1 }
      history := server.history.push request.record } request.path = .ok transfer := htransfer
  simp only [hfor]
  exact serveBlock_of_handle hopen hhandle hfitted hsent

end Server
end Blockwise
