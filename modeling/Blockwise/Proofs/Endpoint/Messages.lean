import Mathlib.Data.List.Basic
import Blockwise.Proofs.Endpoint.Waits
import Blockwise.Proofs.Server.Loop

/-!
# What becomes of the peer's messages

An endpoint has two readers, `receive` and the wait for a response, one queue and
one socket.  Whatever is called and however the waits end, no message of the peer
gets lost, comes twice or out of turn.

* `Endpoint.Call`, `Endpoint.Log` — the calls, and a run of them with a record
  of what was read, received and answered since the connection was reset last.
* `Endpoint.Log.Accounted` — the invariant: what was received and then the queue
  are what was read, without the responses and the acknowledgements;
  `Endpoint.Log.Accounted.step` says that every call preserves it.
* `Endpoint.WaitsFor` — what the waits of an endpoint with a peer come to.
* `Endpoint.Log.nothing_lost` — the messages of an accepted sender, whatever is
  called as long as the connection lasts.
-/

namespace Blockwise

/-- Whether an address has neither flow label nor scope. -/
def SocketAddress.isPlain : SocketAddress → Bool
  | .v4 .. => true
  | .v6 _ _ flow scope => flow = 0 && scope = 0

/-- A plain address is known again by the peer. -/
theorem SocketAddress.address_ofAddress {address : SocketAddress} (h : address.isPlain = true) :
    (Peer.ofAddress address).address = address := by
  cases address with
  | v4 a b c d port => rfl
  | v6 groups port flow scope =>
      obtain ⟨rfl, rfl⟩ : flow = 0 ∧ scope = 0 := by simpa [isPlain] using h
      rfl

namespace Endpoint

/-! ## Calls -/

/-- The endpoint with datagrams on their way to it, each with its delay from a
point in time. -/
def deliverAll (endpoint : Endpoint) (now : Nat) (datagrams : List (Nat × Datagram)) : Endpoint :=
  { endpoint with socket := endpoint.socket.deliverAll now datagrams }

/-- What can be asked of an endpoint, waits with the time at which they begin. -/
inductive Call where
  /-- Datagrams are sent to it, each with its delay. -/
  | deliver (now : Nat) (datagrams : List (Nat × Datagram))
  /-- To accept a sender. -/
  | accept (now : Nat) (limit : Option Nat)
  /-- To receive a message of the peer. -/
  | receive (now : Nat) (limit : Option Nat)
  /-- To ask the peer and to wait for its response; the datagrams are what the
  request makes others send. -/
  | request (now limit : Nat) (message : Message) (token : Bytes)
      (replies : List (Nat × Datagram))
  /-- To answer a request. -/
  | reply (request response : Message)
  /-- To send a message as it is. -/
  | send (message : Message)
  /-- To forget the peer. -/
  | reset

/-- Whether a call leaves the choice of the peer alone. -/
def Call.keepsPeer : Call → Bool
  | .accept _ _ => false
  | .reset => false
  | _ => true

/-! ## The log -/

/-- A message of the peer, with the request whose response was awaited when it
was read, if one was. -/
structure Heard where
  message : Message
  asked : Option Message

/-- Whether it is the response. -/
def Heard.isAnswer (heard : Heard) : Bool := heard.asked.any (heard.message.answers ·)

/-- Whether it is an empty acknowledgement of the request. -/
def Heard.isReceipt (heard : Heard) : Bool := heard.asked.any (heard.message.acknowledges ·)

/-- Whether it is kept to be received. -/
def Heard.isKept (heard : Heard) : Bool := !heard.isAnswer && !heard.isReceipt

/-- A datagram that was read, with the peer that was listened to, if it was not
anyone, and the request whose response was awaited. -/
structure Read where
  datagram : Datagram
  peer : Option Peer
  asked : Option Message

/-- The message in a datagram, if it is of someone who was listened to. -/
def Read.message? (read : Read) : Option Message :=
  read.datagram.message.toOption.filter fun _ =>
    read.peer.all (read.datagram.source = ·.address)

/-- The message that a datagram brought to be received. -/
def Read.kept? (read : Read) : Option Message :=
  read.message?.filter fun message => Heard.isKept ⟨message, read.asked⟩

/-- The message that a datagram brought as a response. -/
def Read.answer? (read : Read) : Option Message :=
  read.message?.filter fun message => Heard.isAnswer ⟨message, read.asked⟩

/-- An endpoint with a record of what has happened since it was reset last. -/
structure Log where
  endpoint : Endpoint
  /-- The datagrams that were read from the socket, in order. -/
  reads : List Read
  /-- The messages that were received, in order. -/
  received : List Message
  /-- The responses that requests got, in order. -/
  answers : List Message
  /-- How many of the queued messages were there before the peer was accepted. -/
  backlog : Nat

namespace Log

/-- The log of an endpoint that has just been reset. -/
def start (endpoint : Endpoint) : Log :=
  { endpoint := endpoint.reset, reads := [], received := [], answers := [], backlog := 0 }

/-- The log when a wait has ended that began at an endpoint and listened to a
peer, or to anyone. -/
def afterWait {α : Type} (log : Log) (began : Endpoint) (waited : Waited α) (peer : Option Peer)
    (asked : Option Message) : Log :=
  { log with
    endpoint := waited.endpoint
    reads := log.reads ++
      (Socket.usedUp began.socket.arrivals waited.endpoint.socket.arrivals).map
        fun datagram => ⟨datagram, peer, asked⟩ }

/-- The log after a call. -/
def step (log : Log) : Call → Log
  | .deliver now datagrams => { log with endpoint := log.endpoint.deliverAll now datagrams }
  | .accept now limit =>
    let accepted := log.endpoint.accept now limit
    { log.afterWait log.endpoint accepted none none with
      backlog :=
        match accepted.result with
        | .ok _ => log.endpoint.pending.length
        | .error _ => log.backlog }
  | .receive now limit =>
    let received := log.endpoint.receive now limit
    { log.afterWait log.endpoint received log.endpoint.peer none with
      received := log.received ++ received.result.toOption.toList
      backlog := log.backlog - 1 }
  | .request now limit message token replies =>
    match log.endpoint.ask message token with
    | (.error _, endpoint) => { log with endpoint }
    | (.ok request, endpoint) =>
      let waiting := endpoint.deliverAll now replies
      let waited := waiting.awaitResponse now limit request
      { log.afterWait waiting waited waiting.peer (some request) with
        answers := log.answers ++ waited.result.toOption.toList }
  | .reply request response => { log with endpoint := (log.endpoint.reply request response).2 }
  | .send message =>
    { log with endpoint := (log.endpoint.sendMessage message).toOption.getD log.endpoint }
  | .reset => start log.endpoint

/-- The log after a list of calls. -/
def run (log : Log) (calls : List Call) : Log := calls.foldl step log

/-- The messages of a sender among what was read, in order. -/
def heard (log : Log) (sender : SocketAddress) : List Heard :=
  log.reads.filterMap fun read =>
    (read.datagram.messageFrom? sender).map (⟨·, read.asked⟩)

/-! ## Reading -/

theorem filterMap_reads_afterWait {α β : Type} (f : Read → Option β) (log : Log)
    (began : Endpoint) (waited : Waited α) (peer : Option Peer) (asked : Option Message) :
    (log.afterWait began waited peer asked).reads.filterMap f =
      log.reads.filterMap f ++
        (Socket.usedUp began.socket.arrivals waited.endpoint.socket.arrivals).filterMap
          fun datagram => f ⟨datagram, peer, asked⟩ := by
  rw [afterWait, List.filterMap_append, List.filterMap_map]
  rfl

/-- Only a reset forgets what was read. -/
theorem reads_step {call : Call} (hcall : call ≠ .reset) (log : Log) :
    log.reads <+: (log.step call).reads := by
  cases call with
  | reset => exact absurd rfl hcall
  | deliver now datagrams => exact List.prefix_refl _
  | reply request response => exact List.prefix_refl _
  | send message => exact List.prefix_refl _
  | accept now limit => exact List.prefix_append _ _
  | receive now limit => exact List.prefix_append _ _
  | request now limit message token replies =>
      rw [step]
      split
      · exact List.prefix_refl _
      · exact List.prefix_append _ _

theorem reads_run {calls : List Call} (hcalls : ∀ call ∈ calls, call ≠ .reset) (log : Log) :
    log.reads <+: (log.run calls).reads := by
  induction calls generalizing log with
  | nil => exact List.prefix_refl _
  | cons call calls ih =>
      obtain ⟨hcall, hrest⟩ := List.forall_mem_cons.1 hcalls
      exact (reads_step hcall log).trans (ih hrest (log.step call))

end Log

/-- To accept is to keep every readable datagram that is read. -/
theorem Read.kept?_of_anyone (datagram : Datagram) :
    Read.kept? ⟨datagram, none, none⟩ = datagram.message.toOption := by
  cases hmessage : datagram.message.toOption <;>
    simp [kept?, message?, hmessage, Heard.isKept, Heard.isAnswer, Heard.isReceipt, Option.filter]

/-- To receive is to keep every message of the peer that is read. -/
theorem Read.kept?_of_peer (datagram : Datagram) (peer : Peer) :
    Read.kept? ⟨datagram, some peer, none⟩ = datagram.messageFrom? peer.address := by
  simp [kept?, message?, Heard.isKept, Heard.isAnswer, Heard.isReceipt, Datagram.messageFrom?]

theorem Read.answer?_of_none (datagram : Datagram) (peer : Option Peer) :
    Read.answer? ⟨datagram, peer, none⟩ = none := by
  simp [answer?, Heard.isAnswer]

section Waits

variable {endpoint : Endpoint} {peer : Peer}

/-- Whoever is accepted brings the only message that is read. -/
theorem pending_accept (endpoint : Endpoint) (now : Nat) (limit : Option Nat) :
    let accepted := endpoint.accept now limit
    accepted.endpoint.pending = endpoint.pending ++
      (Socket.usedUp endpoint.socket.arrivals accepted.endpoint.socket.arrivals).filterMap
        fun datagram => Read.kept? ⟨datagram, none, none⟩ := by
  obtain ⟨passed, hused, hpassed⟩ := endpoint.usedUp_accept now limit
  simp only [Read.kept?_of_anyone]
  rw [hused, List.filterMap_append, List.filterMap_eq_nil_iff.2 hpassed, List.nil_append]
  rcases endpoint.accept_cases_of now limit with
    ⟨hnone, -, hafter⟩ | ⟨_, arrival, message, unread, hfirst, -, -, hmessage, -, hafter⟩
  · simp [hnone, hafter, withArrivals]
  · simp [hfirst, hafter, hmessage]

/-- What is received from the socket is the only message of the peer that is
read. -/
theorem toList_receive (hpending : endpoint.pending = []) (hpeer : endpoint.peer = some peer)
    (now : Nat) (limit : Option Nat) :
    let received := endpoint.receive now limit
    received.result.toOption.toList =
      (Socket.usedUp endpoint.socket.arrivals received.endpoint.socket.arrivals).filterMap
        fun datagram => Read.kept? ⟨datagram, some peer, none⟩ := by
  obtain ⟨-, htaken⟩ := Socket.usedUp_read (judgePeer peer) (limit.map (now + ·)) now
    endpoint.socket.arrivals
  simp only [taken?_judgePeer] at htaken
  simp only [Read.kept?_of_peer]
  rw [endpoint_receive hpending hpeer]
  refine Eq.trans ?_ htaken.symm
  simp only [receive, hpending, hpeer]
  cases (Socket.read (judgePeer peer) (limit.map (now + ·)) now endpoint.socket.arrivals).taken
  · rfl
  · rfl

/-- A wait for a response queues what is kept of what it reads, and its result is
the only response that it reads. -/
theorem pending_awaitResponse (hpeer : endpoint.peer = some peer) (now limit : Nat)
    (request : Message) :
    let waited := endpoint.awaitResponse now limit request
    let used := Socket.usedUp endpoint.socket.arrivals waited.endpoint.socket.arrivals
    waited.endpoint.pending = endpoint.pending ++
        used.filterMap (fun datagram => Read.kept? ⟨datagram, some peer, some request⟩) ∧
      waited.result.toOption.toList =
        used.filterMap fun datagram => Read.answer? ⟨datagram, some peer, some request⟩ := by
  obtain ⟨hkept, htaken⟩ := Socket.usedUp_read (judgeResponse peer request) (some (now + limit))
    now endpoint.socket.arrivals
  simp only [kept?_judgeResponse, taken?_judgeResponse] at hkept htaken
  simp only [endpoint_awaitResponse hpeer]
  refine ⟨congrArg (endpoint.pending ++ ·) hkept.symm, Eq.trans ?_ htaken.symm⟩
  simp only [awaitResponse, hpeer]
  cases (Socket.read (judgeResponse peer request) (some (now + limit)) now
    endpoint.socket.arrivals).taken
  · rfl
  · rfl

end Waits

/-- What the waits of an endpoint with a peer come to. -/
structure WaitsFor (endpoint : Endpoint) (peer : Peer) : Prop where
  /-- What is queued is received first, and then the first message of the peer that
  comes in time. -/
  received : ∀ now limit, (endpoint.receive now limit).result =
    (endpoint.pending.head?.or
      ((Socket.dueBy (limit.map (now + ·)) endpoint.socket.arrivals).findSome?
        (·.datagram.messageFrom? peer.address))).elim
      (.error (expired limit (.message peer))) .ok
  /-- To receive nothing in time has used up what came, and nothing else changes. -/
  silent : ∀ now limit failure, (endpoint.receive now limit).result = .error failure →
    (endpoint.receive now limit).endpoint = endpoint.withArrivals
      (Socket.lateFor (limit.map (now + ·)) endpoint.socket.arrivals)
  /-- The response to a request is the first message of the peer that comes in time
  and answers it. -/
  response : ∀ now limit request, (endpoint.awaitResponse now limit request).result =
    ((Socket.dueBy (some (now + limit)) endpoint.socket.arrivals).findSome? fun arrival =>
      (arrival.datagram.messageFrom? peer.address).filter (·.answers request)).elim
      (.error (.timeout (.response request))) .ok
  /-- To get no response in time has used up what came and queued what the peer sent
  besides acknowledgements, and nothing else changes. -/
  unanswered : ∀ now limit request failure,
    (endpoint.awaitResponse now limit request).result = .error failure →
    (endpoint.awaitResponse now limit request).endpoint =
      { endpoint.withArrivals (Socket.lateFor (some (now + limit)) endpoint.socket.arrivals) with
        pending := endpoint.pending ++
          (Socket.dueBy (some (now + limit)) endpoint.socket.arrivals).filterMap fun arrival =>
            (arrival.datagram.messageFrom? peer.address).filter fun message =>
              !message.answers request && !message.acknowledges request }
  /-- What is unread stays as it is. -/
  unread : ∀ now limit,
    (endpoint.receive now limit).endpoint.socket.arrivals <:+ endpoint.socket.arrivals
  unreadBehind : ∀ now limit request,
    (endpoint.awaitResponse now limit request).endpoint.socket.arrivals <:+
      endpoint.socket.arrivals

/-- Every endpoint with a peer waits for it. -/
theorem waitsFor_of_peer {endpoint : Endpoint} {peer : Peer} (hpeer : endpoint.peer = some peer) :
    endpoint.WaitsFor peer where
  received now limit := by
    cases hpending : endpoint.pending with
    | cons message rest =>
        rw [receive_of_pending hpending]
        rfl
    | nil => exact result_receive hpending hpeer now limit
  silent now limit failure herror := endpoint_of_receive_error hpeer herror
  response now limit request := result_awaitResponse hpeer now limit request
  unanswered now limit request failure herror := endpoint_of_awaitResponse_error hpeer herror
  unread now limit := suffix_receive endpoint now limit
  unreadBehind now limit request := suffix_awaitResponse endpoint now limit request

/-! ## The invariant -/

namespace Log

/-- Every message that was read has been received, is queued, was the response to
a request or acknowledged one; and what is queued is from a peer. -/
structure Accounted (log : Log) : Prop where
  kept_eq : log.received ++ log.endpoint.pending = log.reads.filterMap Read.kept?
  answers_eq : log.answers = log.reads.filterMap Read.answer?
  connected : log.endpoint.pending ≠ [] → log.endpoint.isConnected = true

variable {log : Log}

theorem accounted_start (endpoint : Endpoint) : (start endpoint).Accounted :=
  ⟨rfl, rfl, fun hpending => absurd rfl hpending⟩

/-- What changes nothing that is received or listened to keeps the account. -/
theorem Accounted.inbound (h : log.Accounted) {after : Endpoint}
    (hafter : after.inbound = log.endpoint.inbound) :
    Accounted { log with endpoint := after } := by
  have hpending : after.pending = log.endpoint.pending := congrArg (·.pending) hafter
  have hpeer : after.peer = log.endpoint.peer := congrArg (·.peer) hafter
  refine ⟨?_, h.answers_eq, ?_⟩
  · show log.received ++ after.pending = _
    rw [hpending, h.kept_eq]
  · show after.pending ≠ [] → after.peer.isSome = true
    rw [hpending, hpeer]
    exact h.connected

/-- A wait keeps the account if it receives or queues what it keeps of what it
reads, and gives the response that it reads. -/
theorem Accounted.afterWait (h : log.Accounted) {α : Type} {began : Endpoint} {waited : Waited α}
    {peer : Option Peer} {asked : Option Message} {received answers : List Message} {backlog : Nat}
    (hkept : received ++ waited.endpoint.pending = (log.received ++ log.endpoint.pending) ++
      (Socket.usedUp began.socket.arrivals waited.endpoint.socket.arrivals).filterMap
        fun datagram => Read.kept? ⟨datagram, peer, asked⟩)
    (hanswers : answers = log.answers ++
      (Socket.usedUp began.socket.arrivals waited.endpoint.socket.arrivals).filterMap
        fun datagram => Read.answer? ⟨datagram, peer, asked⟩)
    (hconnected : waited.endpoint.pending ≠ [] → waited.endpoint.isConnected = true) :
    Accounted { log.afterWait began waited peer asked with received, answers, backlog } where
  kept_eq := by rw [filterMap_reads_afterWait, ← h.kept_eq, ← hkept]; rfl
  answers_eq := by rw [filterMap_reads_afterWait, ← h.answers_eq, hanswers]
  connected := hconnected

theorem Accounted.accept (h : log.Accounted) (now : Nat) (limit : Option Nat) :
    (log.step (.accept now limit)).Accounted := by
  refine h.afterWait ?_ ?_ ?_
  · show log.received ++ (log.endpoint.accept now limit).endpoint.pending = _
    rw [pending_accept, List.append_assoc]
  · show log.answers = _
    simp [Read.answer?_of_none]
  · rcases log.endpoint.accept_cases_of now limit with
      ⟨-, -, hafter⟩ | ⟨_, _, _, _, -, -, -, -, -, hafter⟩
    · rw [hafter]
      exact h.connected
    · rw [hafter]
      intro _
      rfl

theorem Accounted.receive (h : log.Accounted) (now : Nat) (limit : Option Nat) :
    (log.step (.receive now limit)).Accounted := by
  have hanswers {used : List Datagram} : log.answers = log.answers ++ used.filterMap
      fun datagram => Read.answer? ⟨datagram, log.endpoint.peer, none⟩ := by
    simp [Read.answer?_of_none]
  refine h.afterWait ?_ hanswers ?_
  · cases hpending : log.endpoint.pending with
    | cons message rest =>
        -- What is queued is received, and nothing is read.
        rw [receive_of_pending hpending]
        simp [Except.toOption]
    | nil =>
        cases hpeer : log.endpoint.peer with
        | none => simp [Endpoint.receive, hpending, hpeer, Except.toOption]
        | some peer =>
            have hnothing : (log.endpoint.receive now limit).endpoint.pending = [] := by
              rw [endpoint_receive hpending hpeer]
              exact hpending
            rw [← toList_receive hpending hpeer, hnothing, List.append_nil, List.append_nil]
  · intro hqueued
    cases hpending : log.endpoint.pending with
    | cons message rest =>
        rw [receive_of_pending hpending]
        exact h.connected (by simp [hpending])
    | nil =>
        cases hpeer : log.endpoint.peer with
        | none => simp [Endpoint.receive, hpending, hpeer] at hqueued
        | some peer =>
            rw [endpoint_receive hpending hpeer]
            simp [isConnected, withArrivals, hpeer]

theorem Accounted.request (h : log.Accounted) (now limit : Nat) (message : Message)
    (token : Bytes) (replies : List (Nat × Datagram)) :
    (log.step (.request now limit message token replies)).Accounted := by
  have hinbound := inbound_ask log.endpoint message token
  rw [step]
  cases hask : log.endpoint.ask message token with
  | mk result sent =>
      rw [hask] at hinbound
      cases result with
      | error failure => exact h.inbound hinbound
      | ok request =>
          -- What is read is read from the peer, behind what the request has made others send.
          have hpending : sent.pending = log.endpoint.pending := congrArg (·.pending) hinbound
          have hsame : sent.peer = log.endpoint.peer := congrArg (·.peer) hinbound
          obtain ⟨peer, hpeer⟩ := Option.isSome_iff_exists.1 (isConnected_of_ask hask)
          have hknown : (sent.deliverAll now replies).peer = some peer := hsame.trans hpeer
          obtain ⟨hkept, hanswer⟩ := pending_awaitResponse hknown now limit request
          refine h.afterWait ?_ ?_ ?_
          · show log.received ++ ((sent.deliverAll now replies).awaitResponse now limit
              request).endpoint.pending = _
            rw [hkept, hknown, ← List.append_assoc]
            exact congrArg (log.received ++ · ++ _) hpending
          · show log.answers ++ _ = _
            rw [hanswer, hknown]
          · intro _
            rw [endpoint_awaitResponse hknown]
            simp [isConnected, withArrivals, hknown]

/-- Every call preserves the account. -/
theorem Accounted.step (h : log.Accounted) (call : Call) : (log.step call).Accounted := by
  cases call with
  | deliver now datagrams => exact ⟨h.kept_eq, h.answers_eq, h.connected⟩
  | accept now limit => exact h.accept now limit
  | receive now limit => exact h.receive now limit
  | request now limit message token replies => exact h.request now limit message token replies
  | reply request response => exact h.inbound (inbound_reply log.endpoint request response)
  | send message => exact h.inbound (inbound_send log.endpoint message)
  | reset => exact accounted_start log.endpoint

/-- **The account holds along every run.** -/
theorem Accounted.run (h : log.Accounted) (calls : List Call) : (log.run calls).Accounted := by
  induction calls generalizing log with
  | nil => exact h
  | cons call calls ih => exact ih (h.step call)

/-! ## The messages of one sender -/

/-- The log has read from no one but a peer, up to what nobody can read, and it
still listens to that peer. -/
structure Hears (log : Log) (peer : Peer) : Prop where
  peer_eq : log.endpoint.peer = some peer
  reads_eq : ∀ read ∈ log.reads, read.message? = read.datagram.messageFrom? peer.address

variable {peer : Peer}

/-- What a wait for the peer reads, it reads from the peer. -/
theorem Hears.afterWait (h : log.Hears peer) {α : Type} (began : Endpoint) {waited : Waited α}
    {listened : Option Peer} (asked : Option Message) (hlistened : listened = some peer)
    (hpeer : waited.endpoint.peer = some peer) :
    (log.afterWait began waited listened asked).Hears peer := by
  refine ⟨hpeer, ?_⟩
  intro read hmem
  rcases List.mem_append.1 hmem with hbefore | hnew
  · exact h.reads_eq read hbefore
  · obtain ⟨datagram, -, rfl⟩ := List.mem_map.1 hnew
    rw [hlistened]
    rfl

/-- As long as the connection lasts the log hears its peer. -/
theorem Hears.step (h : log.Hears peer) {call : Call} (hcall : call.keepsPeer = true) :
    (log.step call).Hears peer := by
  have hinbound {after : Endpoint} (hafter : after.inbound = log.endpoint.inbound) :
      Hears { log with endpoint := after } peer := by
    have hsame : after.peer = log.endpoint.peer := congrArg (·.peer) hafter
    exact ⟨hsame.trans h.peer_eq, h.reads_eq⟩
  cases call with
  | accept now limit => cases hcall
  | reset => cases hcall
  | deliver now datagrams => exact ⟨h.peer_eq, h.reads_eq⟩
  | reply request response => exact hinbound (inbound_reply log.endpoint request response)
  | send message => exact hinbound (inbound_send log.endpoint message)
  | receive now limit =>
      have hpeer : (log.endpoint.receive now limit).endpoint.peer = some peer :=
        (peer_receive log.endpoint now limit).trans h.peer_eq
      have hafter := h.afterWait log.endpoint none h.peer_eq hpeer
      exact ⟨hafter.peer_eq, hafter.reads_eq⟩
  | request now limit message token replies =>
      have hask := inbound_ask log.endpoint message token
      rw [Log.step]
      cases hasked : log.endpoint.ask message token with
      | mk result sent =>
          rw [hasked] at hask
          cases result with
          | error failure => exact hinbound hask
          | ok request =>
              have hsame : sent.peer = log.endpoint.peer := congrArg (·.peer) hask
              have hknown : (sent.deliverAll now replies).peer = some peer :=
                hsame.trans h.peer_eq
              have hpeer : ((sent.deliverAll now replies).awaitResponse now limit
                  request).endpoint.peer = some peer := by
                rw [endpoint_awaitResponse hknown]
                exact hknown
              have hafter := h.afterWait (sent.deliverAll now replies) (some request) hknown hpeer
              exact ⟨hafter.peer_eq, hafter.reads_eq⟩

/-- As long as the connection lasts, a run hears its peer. -/
theorem Hears.run (h : log.Hears peer) {calls : List Call}
    (hcalls : ∀ call ∈ calls, call.keepsPeer = true) : (log.run calls).Hears peer := by
  induction calls generalizing log with
  | nil => exact h
  | cons call calls ih =>
      obtain ⟨hcall, hrest⟩ := List.forall_mem_cons.1 hcalls
      exact ih (h.step hcall) hrest

/-- What is chosen of the messages that a log has read is what is chosen of its
peer's. -/
theorem Hears.filterMap_eq (h : log.Hears peer) (choose : Heard → Bool) :
    log.reads.filterMap (fun read => read.message?.filter fun message =>
        choose ⟨message, read.asked⟩) =
      ((log.heard peer.address).filter choose).map (·.message) := by
  rw [heard, List.filter_filterMap, List.map_filterMap]
  apply List.filterMap_congr
  intro read hmem
  rw [h.reads_eq read hmem]
  cases read.datagram.messageFrom? peer.address with
  | none => rfl
  | some message =>
      cases hchosen : choose ⟨message, read.asked⟩ <;> simp [Option.filter, hchosen]

/-- Whoever is accepted after a reset is the one that the log hears, and the
message that it was accepted by is the first. -/
theorem hears_accept (endpoint : Endpoint) {now : Nat} {limit : Option Nat} {arrival : Arrival}
    (hfirst : Socket.firstReadable (limit.map (now + ·)) endpoint.socket.arrivals = some arrival)
    (hplain : arrival.datagram.source.isPlain = true) :
    let log := (start endpoint).step (.accept now limit)
    log.Hears (Peer.ofAddress arrival.datagram.source) ∧
      (endpoint.reset.accept now limit).result =
        .ok (Peer.ofAddress arrival.datagram.source) ∧
      ∃ message, arrival.datagram.message.toOption = some message ∧
        log.heard arrival.datagram.source = [⟨message, none⟩] := by
  intro log
  obtain ⟨passed, hused, hpassed⟩ := endpoint.reset.usedUp_accept now limit
  rcases endpoint.reset.accept_cases_of now limit with
    ⟨hnone, -⟩ | ⟨_, found, message, unread, hfound, -, -, hmessage, hresult, hafter⟩
  · cases hnone.symm.trans hfirst
  · obtain rfl : found = arrival := Option.some.inj (hfound.symm.trans hfirst)
    have hreads : log.reads = (passed ++ [found.datagram]).map (⟨·, none, none⟩) := by
      rw [hfound] at hused
      exact congrArg (·.map (Read.mk · none none)) hused
    have hsender : (Peer.ofAddress found.datagram.source).address = found.datagram.source :=
      SocketAddress.address_ofAddress hplain
    have hsent : found.datagram.messageFrom? found.datagram.source = some message := by
      simp [Datagram.messageFrom?, hmessage, Option.filter]
    have hunread {datagram : Datagram} (h : datagram.message.toOption = none) :
        datagram.messageFrom? found.datagram.source = none := by
      simp [Datagram.messageFrom?, h]
    refine ⟨⟨?_, ?_⟩, hresult, message, hmessage, ?_⟩
    · exact congrArg (·.peer) hafter
    · intro read hmem
      rw [hreads] at hmem
      obtain ⟨datagram, hdatagram, rfl⟩ := List.mem_map.1 hmem
      rw [hsender]
      rcases List.mem_append.1 hdatagram with hearlier | hlast
      · rw [hunread (hpassed datagram hearlier)]
        simp [Read.message?, hpassed datagram hearlier]
      · rw [List.mem_singleton.1 hlast, hsent]
        simp [Read.message?, hmessage, Option.filter]
    · have hpassedBy : passed.filterMap (fun datagram =>
          (datagram.messageFrom? found.datagram.source).map (Heard.mk · none)) = [] := by
        rw [List.filterMap_eq_nil_iff]
        intro datagram hearlier
        rw [hunread (hpassed datagram hearlier)]
        rfl
      rw [heard, hreads, List.filterMap_map, List.filterMap_append]
      show passed.filterMap (fun datagram =>
          (datagram.messageFrom? found.datagram.source).map (Heard.mk · none)) ++ _ = _
      rw [hpassedBy]
      simp [hsent]

/-! ## Main result -/

/-- **No message of the peer gets lost, comes twice or out of turn.**  After a
reset, or fresh, an endpoint accepts the sender of the first readable datagram.
From then on, whatever is received, asked and sent and however the waits end,
what was received and then the queue are the messages of that sender that have
been read, beginning with the one it was accepted by, in order and without the
responses that requests got and the empty acknowledgements of requests.  A
request gets the first response to it that comes in time; a wait that runs out
changes nothing but what it has read.  And whatever happens, nothing is queued
where there is no peer. -/
theorem nothing_lost (endpoint : Endpoint) (now : Nat) (limit : Option Nat) {arrival : Arrival}
    (hfirst : Socket.firstReadable (limit.map (now + ·)) endpoint.socket.arrivals = some arrival)
    (hplain : arrival.datagram.source.isPlain = true) {calls : List Call}
    (hcalls : ∀ call ∈ calls, call.keepsPeer = true) :
    let sender := arrival.datagram.source
    let peer := Peer.ofAddress sender
    let log := (start endpoint).run (.accept now limit :: calls)
    (endpoint.reset.accept now limit).result = .ok peer ∧
      (∃ message later, arrival.datagram.message = .ok message ∧
        log.heard sender = ⟨message, none⟩ :: later) ∧
      log.received ++ log.endpoint.pending =
        ((log.heard sender).filter (·.isKept)).map (·.message) ∧
      log.answers = ((log.heard sender).filter (·.isAnswer)).map (·.message) ∧
      log.endpoint.WaitsFor peer ∧
      (∀ now message token replies request sent,
        log.endpoint.ask message token = (.ok request, sent) →
          (sent.deliverAll now replies).WaitsFor peer) ∧
      ∀ more, (log.run more).endpoint.pending ≠ [] →
        (log.run more).endpoint.isConnected = true := by
  intro sender peer log
  obtain ⟨haccepted, hresult, message, hmessage, hheard⟩ := hears_accept endpoint hfirst hplain
  have hhears := haccepted.run hcalls
  have hkeeps : ∀ call ∈ calls, call ≠ .reset := by
    rintro call hmem rfl
    cases hcalls _ hmem
  obtain ⟨later, hlater⟩ := reads_run hkeeps ((start endpoint).step (.accept now limit))
  have hsender : peer.address = sender := SocketAddress.address_ofAddress hplain
  have haccounted : log.Accounted := (accounted_start endpoint).run _
  refine ⟨hresult, ?_, ?_, ?_, waitsFor_of_peer hhears.peer_eq, ?_, fun more =>
    (haccounted.run more).connected⟩
  · refine ⟨message, later.filterMap fun read =>
      (read.datagram.messageFrom? sender).map (⟨·, read.asked⟩), ?_, ?_⟩
    · cases hread : arrival.datagram.message with
      | error error => simp [hread, Except.toOption] at hmessage
      | ok read => simpa [hread, Except.toOption] using hmessage
    · show (Log.run _ calls).reads.filterMap _ = _
      rw [← hlater, List.filterMap_append]
      exact congrArg (· ++ _) hheard
  · rw [haccounted.kept_eq, ← hsender]
    exact hhears.filterMap_eq Heard.isKept
  · rw [haccounted.answers_eq, ← hsender]
    exact hhears.filterMap_eq Heard.isAnswer
  · intro now message token replies request sent hask
    have hsame := congrArg (·.peer) (inbound_ask log.endpoint message token)
    rw [hask] at hsame
    exact waitsFor_of_peer (hsame.trans hhears.peer_eq)

/-! ## Asking a client that repeats its request -/

/-- What a client sends from a port of the local host. -/
def localDatagram (port : UInt16) (bytes : Bytes) : Datagram := ⟨.v4 127 0 0 1 port, bytes⟩

/-- A request to read, with the id 7 and the token 1. -/
def readRequest : Bytes := [0x41, 0x01, 0x00, 0x07, 0x01, 0xB1, 0x61]

/-- An endpoint of the local host that one byte has come to, a client's request
and then another client's. -/
def visited : Endpoint :=
  (bind (.v4 127 0 0 1 5683) .none 0).deliverAll 0
    [(0, localDatagram 40001 [0xFF]), (1, localDatagram 40001 readRequest),
      (2, localDatagram 40002 readRequest)]

/-- The client is asked something.  It acknowledges that and repeats its request
before it responds, and the other client responds as well.  Then its messages are
received. -/
def askedMeanwhile : List Call :=
  [.request 3 9 (Message.bare .confirmable .get 0) [5]
      [(0, localDatagram 40001 [0x60, 0x00, 0x00, 0x00]), (1, localDatagram 40001 readRequest),
        (2, localDatagram 40002 [0x51, 0x45, 0x00, 0x09, 0x05]),
        (3, localDatagram 40001 [0x51, 0x45, 0x00, 0x08, 0x05])],
    .receive 20 (some 5), .receive 20 (some 5), .receive 20 (some 5)]

/-- The request is received twice, for it came twice, and the response once; the
acknowledgement is not received. -/
theorem nothing_lost_while_asking :
    let client := localDatagram 40001 readRequest
    let log := (start visited).run (.accept 0 none :: askedMeanwhile)
    Socket.firstReadable none visited.socket.arrivals = some ⟨1, client⟩ ∧
      client.source.isPlain = true ∧ (∀ call ∈ askedMeanwhile, call.keepsPeer = true) ∧
      log.received ++ log.endpoint.pending =
        ((log.heard client.source).filter (·.isKept)).map (·.message) ∧
      (log.heard client.source).length = 4 ∧ log.received.length = 2 ∧ log.answers.length = 1 := by
  intro client log
  have hfirst : Socket.firstReadable none visited.socket.arrivals = some ⟨1, client⟩ := by
    decide +kernel
  have hcalls : ∀ call ∈ askedMeanwhile, call.keepsPeer = true := by
    simp [askedMeanwhile, Call.keepsPeer]
  obtain ⟨-, -, hkept, -⟩ := nothing_lost visited 0 none hfirst rfl hcalls
  exact ⟨hfirst, rfl, hcalls, hkept, by decide +kernel, by decide +kernel, by decide +kernel⟩

end Log

end Endpoint

end Blockwise
