import Blockwise.Proofs.Controller.Answering
import Blockwise.Proofs.Endpoint.Incoming

/-!
# Where a call to answer requests stops

A controller that answers requests up to a limit stops with the first answer that
reaches it.  It has then looked at nothing behind the last request that it answered, so
that whoever comes next finds all that it left, and a call up to a limit can be cut in
two at any smaller one.

* `Controller.Turns`, `Controller.Stop` — the turns of a call, and how it ends.
* `Controller.exists_turns` — every call consists of turns and a stop.
* `Controller.Account` — what a call has answered, sent and used up.
* `Controller.account_transfer` — the main result, for whatever comes.
-/

namespace Blockwise

/-- A download when its transfer was given requests. -/
def Download.handled (download : Download) (requests : List Message) : Download :=
  { download with transfer := (download.transfer.run (requests.map .handle)).transfer }

theorem Download.handled_cons {download : Download} {request response : Message}
    {next : Transfer} (h : download.transfer.handle request = .ok (response, next))
    (requests : List Message) :
    download.handled (request :: requests) =
      { download with transfer := next }.handled requests := by
  rw [handled, handled, List.map_cons, Transfer.run, List.foldl_cons, Transfer.Log.call, h,
    Transfer.foldl_call_eq]

namespace Controller

variable {σ : Type} {controller there : Controller σ} {download between : Download}
  {limit less : Nat} {served : List (Message × Message)} {request response : Message}
  {next : Transfer}

/-! ## Turns -/

/-- What is still to come to a controller. -/
def incoming (controller : Controller σ) : List Incoming := controller.line.endpoint.incoming

/-- The turns of a call: each takes a request and sends the answer of the transfer. -/
inductive Turns (limit : Nat) :
    Controller σ → Download → List (Message × Message) → Controller σ → Download → Prop
  | nil (controller : Controller σ) (download : Download) :
    Turns limit controller download [] controller download
  | cons {controller there : Controller σ} {download between : Download}
    {request response : Message} {next : Transfer} {endpoint : Endpoint}
    {served : List (Message × Message)} (wants : Wants download limit)
    (received : controller.requested.result = .ok request)
    (handled : download.transfer.handle request = .ok (response, next))
    (replied : controller.requested.endpoint.reply request response = (.ok (), endpoint))
    (rest : Turns limit ((controller.waited controller.requested).withEndpoint endpoint)
      { download with transfer := next } served there between) :
    Turns limit controller download ((request, response) :: served) there between

/-- How a call ends: it has nothing to answer, no request comes, the transfer refuses
one, or its answer cannot be sent. -/
inductive Stop (limit : Nat) (controller : Controller σ) (download : Download) :
    Except Failure Unit × Download × Controller σ → Prop
  | done (satisfied : ¬Wants download limit) : Stop limit controller download
    (.ok (), download, controller)
  | silence {failure : Failure} (wants : Wants download limit)
    (waited : controller.requested.result = .error failure) : Stop limit controller download
    (.error failure, download, controller.waited controller.requested)
  | refused {request : Message} {mismatch : Mismatch} (wants : Wants download limit)
    (received : controller.requested.result = .ok request)
    (refused : download.transfer.handle request = .error mismatch) :
    Stop limit controller download
      (.error (.mismatch mismatch), download, controller.waited controller.requested)
  | unsent {request response : Message} {next : Transfer} {failure : Failure}
    {endpoint : Endpoint} (wants : Wants download limit)
    (received : controller.requested.result = .ok request)
    (handled : download.transfer.handle request = .ok (response, next))
    (failed : controller.requested.endpoint.reply request response = (.error failure, endpoint)) :
    Stop limit controller download
      (.error failure, { download with transfer := next },
        (controller.waited controller.requested).withEndpoint endpoint)

/-- After some of its turns a call goes on as if it had only begun. -/
theorem Turns.transfer_eq (h : Turns limit controller download served there between) :
    controller.transfer download limit = there.transfer between limit := by
  induction h with
  | nil => rfl
  | cons wants received handled replied rest ih =>
      rw [transfer_of_handle wants received handled, replied]
      exact ih

/-- **Every call consists of turns and a stop.** -/
theorem exists_turns (controller : Controller σ) (download : Download) (limit : Nat) :
    ∃ served there between, Turns limit controller download served there between ∧
      Stop limit there between (controller.transfer download limit) := by
  -- By induction on the requests that are left to be answered.
  induction hleft : download.transfer.left using Nat.strongRecOn
    generalizing controller download with
  | ind left ih =>
    by_cases hwants : Wants download limit
    case neg =>
      rw [transfer_of_done hwants]
      exact ⟨[], _, _, .nil _ _, .done hwants⟩
    cases hrequest : controller.requested.result with
    | error failure =>
        rw [transfer_of_silence hwants hrequest]
        exact ⟨[], _, _, .nil _ _, .silence hwants hrequest⟩
    | ok request =>
        cases hhandle : download.transfer.handle request with
        | error mismatch =>
            rw [transfer_of_refusal hwants hrequest hhandle]
            exact ⟨[], _, _, .nil _ _, .refused hwants hrequest hhandle⟩
        | ok result =>
            obtain ⟨response, next⟩ := result
            cases hreply : controller.requested.endpoint.reply request response with
            | mk sent endpoint =>
                rw [transfer_of_handle hwants hrequest hhandle, hreply]
                cases sent with
                | error failure =>
                    exact ⟨[], _, _, .nil _ _, .unsent hwants hrequest hhandle hreply⟩
                | ok _ =>
                    have hless : next.left < left := hleft ▸ Transfer.left_of_handle hhandle
                    obtain ⟨served, there, between, hturns, hstop⟩ := ih next.left hless
                      ((controller.waited controller.requested).withEndpoint endpoint)
                      { download with transfer := next } rfl
                    exact ⟨_, there, between, .cons hwants hrequest hhandle hreply hturns, hstop⟩

/-! ## Cutting a call in two -/

theorem Wants.mono (h : Wants download less) (hle : less ≤ limit) : Wants download limit :=
  ⟨Nat.lt_of_lt_of_le h.1 hle, h.2⟩

theorem Turns.mono (h : Turns less controller download served there between)
    (hle : less ≤ limit) : Turns limit controller download served there between := by
  induction h with
  | nil controller download => exact .nil controller download
  | cons wants received handled replied rest ih =>
      exact .cons (wants.mono hle) received handled replied ih

/-- **A call up to a limit is one up to a smaller limit and, if that succeeds, another
one from there.** -/
theorem transfer_split (controller : Controller σ) (download : Download)
    (hle : less ≤ limit) :
    controller.transfer download limit =
      match controller.transfer download less with
      | (.ok (), between, there) => there.transfer between limit
      | failed => failed := by
  obtain ⟨served, there, between, hturns, hstop⟩ := exists_turns controller download less
  rw [(hturns.mono hle).transfer_eq]
  -- What ends the first call by a failure ends the whole call at the same place.
  generalize controller.transfer download less = ended at hstop
  cases hstop with
  | done satisfied => rfl
  | silence wants waited => exact transfer_of_silence (wants.mono hle) waited
  | refused wants received refused => exact transfer_of_refusal (wants.mono hle) received refused
  | unsent wants received handled failed =>
      rw [transfer_of_handle (wants.mono hle) received handled, failed]

/-! ## What the turns of a call come to -/

/-- A message as it goes out in answer to a request. -/
def AnswerTo (peer : Option Peer) (outgoing : Outgoing) (exchange : Message × Message) : Prop :=
  peer.map (·.address) = some outgoing.destination ∧
    ∃ nextId, outgoing.message = exchange.2.fittedTo exchange.1 nextId

/-- What a reply that goes out adds to an endpoint. -/
structure Replied (before after : Endpoint) (exchange : Message × Message) : Prop where
  peer : after.peer = before.peer
  pending : after.pending = before.pending
  incoming : after.incoming = before.incoming
  sent : ∃ outgoing, after.socket.sent = before.socket.sent ++ [outgoing] ∧
    AnswerTo before.peer outgoing exchange

theorem replied_of_ok {before after : Endpoint}
    (h : before.reply request response = (.ok (), after)) :
    Replied before after (request, response) := by
  rcases before.reply_cases request response with
    ⟨failure, hfailed, -⟩ | ⟨peer, hpeer, hsent⟩
  · cases hfailed.symm.trans h
  · cases hsent.symm.trans h
    exact ⟨rfl, rfl, rfl, _, rfl, by rw [hpeer]; rfl, _, rfl⟩

/-- The transfer has answered the requests of all turns, and no others. -/
theorem Turns.run_eq (h : Turns limit controller download served there between) :
    download.transfer.run ((served.map (·.1)).map .handle) = ⟨between.transfer, served⟩ ∧
      between.destination = download.destination := by
  induction h with
  | nil => exact ⟨rfl, rfl⟩
  | cons wants received handled replied rest ih =>
      refine ⟨?_, ih.2⟩
      rw [List.map_cons, List.map_cons, Transfer.run, List.foldl_cons, Transfer.Log.call, handled,
        Transfer.foldl_call_eq, ih.1]
      rfl

theorem Turns.handled_eq (h : Turns limit controller download served there between) :
    download.handled (served.map (·.1)) = between := by
  obtain ⟨hrun, hdestination⟩ := h.run_eq
  rw [Download.handled, hrun, ← hdestination]

/-- Before every turn there is something to answer. -/
theorem Turns.wants_handled (h : Turns limit controller download served there between)
    {count : Nat} (hlt : count < served.length) :
    Wants (download.handled ((served.map (·.1)).take count)) limit := by
  induction h generalizing count with
  | nil => cases hlt
  | cons wants received handled replied rest ih =>
      cases count with
      | zero => exact wants
      | succ count =>
          rw [List.map_cons, List.take_succ_cons, Download.handled_cons handled]
          exact ih (Nat.lt_of_succ_lt_succ hlt)

theorem Turns.peer_eq (h : Turns limit controller download served there between) :
    there.line.endpoint.peer = controller.line.endpoint.peer := by
  induction h with
  | nil => rfl
  | cons wants received handled replied rest ih =>
      exact ih.trans ((replied_of_ok replied).peer.trans (requested_keeps _).1)

/-- The answers of all turns go out to the peer. -/
theorem Turns.sent_eq (h : Turns limit controller download served there between) :
    ∃ fresh, there.sent = controller.sent ++ fresh ∧
      List.Forall₂ (AnswerTo controller.line.endpoint.peer) fresh served := by
  induction h with
  | nil => exact ⟨[], (List.append_nil _).symm, .nil⟩
  | @cons controller _ _ _ _ _ _ endpoint _ wants received handled replied rest ih =>
      obtain ⟨fresh, hfresh, hanswers⟩ := ih
      obtain ⟨hpeer, -, -, outgoing, hsent, hanswer⟩ := replied_of_ok replied
      obtain ⟨hsame, hbefore, -⟩ := controller.requested_keeps
      have hafter : ((controller.waited controller.requested).withEndpoint endpoint).sent =
          controller.sent ++ [outgoing] := by
        rw [← hbefore]
        exact hsent
      refine ⟨outgoing :: fresh, ?_, .cons (hsame ▸ hanswer) ?_⟩
      · rw [hfresh, hafter, List.append_assoc, List.singleton_append]
      · rw [← hsame, ← hpeer]
        exact hanswers

/-- The requests of all turns are found in what is used up, the last of them at its end. -/
theorem Turns.readsTo (h : Turns limit controller download served there between) :
    Incoming.ReadsTo (Incoming.request? controller.line.endpoint.peer) controller.incoming
      there.incoming (served.map (·.1)) := by
  induction h with
  | nil => exact .nil _ _
  | @cons controller _ _ _ _ _ _ endpoint _ wants received handled replied rest ih =>
      obtain ⟨hpeer, -, hincoming, -⟩ := replied_of_ok replied
      have hsame := hpeer.trans controller.requested_keeps.1
      have hread := Endpoint.readsTo_of_receiveRequest received
      have hrest : Incoming.ReadsTo (Incoming.request? endpoint.peer) endpoint.incoming _ _ := ih
      rw [hsame, hincoming] at hrest
      exact hread.trans hrest

/-- An endpoint in order is so after every turn. -/
theorem Turns.orderly (h : Turns limit controller download served there between)
    (horderly : controller.line.endpoint.Orderly) : there.line.endpoint.Orderly := by
  induction h with
  | nil => exact horderly
  | cons wants received handled replied rest ih =>
      have hreply := replied_of_ok replied
      exact ih ((orderly_requested horderly).of_suffix (hreply.pending ▸ List.suffix_refl _)
        hreply.peer)

/-- An endpoint in order can send every answer. -/
theorem replied_of_orderly (horderly : controller.line.endpoint.Orderly)
    (received : controller.requested.result = .ok request)
    (handled : download.transfer.handle request = .ok (response, next)) :
    ∃ endpoint, controller.requested.endpoint.reply request response = (.ok (), endpoint) := by
  obtain ⟨-, hsupplies⟩ := Endpoint.source_of_receiveRequest received
  obtain ⟨hconnected, hread⟩ := horderly.of_supplies hsupplies
  obtain ⟨peer, hpeer⟩ := Option.isSome_iff_exists.1 hconnected
  exact ⟨_, Endpoint.reply_of_handle (controller.requested_keeps.1.trans hpeer) hread handled⟩

/-! ## Main result -/

/-- How a call ends once it has answered some requests, by the download as it is then:
with the request that it has taken but not answered, if there is one, with its result,
and with the download that it gives back. -/
inductive Ending (orderly : Prop) (reached : Download) (limit : Nat) :
    Option Message → Except Failure Unit → Download → Prop
  /-- Nothing is left to answer up to the limit. -/
  | done (satisfied : ¬Wants reached limit) : Ending orderly reached limit none (.ok ()) reached
  /-- No request comes. -/
  | silence {failure : Failure} (wants : Wants reached limit)
    (other : ∀ mismatch, failure ≠ .mismatch mismatch) :
    Ending orderly reached limit none (.error failure) reached
  /-- The transfer refuses a request. -/
  | refused {request : Message} {mismatch : Mismatch} (wants : Wants reached limit)
    (refused : reached.transfer.handle request = .error mismatch) :
    Ending orderly reached limit (some request) (.error (.mismatch mismatch)) reached
  /-- An answer cannot be sent; this does not happen to an endpoint in order. -/
  | unsent {request response : Message} {next : Transfer} {failure : Failure}
    (wants : Wants reached limit)
    (handled : reached.transfer.handle request = .ok (response, next))
    (other : ∀ mismatch, failure ≠ .mismatch mismatch) (disorder : ¬orderly) :
    Ending orderly reached limit (some request) (.error failure)
      { reached with transfer := next }

/-- What a call up to a limit has done: the requests that it has answered, one that it
has taken besides, and all that it has looked at. -/
structure Account (before : Controller σ) (download : Download) (limit : Nat)
    (ended : Except Failure Unit × Download × Controller σ) (requests : List Message)
    (taken : Option Message) (used : List Incoming) : Prop where
  /-- The transfer answers all of these requests. -/
  answered : (download.transfer.run (requests.map .handle)).served.map (·.1) = requests
  /-- Its answers are what the call has sent. -/
  sent : ∃ fresh, ended.2.2.sent = before.sent ++ fresh ∧
    List.Forall₂ (AnswerTo before.line.endpoint.peer) fresh
      (download.transfer.run (requests.map .handle)).served
  /-- With fewer of them there was still something to answer. -/
  least : ∀ count < requests.length, Wants (download.handled (requests.take count)) limit
  ending : Ending before.line.endpoint.Orderly (download.handled requests) limit taken ended.1
    ended.2.1
  /-- What was not looked at is left. -/
  incoming : before.incoming = used ++ ended.2.2.incoming
  /-- Among all that was looked at there is no other request. -/
  found : used.filterMap (Incoming.request? before.line.endpoint.peer) =
    requests ++ taken.toList
  /-- Unless no request comes, nothing behind the last of them was looked at. -/
  last : ended.1 = .ok () ∨ taken.isSome →
    used.getLast?.map (Incoming.request? before.line.endpoint.peer) =
      (requests ++ taken.toList).getLast?.map some

/-- The account of the turns of a call and of the wait that ends it, which finds the
request that is taken or passes over everything. -/
theorem Turns.account (h : Turns limit controller download served there between)
    {taken : Option Message} {ended : Except Failure Unit × Download × Controller σ}
    (hending : Ending controller.line.endpoint.Orderly between limit taken ended.1 ended.2.1)
    (hsent : ended.2.2.sent = there.sent)
    (hread : Incoming.ReadsTo (Incoming.request? there.line.endpoint.peer) there.incoming
        ended.2.2.incoming taken.toList ∨
      Incoming.Passes (Incoming.request? there.line.endpoint.peer) there.incoming
        ended.2.2.incoming ∧ ended.1 ≠ .ok () ∧ taken = none) :
    ∃ used, Account controller download limit ended (served.map (·.1)) taken used := by
  obtain ⟨hrun, -⟩ := h.run_eq
  rw [h.peer_eq] at hread
  have hused : ∃ used, controller.incoming = used ++ ended.2.2.incoming ∧
      used.filterMap (Incoming.request? controller.line.endpoint.peer) =
        served.map (·.1) ++ taken.toList ∧
      (ended.1 = .ok () ∨ taken.isSome →
        used.getLast?.map (Incoming.request? controller.line.endpoint.peer) =
          (served.map (·.1) ++ taken.toList).getLast?.map some) := by
    rcases hread with hread | ⟨⟨passed, hpassed, hnone⟩, hfailed, rfl⟩
    · obtain ⟨used, hsplit, hfound, hlast⟩ := h.readsTo.trans hread
      exact ⟨used, hsplit, hfound, fun _ => hlast⟩
    · obtain ⟨used, hsplit, hfound, -⟩ := h.readsTo
      refine ⟨used ++ passed, by rw [hsplit, hpassed, List.append_assoc], ?_, ?_⟩
      · rw [List.filterMap_append, hfound, hnone]
        rfl
      · rintro (hok | hsome)
        · exact absurd hok hfailed
        · cases hsome
  obtain ⟨used, hincoming, hfound, hlast⟩ := hused
  refine ⟨used, ?_, ?_, ?_, h.handled_eq ▸ hending, hincoming, hfound, hlast⟩
  · rw [hrun]
  · rw [hrun, hsent]
    exact h.sent_eq
  · intro count hlt
    rw [List.length_map] at hlt
    exact h.wants_handled hlt

theorem exists_account (controller : Controller σ) (download : Download) (limit : Nat) :
    ∃ requests taken used, Account controller download limit
      (controller.transfer download limit) requests taken used := by
  obtain ⟨served, there, between, hturns, hstop⟩ := exists_turns controller download limit
  obtain ⟨-, hsent, -⟩ := there.requested_keeps
  generalize controller.transfer download limit = ended at hstop ⊢
  cases hstop with
  | done satisfied =>
      exact ⟨_, none, hturns.account (.done satisfied) rfl (Or.inl (.nil _ _))⟩
  | silence wants waited =>
      obtain ⟨hpasses, hother⟩ := Endpoint.passes_of_receiveRequest waited
      exact ⟨_, none, hturns.account (.silence wants hother) hsent
        (Or.inr ⟨hpasses, nofun, rfl⟩)⟩
  | refused wants received refused =>
      exact ⟨_, some _, hturns.account (.refused wants refused) hsent
        (Or.inl (Endpoint.readsTo_of_receiveRequest received))⟩
  | @unsent request response next failure endpoint wants received handled failed =>
      have hdisorder : ¬controller.line.endpoint.Orderly := fun horderly => by
        obtain ⟨other, hreply⟩ := replied_of_orderly (hturns.orderly horderly) received handled
        cases hreply.symm.trans failed
      rcases there.requested.endpoint.reply_cases request response with
        ⟨_, hfailed, hother⟩ | ⟨peer, -, hreply⟩
      · cases hfailed.symm.trans failed
        exact ⟨_, some _, hturns.account (.unsent wants handled hother hdisorder) hsent
          (Or.inl (Endpoint.readsTo_of_receiveRequest received))⟩
      · cases hreply.symm.trans failed

/-- **Every call to answer requests stops at the exact boundary**, and it can be cut in
two at any smaller limit. -/
theorem account_transfer (controller : Controller σ) (download : Download) (limit : Nat) :
    (∃ requests taken used, Account controller download limit
      (controller.transfer download limit) requests taken used) ∧
    ∀ less ≤ limit, controller.transfer download limit =
      match controller.transfer download less with
      | (.ok (), between, there) => there.transfer between limit
      | failed => failed :=
  ⟨exists_account controller download limit, fun _ hle => transfer_split controller download hle⟩

end Controller
end Blockwise
