import Blockwise.Proofs.Controller.Operations

/-!
# Downloads across interruptions

A controller may do anything with its downloads, in any order: answer requests up
to any limits, take a request without answering it, reset the connection, send the
client offline.  Each of these may fail, and anything may arrive meanwhile.  What
has gone out for a download stays the beginning of its payload, block by block.

* `Controller.Move`, `Controller.Session` — what is done, and what it leads to: the
  controller with its downloads, each with the answers that went out for it.
* `Progress.Sound` — the invariant of a download; `Session.Sound.step` says that
  every move keeps it.
* `Session.later_step` — no answer is taken back.
* `Session.continuous_run` — what that says of every session.
-/

namespace Blockwise

namespace Controller

variable {σ : Type} {behaviour : Client σ}

/-! ## Moves -/

/-- What can be done with a controller and the downloads that it has started, which
go by their places. -/
inductive Move where
  /-- Time passes, and datagrams are on their way, each with its delay. -/
  | rest (duration : Nat) (datagrams : List (Nat × Datagram))
  /-- To start a download. -/
  | start (path : String) (payload : Bytes) (destination : String)
  /-- To answer requests up to a limit. -/
  | transfer (place limit : Nat)
  /-- To take the next request without answering it. -/
  | expect (place : Nat)
  /-- To reset the connection. -/
  | reconnect
  /-- To send the client offline for a while. -/
  | goOffline
  /-- To compare the file with the payload. -/
  | finish (place : Nat)

/-- Whether a move is to answer requests. -/
def Move.isTransfer : Move → Bool
  | .transfer _ _ => true
  | _ => false

/-! ## Sessions -/

/-- A download: as it was started, as it is now, and the answers that went out for
it, in order. -/
structure Progress where
  began : Download
  download : Download
  answers : List Message

/-- A controller with its downloads. -/
structure Session (σ : Type) where
  controller : Controller σ
  downloads : List Progress

/-- A download that has got further, by what was sent meanwhile. -/
def Progress.advance (progress : Progress) (download : Download) (sent : List Message) : Progress :=
  { progress with download, answers := progress.answers ++ sent }

theorem Progress.advance_nil (progress : Progress) :
    progress.advance progress.download [] = progress := by
  simp [advance]

theorem Progress.advance_advance (progress : Progress) (between download : Download)
    (sent more : List Message) :
    (progress.advance between sent).advance download more =
      progress.advance download (sent ++ more) := by
  simp [advance]

/-- A download after a call to answer requests for it. -/
def Progress.transferred (progress : Progress) (controller : Controller σ) (limit : Nat) :
    Progress :=
  let (_, download, after) := controller.transfer progress.download limit
  progress.advance download (sentSince controller after)

namespace Session

/-- Nothing has been started yet. -/
def begin (controller : Controller σ) : Session σ := ⟨controller, []⟩

/-- Something is done with a download, if there is one at the place. -/
def atPlace (session : Session σ) (place : Nat) (act : Progress → Session σ) : Session σ :=
  session.downloads[place]?.elim session act

/-- The session after a move. -/
def step (behaviour : Client σ) (session : Session σ) : Move → Session σ
  | .rest duration datagrams =>
    let line := session.controller.line
    let line := { line.deliver line.now datagrams with now := line.now + duration }
    { session with controller := { session.controller with line } }
  | .start path payload destination =>
    match startDownload behaviour path payload destination session.controller with
    | (.error _, controller) => { session with controller }
    | (.ok download, controller) => ⟨controller, session.downloads ++ [⟨download, download, []⟩]⟩
  | .transfer place limit => session.atPlace place fun progress =>
    ⟨(session.controller.transfer progress.download limit).2.2,
      session.downloads.set place (progress.transferred session.controller limit)⟩
  | .expect place => session.atPlace place fun progress =>
    { session with controller := (expectRequest progress.download session.controller).2 }
  | .reconnect =>
    { session with controller := (Controller.reconnect behaviour session.controller).2 }
  | .goOffline => { session with controller := (offlineThenOnline behaviour session.controller).2 }
  | .finish place => session.atPlace place fun progress =>
    { session with
      controller := (Controller.finish behaviour progress.download session.controller).2 }

/-- The session after a list of moves. -/
def run (behaviour : Client σ) (session : Session σ) (moves : List Move) : Session σ :=
  moves.foldl (step behaviour) session

end Session

/-! ## The invariant -/

/-- The answers are those of the transfer, which began with the download. -/
structure Progress.Sound (progress : Progress) : Prop where
  destination : progress.download.destination = progress.began.destination
  served : ∃ served : List (Message × Message), served.map (·.2) = progress.answers ∧
    Transfer.Log.Sound ⟨progress.download.transfer, served⟩ progress.began.transfer.path
      progress.began.transfer.payload progress.began.transfer.size

/-- The queue is in order, and so is every download. -/
structure Session.Sound (session : Session σ) : Prop where
  orderly : session.controller.line.endpoint.Orderly
  downloads : ∀ progress ∈ session.downloads, progress.Sound

/-- A call to answer requests moves a download on by what it sends. -/
theorem Progress.Sound.transferred {progress : Progress} (h : progress.Sound)
    {controller : Controller σ} (horderly : controller.line.endpoint.Orderly) (limit : Nat) :
    (controller.transfer progress.download limit).2.2.line.endpoint.Orderly ∧
      (progress.transferred controller limit).Sound := by
  obtain ⟨served, hanswers, hsound⟩ := h.served
  obtain ⟨more, hstretch⟩ := exists_stretch controller progress.download limit horderly hsound
  refine ⟨hstretch.orderly, hstretch.destination.trans h.destination, served ++ more, ?_,
    hstretch.sound⟩
  rw [List.map_append, hanswers, ← hstretch.sentSince_eq]
  rfl

namespace Session

variable {session : Session σ}

/-- What answers nothing is quiet, and at most it adds fresh downloads. -/
theorem step_of_other (behaviour : Client σ) (session : Session σ) {move : Move}
    (hmove : move.isTransfer = false) :
    Quiet session.controller (session.step behaviour move).controller ∧
      ∃ started, (session.step behaviour move).downloads = session.downloads ++ started ∧
        ∀ progress ∈ started, progress.Sound := by
  have hsame : ∃ started, session.downloads = session.downloads ++ started ∧
      ∀ progress ∈ started, progress.Sound := ⟨[], by simp, fun _ hmem => nomatch hmem⟩
  have hplace {place : Nat} {act : Progress → Controller σ}
      (hact : ∀ progress, Quiet session.controller (act progress)) :
      let after := session.atPlace place fun progress =>
        { session with controller := act progress }
      Quiet session.controller after.controller ∧ ∃ started,
        after.downloads = session.downloads ++ started ∧ ∀ progress ∈ started, progress.Sound := by
    intro after
    simp only [after, Session.atPlace]
    cases session.downloads[place]? with
    | none => exact ⟨⟨rfl, id⟩, hsame⟩
    | some progress => exact ⟨hact progress, hsame⟩
  cases move with
  | transfer place limit => cases hmove
  | rest duration datagrams =>
      exact ⟨⟨Socket.sent_deliverAll _ _ _, fun h => ⟨h.connected, h.read⟩⟩, hsame⟩
  | reconnect => exact ⟨quietly_reconnect behaviour _, hsame⟩
  | goOffline => exact ⟨quietly_offlineThenOnline behaviour _, hsame⟩
  | expect place => exact hplace fun progress => quietly_expectRequest progress.download _
  | finish place => exact hplace fun progress => quietly_finish behaviour progress.download _
  | start path payload destination =>
      have hquiet := quietly_startDownload behaviour path payload destination session.controller
      rw [Session.step]
      cases hstart : startDownload behaviour path payload destination session.controller with
      | mk result controller =>
          rw [hstart] at hquiet
          cases result with
          | error failure => exact ⟨hquiet, hsame⟩
          | ok download =>
              obtain ⟨size, -, rfl, -⟩ := startDownload_of_ok hstart
              refine ⟨hquiet, _, rfl, fun progress hmem => ?_⟩
              rw [List.mem_singleton.1 hmem]
              exact ⟨rfl, [], rfl, Transfer.sound_begin _ _ _⟩

/-- A call to answer requests changes the download that it is for and no other. -/
theorem step_transfer (behaviour : Client σ) (session : Session σ) {place : Nat}
    {progress : Progress} (hplace : session.downloads[place]? = some progress) (limit : Nat) :
    session.step behaviour (.transfer place limit) =
      ⟨(session.controller.transfer progress.download limit).2.2,
        session.downloads.set place (progress.transferred session.controller limit)⟩ := by
  simp only [Session.step, Session.atPlace, hplace, Option.elim_some]

/-- Where there is no download, nothing is done. -/
theorem step_transfer_of_none (behaviour : Client σ) (session : Session σ) {place : Nat}
    (hplace : session.downloads[place]? = none) (limit : Nat) :
    session.step behaviour (.transfer place limit) = session := by
  simp only [Session.step, Session.atPlace, hplace, Option.elim_none]

/-- **Every move leaves a session sound.** -/
theorem Sound.step (h : session.Sound) (behaviour : Client σ) (move : Move) :
    (session.step behaviour move).Sound := by
  cases hmove : move.isTransfer with
  | false =>
      obtain ⟨hquiet, started, hdownloads, hstarted⟩ := session.step_of_other behaviour hmove
      refine ⟨hquiet.orderly h.orderly, ?_⟩
      rw [hdownloads]
      exact fun progress hmem =>
        (List.mem_append.1 hmem).elim (h.downloads progress) (hstarted progress)
  | true =>
      cases move with
      | rest | start | expect | reconnect | goOffline | finish => cases hmove
      | transfer place limit =>
          cases hplace : session.downloads[place]? with
          | none =>
              rw [session.step_transfer_of_none behaviour hplace]
              exact h
          | some progress =>
              rw [session.step_transfer behaviour hplace]
              obtain ⟨horderly, hprogress⟩ :=
                (h.downloads progress (List.mem_of_getElem? hplace)).transferred h.orderly limit
              refine ⟨horderly, fun other hother => ?_⟩
              rcases List.mem_or_eq_of_mem_set hother with hbefore | rfl
              · exact h.downloads other hbefore
              · exact hprogress

/-- So does every list of moves. -/
theorem Sound.run (h : session.Sound) (behaviour : Client σ) (moves : List Move) :
    (session.run behaviour moves).Sound := by
  induction moves generalizing session with
  | nil => exact h
  | cons move moves ih => exact ih (h.step behaviour move)

/-! ## No answer is taken back -/

/-- Every download is still there and has at most got further. -/
def Later (session later : Session σ) : Prop :=
  ∀ (place : Nat) (progress : Progress), session.downloads[place]? = some progress →
    ∃ download sent, later.downloads[place]? = some (progress.advance download sent)

theorem later_of_same {session later : Session σ}
    (h : ∀ (place : Nat) (progress : Progress), session.downloads[place]? = some progress →
      later.downloads[place]? = some progress) : session.Later later := by
  intro place progress hplace
  exact ⟨progress.download, [], by rw [h place progress hplace, Progress.advance_nil]⟩

theorem Later.trans {first second third : Session σ} (h : first.Later second)
    (h' : second.Later third) : first.Later third := by
  intro place progress hplace
  obtain ⟨_, sent, hsecond⟩ := h place progress hplace
  obtain ⟨download, sent', hthird⟩ := h' place _ hsecond
  exact ⟨download, sent ++ sent', by rw [hthird, Progress.advance_advance]⟩

/-- What answers nothing leaves all downloads as they are. -/
theorem downloads_step (session : Session σ) {move : Move} (hmove : move.isTransfer = false)
    {place : Nat} {progress : Progress} (hplace : session.downloads[place]? = some progress) :
    (session.step behaviour move).downloads[place]? = some progress := by
  obtain ⟨-, started, hdownloads, -⟩ := session.step_of_other behaviour hmove
  obtain ⟨hlt, -⟩ := List.getElem?_eq_some_iff.1 hplace
  rw [hdownloads, List.getElem?_append_left hlt, hplace]

/-- **No move takes an answer back.** -/
theorem later_step (behaviour : Client σ) (session : Session σ) (move : Move) :
    session.Later (session.step behaviour move) := by
  cases hmove : move.isTransfer with
  | false => exact later_of_same fun _ _ => session.downloads_step hmove
  | true =>
      cases move with
      | rest | start | expect | reconnect | goOffline | finish => cases hmove
      | transfer place limit =>
          intro other progress hother
          cases hplace : session.downloads[place]? with
          | none =>
              rw [session.step_transfer_of_none behaviour hplace]
              exact later_of_same (fun _ _ h => h) other progress hother
          | some moved =>
              rw [session.step_transfer behaviour hplace]
              by_cases hsame : place = other
              · subst hsame
                cases hplace.symm.trans hother
                obtain ⟨hlt, -⟩ := List.getElem?_eq_some_iff.1 hplace
                exact ⟨_, _, List.getElem?_set_self hlt⟩
              · refine ⟨progress.download, [], ?_⟩
                rw [List.getElem?_set_ne hsame, hother, Progress.advance_nil]

/-- Nor does a list of moves. -/
theorem later_run (behaviour : Client σ) (session : Session σ) (moves : List Move) :
    session.Later (session.run behaviour moves) := by
  induction moves generalizing session with
  | nil => exact later_of_same fun _ _ h => h
  | cons move moves ih => exact (later_step behaviour session move).trans (ih _)

end Session

/-! ## Main result -/

/-- What has gone out for a download is the beginning of its payload, block by block,
and the block behind it is next. -/
structure Progress.Consistent (progress : Progress) : Prop where
  /-- Neither the file nor the resource has changed. -/
  destination : progress.download.destination = progress.began.destination
  path : progress.download.transfer.path = progress.began.transfer.path
  payload : progress.download.transfer.payload = progress.began.transfer.payload
  /-- The answers are numbered from 0 on, without gap or repetition. -/
  blocks : Message.CarryBlocks progress.answers progress.began.transfer.payload
    progress.download.transfer.size
  joined : progress.answers.flatMap (·.payload) =
    progress.began.transfer.payload.take
      (min progress.download.transfer.readOffset progress.began.transfer.payload.length)
  /-- Unless the download is complete, the first block that was not sent is awaited. -/
  awaits : progress.download.transfer.isComplete = true ∨
    progress.download.transfer.phase = .awaiting progress.answers.length

theorem Progress.Sound.consistent {progress : Progress} (h : progress.Sound) :
    progress.Consistent := by
  obtain ⟨served, hanswers, hsound⟩ := h.served
  have hlog : Transfer.Log.answers ⟨progress.download.transfer, served⟩ = progress.answers :=
    hanswers
  refine ⟨h.destination, hsound.path_eq, hsound.payload_eq, ?_, ?_, ?_⟩
  · rw [← hlog, hsound.size_eq]
    exact hsound.blocks
  · rw [← hlog]
    exact hsound.flatMap_payload
  · have hphase := hsound.phase_eq
    rw [hlog] at hphase
    split at hphase
    · exact Or.inr hphase
    · exact Or.inl (decide_eq_true hphase)

/-- What is needed to go on: a request that the check lets through is answered at
once, with the first block that was not sent. -/
theorem Progress.Sound.resume {progress : Progress} (h : progress.Sound) {controller : Controller σ}
    (horderly : controller.line.endpoint.Orderly) {limit : Nat} {request : Message} {block : Block}
    (hwants : Wants progress.download limit)
    (hrequest : controller.requested.result = .ok request)
    (hcheck : progress.download.transfer.check request = .ok block) :
    block.number.val = progress.answers.length ∧ ∃ answer more,
      sentSince controller (controller.transfer progress.download limit).2.2 = answer :: more := by
  obtain ⟨served, hanswers, hsound⟩ := h.served
  rcases h.consistent.awaits with hcomplete | hphase
  · have hopen := hwants.2
    rw [hcomplete] at hopen
    cases hopen
  obtain ⟨hnumber, hhandle⟩ := Transfer.handle_of_check hphase hcheck
  obtain ⟨more, hstretch⟩ := exists_stretch_of_request hwants horderly hsound hrequest hhandle
    fun after hafter hnext => exists_stretch after _ limit hafter hnext
  exact ⟨hnumber, _, _, hstretch.sentSince_eq⟩

/-- What holds of a session, whatever comes next. -/
structure Session.Continuous (behaviour : Client σ) (session : Session σ) : Prop where
  consistent : ∀ progress ∈ session.downloads, progress.Consistent
  /-- Only to answer requests sends anything or changes a download. -/
  quiet : ∀ move : Move, move.isTransfer = false →
    (session.step behaviour move).controller.sent = session.controller.sent ∧
      ∀ (place : Nat) (progress : Progress), session.downloads[place]? = some progress →
        (session.step behaviour move).downloads[place]? = some progress
  /-- A request that is let through is answered with the first block not sent. -/
  resumes : ∀ (place : Nat) (progress : Progress) (limit : Nat) (request : Message) (block : Block),
    session.downloads[place]? = some progress → Wants progress.download limit →
    session.controller.requested.result = .ok request →
    progress.download.transfer.check request = .ok block →
    ∃ later answer more,
      (session.step behaviour (.transfer place limit)).downloads[place]? = some later ∧
      later.answers = progress.answers ++ answer :: more ∧
      answer.CarriesBlock progress.began.transfer.payload later.download.transfer.size
        progress.answers.length
  /-- After a call has failed, the first block not sent is awaited.  Whatever is done
  then, what else goes out for the download are the blocks from that one on. -/
  failed : ∀ (place : Nat) (progress : Progress) (limit : Nat),
    session.downloads[place]? = some progress →
    (session.controller.transfer progress.download limit).1 ≠ .ok () →
    let after := session.step behaviour (.transfer place limit)
    ∃ failed, after.downloads[place]? = some failed ∧
      failed.download.transfer.phase = .awaiting failed.answers.length ∧
      ∀ moves, ∃ later more, (after.run behaviour moves).downloads[place]? = some later ∧
        later.answers = failed.answers ++ more ∧
        ∀ (number : Nat) (h : number < more.length),
          more[number].CarriesBlock progress.began.transfer.payload later.download.transfer.size
            (failed.answers.length + number)

/-- A call that fails leaves the first block awaited that was not sent. -/
theorem Progress.Sound.awaits_of_failed {progress : Progress} (h : progress.Sound)
    {controller : Controller σ} (horderly : controller.line.endpoint.Orderly) {limit : Nat}
    (hfailed : (controller.transfer progress.download limit).1 ≠ .ok ()) :
    let failed := progress.transferred controller limit
    failed.download.transfer.phase = .awaiting failed.answers.length := by
  intro failed
  obtain ⟨served, hanswers, hsound⟩ := h.served
  obtain ⟨more, hstretch⟩ := exists_stretch controller progress.download limit horderly hsound
  have hwants : Wants failed.download limit := by
    by_contra hdone
    exact hfailed (hstretch.complete.2 hdone)
  rcases (h.transferred horderly limit).2.consistent.awaits with hcomplete | hphase
  · have hopen := hwants.2
    rw [hcomplete] at hopen
    cases hopen
  · exact hphase

theorem Session.Sound.continuous {session : Session σ} (h : session.Sound) (behaviour : Client σ) :
    session.Continuous behaviour where
  consistent progress hmem := (h.downloads progress hmem).consistent
  quiet move hmove :=
    ⟨(session.step_of_other behaviour hmove).1.sent,
      fun place progress => session.downloads_step hmove⟩
  resumes place progress limit request block hplace hwants hrequest hcheck := by
    have hsound := h.downloads progress (List.mem_of_getElem? hplace)
    obtain ⟨-, answer, more, hsent⟩ := hsound.resume h.orderly hwants hrequest hcheck
    have hanswers : (progress.transferred session.controller limit).answers =
        progress.answers ++ answer :: more := congrArg (progress.answers ++ ·) hsent
    obtain ⟨hlt, -⟩ := List.getElem?_eq_some_iff.1 hplace
    rw [session.step_transfer behaviour hplace]
    refine ⟨_, answer, more, List.getElem?_set_self hlt, hanswers, ?_⟩
    have hblocks := (hsound.transferred h.orderly limit).2.consistent.blocks
    rw [hanswers] at hblocks
    exact hblocks.getElem_append (Nat.succ_pos _)
  failed place progress limit hplace hfailed := by
    have hsound := h.downloads progress (List.mem_of_getElem? hplace)
    intro after
    have hafter : after.downloads[place]? =
        some (progress.transferred session.controller limit) := by
      obtain ⟨hlt, -⟩ := List.getElem?_eq_some_iff.1 hplace
      rw [show after = _ from session.step_transfer behaviour hplace limit]
      exact List.getElem?_set_self hlt
    refine ⟨_, hafter, hsound.awaits_of_failed h.orderly hfailed, fun moves => ?_⟩
    obtain ⟨download, more, hlater⟩ := later_run behaviour after moves place _ hafter
    have hrun := (h.step behaviour (.transfer place limit)).run behaviour moves
    have hblocks := (hrun.downloads _ (List.mem_of_getElem? hlater)).consistent.blocks
    exact ⟨_, more, hlater, rfl, fun number hnumber => hblocks.getElem_append hnumber⟩

/-- **A hand-driven download stays consistent through all interruptions.**  The
controller may be at any endpoint, whatever that was used for before.  Whatever is
done with it and its downloads then, in which order, with whatever outcome, and
whatever arrives: what went out for each download is the beginning of its payload,
without gap or repetition, and it goes on from there. -/
theorem Session.continuous_run (behaviour : Client σ) (address : SocketAddress)
    (security : Security) (firstId : UInt16) (calls : List Endpoint.Call) (client : σ) (now : Nat)
    (settings : Settings) (moves : List Move) :
    let endpoint :=
      ((Endpoint.Log.start (Endpoint.bind address security firstId)).run calls).endpoint
    ((Session.begin (start endpoint client now settings)).run behaviour moves).Continuous
      behaviour := by
  intro endpoint
  have horderly : endpoint.Orderly := ((Endpoint.Log.accounted_start _).run calls).orderly
  have hbegin : (Session.begin (start endpoint client now settings)).Sound :=
    ⟨horderly, fun _ hmem => nomatch hmem⟩
  exact (hbegin.run behaviour moves).continuous behaviour

/-! ## A client that is lost and comes back -/

/-- A client that asks for block 0 of `/a`, and for block 1 from another port when it
is told to reconnect. -/
def wanderer : Client Unit where
  obey command _ client :=
    let datagrams : List (Nat × Datagram) :=
      match command with
      | .download _ _ _ =>
        [(0, ⟨.v4 127 0 0 1 40001, [0x41, 0x01, 0x00, 0x07, 0x01, 0xB1, 0x61]⟩)]
      | .reconnect _ =>
        [(0, ⟨.v4 127 0 0 1 40002,
          [0x41, 0x01, 0x00, 0x08, 0x02, 0xB1, 0x61, 0xC1, 0x10]⟩)]
      | _ => []
    ({ outcome := .ok (), delay := 0, datagrams }, client)
  reply _ _ client := ([], client)
  socketCount _ client := (.ok 1, client)
  socketTransport _ _ := .ok .udp
  file _ _ := none

/-- Its controller, with a download of 20 bytes in blocks of 16. -/
def wandering : Session Unit :=
  let endpoint := Endpoint.bind (.v4 127 0 0 1 5683) .none 0
  (Session.begin (start endpoint () 0 { Settings.standard with blockSize := 16 })).run wanderer
    [.start "/a" (List.replicate 20 7) "file"]

/-- The first call gets no request for block 1 and fails.  After the client has
reconnected, the second call goes on with that block. -/
theorem Session.continuous_run_wandering :
    let failed := wandering.step wanderer (.transfer 0 20)
    let resumed := failed.run wanderer [.reconnect, .transfer 0 20]
    wandering.Continuous wanderer ∧
      (∀ progress ∈ wandering.downloads,
        (wandering.controller.transfer progress.download 20).1 ≠ .ok ()) ∧
      failed.downloads.map (fun progress => progress.answers.map (·.payload.length)) = [[16]] ∧
      resumed.downloads.map (fun progress => progress.answers.map (·.payload.length)) =
        [[16, 4]] := by
  refine ⟨?_, by decide +kernel, by decide +kernel, by decide +kernel⟩
  exact Session.continuous_run wanderer (.v4 127 0 0 1 5683) .none 0 [] () 0
    { Settings.standard with blockSize := 16 } [.start "/a" (List.replicate 20 7) "file"]

end Controller
end Blockwise
