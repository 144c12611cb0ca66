import Blockwise.Socket

/-!
# What a reading reads

A reading goes through what comes by its deadline, in order of arrival, and ends
with the first datagram that its reader takes.

* `Socket.dueBy`, `Socket.lateFor` — what comes by a deadline, and the rest.
* `Socket.read_cases_of` — a reading runs out of time, or ends with a datagram
  that is taken; either way it is known what was kept and what is unread.
* `Socket.taken_read` — what is taken is the first that the reader takes among
  what comes by the deadline.
* `Socket.kept_read` — what is kept are messages that come in time before that one.
* `Socket.usedUp` — the datagrams that are gone from a socket.
* `Socket.InOrder` — arrivals in order of time, which is how they are delivered;
  `Socket.InOrder.findSome?_dueBy` picks the first of them in time.
-/

namespace Blockwise

/-- Whether there is a message in what is read of a datagram. -/
def Datagram.isReadable (datagram : Datagram) : Bool := datagram.message.toOption.isSome

/-- The message in a datagram from an address. -/
def Datagram.messageFrom? (sender : SocketAddress) (datagram : Datagram) : Option Message :=
  datagram.message.toOption.filter fun _ => datagram.source = sender

/-- A message from an address was read, and its datagram comes from there. -/
theorem Datagram.message_of_messageFrom? {datagram : Datagram} {sender : SocketAddress}
    {message : Message} (h : datagram.messageFrom? sender = some message) :
    datagram.message = .ok message ∧ datagram.source = sender := by
  obtain ⟨hread, hsource⟩ := Option.filter_eq_some_iff.1 h
  refine ⟨?_, of_decide_eq_true hsource⟩
  cases hmessage : datagram.message with
  | error error => simp [hmessage, Except.toOption] at hread
  | ok read => simpa [hmessage, Except.toOption] using hread

namespace Socket

variable {α : Type} {judge : Datagram → Verdict α} {deadline : Option Nat} {now : Nat}
  {arrivals : List Arrival}

/-! ## Verdicts and deadlines -/

/-- What is taken of a datagram. -/
def Verdict.taken? : Verdict α → Option α
  | .take value => some value
  | _ => none

/-- What is kept of a datagram. -/
def Verdict.kept? : Verdict α → Option Message
  | .keep message => some message
  | _ => none

theorem Verdict.eq_take_of_taken? {verdict : Verdict α} {value : α}
    (h : verdict.taken? = some value) : verdict = .take value := by
  cases verdict with
  | take taken => simpa [taken?] using h
  | keep message => simp [taken?] at h
  | pass => simp [taken?] at h

/-- To take whatever is picked. -/
theorem Verdict.taken?_elim (picked : Option α) :
    (picked.elim .pass .take : Verdict α).taken? = picked := by
  cases picked with
  | none => rfl
  | some value => rfl

/-- What comes by the deadline, up to the first that is late. -/
def dueBy (deadline : Option Nat) (arrivals : List Arrival) : List Arrival :=
  arrivals.takeWhile fun arrival => deadline.all (arrival.time ≤ ·)

/-- What is late, and all that comes behind it. -/
def lateFor (deadline : Option Nat) (arrivals : List Arrival) : List Arrival :=
  arrivals.dropWhile fun arrival => deadline.all (arrival.time ≤ ·)

theorem dueBy_append_lateFor (deadline : Option Nat) (arrivals : List Arrival) :
    dueBy deadline arrivals ++ lateFor deadline arrivals = arrivals :=
  List.takeWhile_append_dropWhile

/-- What is there already comes by every deadline to come. -/
theorem dueBy_append {waiting : List Arrival}
    (h : ∀ arrival ∈ waiting, deadline.all (arrival.time ≤ ·) = true) (arrivals : List Arrival) :
    dueBy deadline (waiting ++ arrivals) = waiting ++ dueBy deadline arrivals :=
  List.takeWhile_append_of_pos h

theorem lateFor_append {waiting : List Arrival}
    (h : ∀ arrival ∈ waiting, deadline.all (arrival.time ≤ ·) = true) (arrivals : List Arrival) :
    lateFor deadline (waiting ++ arrivals) = lateFor deadline arrivals :=
  List.dropWhile_append_of_pos h

theorem lateFor_eq_drop (deadline : Option Nat) (arrivals : List Arrival) :
    lateFor deadline arrivals = arrivals.drop (dueBy deadline arrivals).length := by
  have hsplit := congrArg (List.drop (dueBy deadline arrivals).length)
    (dueBy_append_lateFor deadline arrivals)
  rwa [List.drop_left] at hsplit

/-- What comes by the deadline are the first of it and those behind them. -/
theorem dueBy_split {count : Nat} (h : count ≤ (dueBy deadline arrivals).length) :
    dueBy deadline arrivals = arrivals.take count ++ dueBy deadline (arrivals.drop count) := by
  induction count generalizing arrivals with
  | zero => rfl
  | succ count ih =>
      cases arrivals with
      | nil => exact absurd h (Nat.not_succ_le_zero count)
      | cons arrival rest =>
          by_cases hdue : deadline.all (arrival.time ≤ ·) = true
          · have hcome : dueBy deadline (arrival :: rest) = arrival :: dueBy deadline rest := by
              simp [dueBy, hdue]
            rw [hcome] at h ⊢
            rw [ih (Nat.le_of_succ_le_succ h)]
            rfl
          · have hnone : dueBy deadline (arrival :: rest) = [] := by simp [dueBy, hdue]
            rw [hnone] at h
            exact absurd h (Nat.not_succ_le_zero count)

/-- The later the deadline, the more is due. -/
theorem length_dueBy_le {now later : Nat} (hle : now ≤ later) (arrivals : List Arrival) :
    (dueBy (some now) arrivals).length ≤ (dueBy (some later) arrivals).length := by
  induction arrivals with
  | nil => exact Nat.le_refl 0
  | cons arrival rest ih =>
      by_cases hdue : arrival.time ≤ now
      · simpa [dueBy, hdue, Nat.le_trans hdue hle] using ih
      · simp [dueBy, hdue]

/-! ## Readings -/

/-- What is not taken is kept or gone, and reading goes on. -/
theorem read_cons_of_passed {arrival : Arrival} (hdue : deadline.all (arrival.time ≤ ·) = true)
    (hpassed : (judge arrival.datagram).taken? = none) (now : Nat) (rest : List Arrival) :
    read judge deadline now (arrival :: rest) =
      let later := read judge deadline (max now arrival.time) rest
      { later with kept := (judge arrival.datagram).kept?.toList ++ later.kept } := by
  cases hjudge : judge arrival.datagram with
  | take value => simp [hjudge, Verdict.taken?] at hpassed
  | keep message => simp [read, hdue, hjudge, Verdict.kept?]
  | pass => simp [read, hdue, hjudge, Verdict.kept?]

/-- A reading runs out of time, or it ends with a datagram that is taken. -/
theorem read_cases_of (judge : Datagram → Verdict α) (deadline : Option Nat) (now : Nat)
    (arrivals : List Arrival) :
    let reading := read judge deadline now arrivals
    (reading.taken = none ∧ reading.unread = lateFor deadline arrivals ∧
        (∀ arrival ∈ dueBy deadline arrivals, (judge arrival.datagram).taken? = none) ∧
        reading.kept = (dueBy deadline arrivals).filterMap fun arrival =>
          (judge arrival.datagram).kept?) ∨
      ∃ passed arrival value, arrivals = passed ++ arrival :: reading.unread ∧
        (∀ earlier ∈ passed ++ [arrival], deadline.all (earlier.time ≤ ·) = true) ∧
        (∀ earlier ∈ passed, (judge earlier.datagram).taken? = none) ∧
        judge arrival.datagram = .take value ∧ reading.taken = some value ∧
        reading.kept = passed.filterMap fun arrival => (judge arrival.datagram).kept? := by
  induction arrivals generalizing now with
  | nil => exact Or.inl ⟨rfl, rfl, by simp [dueBy], by simp [dueBy, read]⟩
  | cons arrival rest ih =>
      by_cases hdue : deadline.all (arrival.time ≤ ·) = true
      · have hlate : lateFor deadline (arrival :: rest) = lateFor deadline rest := by
          simp [lateFor, hdue]
        have hcome : dueBy deadline (arrival :: rest) = arrival :: dueBy deadline rest := by
          simp [dueBy, hdue]
        cases htaken? : (judge arrival.datagram).taken? with
        | some value =>
            have hjudge : judge arrival.datagram = .take value :=
              Verdict.eq_take_of_taken? htaken?
            refine Or.inr ⟨[], arrival, value, ?_, by simpa using hdue, by simp, hjudge, ?_, ?_⟩
            · simp [read, hdue, hjudge]
            · simp [read, hdue, hjudge]
            · simp [read, hdue, hjudge]
        | none =>
            rw [read_cons_of_passed hdue htaken?, hlate, hcome]
            rcases ih (max now arrival.time) with
              ⟨htaken, hunread, hnone, hkept⟩ |
              ⟨passed, last, value, hsplit, hintime, hpassed, hlast, htaken, hkept⟩
            · refine Or.inl ⟨htaken, hunread, List.forall_mem_cons.2 ⟨htaken?, hnone⟩, ?_⟩
              cases hkept? : (judge arrival.datagram).kept? <;> simp [hkept, hkept?]
            · refine Or.inr ⟨arrival :: passed, last, value, congrArg (arrival :: ·) hsplit,
                List.forall_mem_cons.2 ⟨hdue, hintime⟩, List.forall_mem_cons.2 ⟨htaken?, hpassed⟩,
                hlast, htaken, ?_⟩
              cases hkept? : (judge arrival.datagram).kept? <;> simp [hkept, hkept?]
      · refine Or.inl ⟨?_, ?_, ?_, ?_⟩
        · simp [read, hdue]
        · simp [read, lateFor, hdue]
        · simp [dueBy, hdue]
        · simp [read, dueBy, hdue]

/-- What is taken is the first that the reader takes of what comes in time. -/
theorem taken_read (judge : Datagram → Verdict α) (deadline : Option Nat) (now : Nat)
    (arrivals : List Arrival) :
    (read judge deadline now arrivals).taken =
      (dueBy deadline arrivals).findSome? fun arrival => (judge arrival.datagram).taken? := by
  rcases read_cases_of judge deadline now arrivals with
    ⟨htaken, -, hnone, -⟩ | ⟨passed, arrival, value, hsplit, hintime, hpassed, hjudge, htaken, -⟩
  · rw [htaken, eq_comm, List.findSome?_eq_none_iff]
    exact hnone
  · have hdue : dueBy deadline arrivals = (passed ++ [arrival]) ++ dueBy deadline
        (read judge deadline now arrivals).unread := by
      rw [← dueBy_append hintime, List.append_assoc, List.singleton_append, ← hsplit]
    rw [htaken, hdue, List.append_assoc, List.findSome?_append,
      List.findSome?_eq_none_iff.2 hpassed]
    simp [hjudge, Verdict.taken?]

/-- What is kept is kept of what comes in time before something is taken. -/
theorem kept_read (judge : Datagram → Verdict α) (deadline : Option Nat) (now : Nat)
    (arrivals : List Arrival) :
    (read judge deadline now arrivals).kept =
      (arrivals.takeWhile fun arrival =>
        deadline.all (arrival.time ≤ ·) && (judge arrival.datagram).taken?.isNone).filterMap
          fun arrival => (judge arrival.datagram).kept? := by
  induction arrivals generalizing now with
  | nil => rfl
  | cons arrival rest ih =>
      by_cases hdue : deadline.all (arrival.time ≤ ·) = true
      · cases htaken? : (judge arrival.datagram).taken? with
        | some value =>
            have hjudge := Verdict.eq_take_of_taken? htaken?
            simp [read, hdue, hjudge, Verdict.taken?]
        | none =>
            rw [read_cons_of_passed hdue htaken?, List.takeWhile_cons]
            simp only [hdue, htaken?, Option.isNone_none, Bool.and_self, if_true, ih,
              List.filterMap_cons]
            cases (judge arrival.datagram).kept? <;> rfl
      · simp [read, hdue]

/-- What is unread stays as it is. -/
theorem unread_suffix (judge : Datagram → Verdict α) (deadline : Option Nat) (now : Nat)
    (arrivals : List Arrival) : (read judge deadline now arrivals).unread <:+ arrivals := by
  rcases read_cases_of judge deadline now arrivals with
    ⟨-, hunread, -⟩ | ⟨passed, arrival, value, hsplit, -⟩
  · rw [hunread]
    exact List.dropWhile_suffix _
  · refine ⟨passed ++ [arrival], ?_⟩
    rw [List.append_assoc, List.singleton_append, ← hsplit]

/-- From when on is read does not decide what is left unread. -/
theorem unread_read_congr (judge : Datagram → Verdict α) (deadline : Option Nat)
    (now later : Nat) (arrivals : List Arrival) :
    (read judge deadline now arrivals).unread = (read judge deadline later arrivals).unread := by
  induction arrivals generalizing now later with
  | nil => rfl
  | cons arrival rest ih =>
      unfold read
      split
      · split
        · rfl
        · exact ih _ _
        · exact ih _ _
      · rfl

/-- A reading that takes nothing ends at its deadline. -/
theorem time_read_of_none {deadline : Nat}
    (h : (read judge (some deadline) now arrivals).taken = none) :
    (read judge (some deadline) now arrivals).time = deadline := by
  fun_induction read judge (some deadline) now arrivals with
  | case1 => rfl
  | case2 => cases h
  | case3 _ _ _ _ _ _ _ ih => exact ih h
  | case4 _ _ _ _ _ ih => exact ih h
  | case5 => rfl

/-! ## What is gone -/

/-- The datagrams that are gone from the front of the arrivals. -/
def usedUp (before after : List Arrival) : List Datagram :=
  (before.take (before.length - after.length)).map (·.datagram)

@[simp] theorem usedUp_append (used unread : List Arrival) :
    usedUp (used ++ unread) unread = used.map (·.datagram) := by
  simp [usedUp]

@[simp] theorem usedUp_self (arrivals : List Arrival) : usedUp arrivals arrivals = [] := by
  simp [usedUp]

/-- What a reading keeps and what it takes are in the datagrams that it uses up,
in order, and it takes no more than one. -/
theorem usedUp_read (judge : Datagram → Verdict α) (deadline : Option Nat) (now : Nat)
    (arrivals : List Arrival) :
    let reading := read judge deadline now arrivals
    let used := usedUp arrivals reading.unread
    used.filterMap (fun datagram => (judge datagram).kept?) = reading.kept ∧
      used.filterMap (fun datagram => (judge datagram).taken?) = reading.taken.toList := by
  intro reading used
  have hfilter {β : Type} (f : Datagram → Option β) {read : List Arrival}
      (hsplit : arrivals = read ++ reading.unread) :
      used.filterMap f = read.filterMap fun arrival => f arrival.datagram := by
    have hused : used = read.map (·.datagram) := by
      rw [← usedUp_append read reading.unread, ← hsplit]
    rw [hused, List.filterMap_map]
    rfl
  rcases read_cases_of judge deadline now arrivals with
    ⟨htaken, hunread, hnone, hkept⟩ |
    ⟨passed, arrival, value, hsplit, -, hpassed, hjudge, htaken, hkept⟩
  · have hdue : arrivals = dueBy deadline arrivals ++ reading.unread := by
      rw [hunread, dueBy_append_lateFor]
    rw [hfilter _ hdue, hfilter _ hdue, hkept, htaken]
    exact ⟨rfl, List.filterMap_eq_nil_iff.2 hnone⟩
  · have hread : arrivals = (passed ++ [arrival]) ++ reading.unread := by
      rw [List.append_assoc, List.singleton_append, ← hsplit]
    have hkept? : (judge arrival.datagram).kept? = none := by
      rw [hjudge]
      rfl
    have htaken? : (judge arrival.datagram).taken? = some value := by
      rw [hjudge]
      rfl
    rw [hfilter _ hread, hfilter _ hread, hkept, htaken, List.filterMap_append,
      List.filterMap_append, List.filterMap_eq_nil_iff.2 hpassed]
    exact ⟨by simp [hkept?], by simp [htaken?]⟩

/-! ## The order of arrival -/

/-- Arrivals in the order of their times. -/
def InOrder (arrivals : List Arrival) : Prop :=
  arrivals.Pairwise fun earlier later => earlier.time ≤ later.time

theorem time_of_mem_dueBy {deadline : Nat} {arrival : Arrival}
    (h : arrival ∈ dueBy (some deadline) arrivals) : arrival.time ≤ deadline := by
  simpa using List.all_eq_true.1 List.all_takeWhile arrival h

/-- Of arrivals in order, exactly those that come by the deadline are due. -/
theorem InOrder.mem_dueBy_iff {deadline : Nat} (h : InOrder arrivals) {arrival : Arrival} :
    arrival ∈ dueBy (some deadline) arrivals ↔ arrival ∈ arrivals ∧ arrival.time ≤ deadline := by
  constructor
  · intro hdue
    exact ⟨(List.takeWhile_sublist _).subset hdue, time_of_mem_dueBy hdue⟩
  · rintro ⟨hmem, htime⟩
    induction arrivals with
    | nil => cases hmem
    | cons first rest ih =>
        obtain ⟨hfirst, hrest⟩ := List.pairwise_cons.1 h
        rcases List.mem_cons.1 hmem with rfl | hmem
        · simp [dueBy, htime]
        · have hdue : first.time ≤ deadline := Nat.le_trans (hfirst arrival hmem) htime
          simpa [dueBy, hdue] using Or.inr (ih hrest hmem)

/-- Of arrivals in order, the first that is picked in time is the first that is picked, if
that one comes in time. -/
theorem InOrder.findSome?_dueBy {β : Type} {deadline : Nat} (h : InOrder arrivals)
    (pick : Datagram → Option β) :
    ((dueBy (some deadline) arrivals).findSome? fun arrival => pick arrival.datagram) =
      ((arrivals.findSome? fun arrival => (pick arrival.datagram).map (arrival.time, ·)).filter
        (·.1 ≤ deadline)).map (·.2) := by
  induction arrivals with
  | nil => rfl
  | cons first rest ih =>
      obtain ⟨hfirst, hrest⟩ := List.pairwise_cons.1 h
      by_cases hdue : first.time ≤ deadline
      · have hcome : dueBy (some deadline) (first :: rest) =
            first :: dueBy (some deadline) rest := by
          simp [dueBy, hdue]
        rw [hcome, List.findSome?_cons, List.findSome?_cons]
        cases hpick : pick first.datagram with
        | none => simpa using ih hrest
        | some value => simp [hdue, Option.filter]
      · -- What is behind a late arrival is late as well.
        have hnone : dueBy (some deadline) (first :: rest) = [] := by simp [dueBy, hdue]
        have hlate : ∀ value ∈ (first :: rest).findSome?
            (fun arrival => (pick arrival.datagram).map (arrival.time, ·)),
            ¬value.1 ≤ deadline := by
          intro value hvalue
          obtain ⟨arrival, hmem, hpick⟩ := List.exists_of_findSome?_eq_some hvalue
          obtain ⟨picked, -, rfl⟩ := Option.map_eq_some_iff.1 hpick
          rcases List.mem_cons.1 hmem with rfl | hmem
          · exact hdue
          · have := hfirst arrival hmem
            omega
        rw [hnone, Option.filter_eq_none_iff.2 (by simpa using hlate)]
        rfl

theorem mem_insertArrival {arrival other : Arrival} :
    other ∈ insertArrival arrival arrivals ↔ other = arrival ∨ other ∈ arrivals := by
  induction arrivals with
  | nil => simp [insertArrival]
  | cons first rest ih =>
      unfold insertArrival
      split
      · simp [ih, or_left_comm]
      · simp

/-- An arrival is put where the order has it. -/
theorem InOrder.insertArrival (h : InOrder arrivals) (arrival : Arrival) :
    InOrder (insertArrival arrival arrivals) := by
  induction arrivals with
  | nil => simp [InOrder, Socket.insertArrival]
  | cons first rest ih =>
      obtain ⟨hfirst, hrest⟩ := List.pairwise_cons.1 h
      unfold Socket.insertArrival
      split
      · rename_i hbefore
        refine List.pairwise_cons.2 ⟨?_, ih hrest⟩
        intro other hother
        rcases mem_insertArrival.1 hother with rfl | hmem
        · exact hbefore
        · exact hfirst other hmem
      · rename_i hbehind
        have hearlier : arrival.time ≤ first.time := by omega
        refine List.pairwise_cons.2 ⟨?_, h⟩
        intro other hother
        rcases List.mem_cons.1 hother with rfl | hmem
        · exact hearlier
        · exact Nat.le_trans hearlier (hfirst other hmem)

/-- What comes later is put behind what is there already. -/
theorem insertArrival_append {waiting : List Arrival} (arrival : Arrival)
    (h : ∀ earlier ∈ waiting, earlier.time ≤ arrival.time) (arrivals : List Arrival) :
    insertArrival arrival (waiting ++ arrivals) = waiting ++ insertArrival arrival arrivals := by
  induction waiting with
  | nil => rfl
  | cons first rest ih =>
      obtain ⟨hfirst, hrest⟩ := List.forall_mem_cons.1 h
      simp [insertArrival, hfirst, ih hrest]

/-- Whatever is sent comes behind what is there already. -/
theorem deliverAll_append {waiting : List Arrival} {now : Nat}
    (h : ∀ earlier ∈ waiting, earlier.time ≤ now) (socket : Socket)
    (datagrams : List (Nat × Datagram)) :
    deliverAll { socket with arrivals := waiting ++ socket.arrivals } now datagrams =
      let delivered := socket.deliverAll now datagrams
      { delivered with arrivals := waiting ++ delivered.arrivals } := by
  induction datagrams generalizing socket with
  | nil => rfl
  | cons first rest ih =>
      obtain ⟨delay, datagram⟩ := first
      have hbehind : ∀ earlier ∈ waiting, earlier.time ≤ now + delay := by
        intro earlier hmem
        exact Nat.le_add_right_of_le (h earlier hmem)
      have hfirst : deliver { socket with arrivals := waiting ++ socket.arrivals } (now + delay)
          datagram =
            let delivered := socket.deliver (now + delay) datagram
            { delivered with arrivals := waiting ++ delivered.arrivals } := by
        simp [deliver, insertArrival_append ⟨now + delay, datagram⟩ hbehind]
      exact (congrArg (deliverAll · now rest) hfirst).trans (ih (socket.deliver _ datagram))

/-- What comes in order is put in that order, behind what is there already. -/
theorem arrivals_deliverAll {socket : Socket} {now : Nat} {datagrams : List (Nat × Datagram)}
    (hordered : datagrams.Pairwise fun earlier later => earlier.1 ≤ later.1)
    (hbehind : ∀ arrival ∈ socket.arrivals, ∀ sent ∈ datagrams, arrival.time ≤ now + sent.1) :
    (socket.deliverAll now datagrams).arrivals =
      socket.arrivals ++ datagrams.map fun sent => ⟨now + sent.1, sent.2⟩ := by
  induction datagrams generalizing socket with
  | nil => exact (List.append_nil _).symm
  | cons first rest ih =>
      obtain ⟨hfirst, hrest⟩ := List.pairwise_cons.1 hordered
      have hput : (socket.deliver (now + first.1) first.2).arrivals =
          socket.arrivals ++ [⟨now + first.1, first.2⟩] := by
        have hlast := insertArrival_append ⟨now + first.1, first.2⟩
          (fun arrival hmem => hbehind arrival hmem first List.mem_cons_self) []
        rwa [List.append_nil] at hlast
      have hdelivered := @ih (socket.deliver (now + first.1) first.2) hrest (by
        intro arrival hmem sent hsent
        rw [hput] at hmem
        rcases List.mem_append.1 hmem with hmem | hmem
        · exact hbehind arrival hmem sent (List.mem_cons_of_mem _ hsent)
        · cases List.mem_singleton.1 hmem
          exact Nat.add_le_add_left (hfirst sent hsent) now)
      rw [hput, List.append_assoc] at hdelivered
      exact hdelivered

/-- What is on its way to a socket does not touch what was sent. -/
theorem sent_deliverAll (socket : Socket) (now : Nat) (datagrams : List (Nat × Datagram)) :
    (socket.deliverAll now datagrams).sent = socket.sent := by
  induction datagrams generalizing socket with
  | nil => rfl
  | cons first rest ih => exact ih (socket.deliver (now + first.1) first.2)

/-- To deliver keeps the order. -/
theorem InOrder.deliverAll {socket : Socket} (h : InOrder socket.arrivals) (now : Nat)
    (datagrams : List (Nat × Datagram)) : InOrder (socket.deliverAll now datagrams).arrivals := by
  induction datagrams generalizing socket with
  | nil => exact h
  | cons first rest ih => exact ih (h.insertArrival ⟨now + first.1, first.2⟩)

end Socket
end Blockwise
