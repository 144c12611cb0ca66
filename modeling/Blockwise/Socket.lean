import Blockwise.Failure

/-!
# Sockets

A socket holds the datagrams that have come or will come to its address, each
with the time of its arrival, in that order; time is part of the model and
moves only while somebody waits.  Reading goes through the arrivals one by one
until a datagram is taken or the next one would come after the deadline.  A
datagram that is there already is read whatever the deadline.
-/

namespace Blockwise

/-- A datagram and the address it came from. -/
structure Datagram where
  source : SocketAddress
  bytes : Bytes
  deriving DecidableEq, Repr

namespace Datagram

/-- Only so many bytes of a datagram are read. -/
def readLimit : Nat := 4096

/-- The longest datagram that can be sent. -/
def sendLimit : Nat := 65507

/-- The message in what is read of a datagram. -/
def message (datagram : Datagram) : Except MessageError Message :=
  Message.decode (datagram.bytes.take readLimit)

end Datagram

/-- A datagram and the time at which it comes. -/
structure Arrival where
  time : Nat
  datagram : Datagram
  deriving DecidableEq, Repr

/-- A message that was sent, and where to. -/
structure Outgoing where
  destination : SocketAddress
  message : Message
  deriving DecidableEq

/-- One end of the network. -/
structure Socket where
  address : SocketAddress
  /-- What has not been read yet, in order of arrival. -/
  arrivals : List Arrival
  /-- What was sent, first message first. -/
  sent : List Outgoing
  deriving DecidableEq

namespace Socket

/-- A socket that nothing has come to yet. -/
def bind (address : SocketAddress) : Socket := { address, arrivals := [], sent := [] }

/-! ## Sending and delivering -/

/-- Sends a message as one datagram. -/
def send (socket : Socket) (destination : SocketAddress) (message : Message) :
    Except SocketFault Socket :=
  match message.encode with
  | .error error => .error (.message error)
  | .ok bytes =>
    if Datagram.sendLimit < bytes.length then .error .refused
    else .ok { socket with sent := socket.sent ++ [⟨destination, message⟩] }

/-- An arrival put behind all that come no later. -/
def insertArrival (arrival : Arrival) : List Arrival → List Arrival
  | [] => [arrival]
  | first :: rest =>
    if first.time ≤ arrival.time then first :: insertArrival arrival rest
    else arrival :: first :: rest

/-- The socket with a datagram on its way to it. -/
def deliver (socket : Socket) (time : Nat) (datagram : Datagram) : Socket :=
  { socket with arrivals := insertArrival ⟨time, datagram⟩ socket.arrivals }

/-- The socket with several datagrams on their way to it, each with its delay
from a point in time. -/
def deliverAll (socket : Socket) (now : Nat) (datagrams : List (Nat × Datagram)) : Socket :=
  datagrams.foldl (fun socket (delay, datagram) => socket.deliver (now + delay) datagram) socket

/-! ## Reading -/

/-- What a reader makes of a datagram. -/
inductive Verdict (α : Type) where
  /-- It is what the reader wants; reading ends. -/
  | take (value : α)
  /-- Its message is kept for later. -/
  | keep (message : Message)
  /-- It is passed over. -/
  | pass
  deriving DecidableEq

/-- A reading that has ended. -/
structure Reading (α : Type) where
  /-- What was taken; nothing if the deadline came first. -/
  taken : Option α
  /-- The messages kept on the way, in order. -/
  kept : List Message
  /-- When reading ended. -/
  time : Nat
  /-- What has not been read. -/
  unread : List Arrival
  deriving DecidableEq

/-- Reads from a point in time on until a datagram is taken or the deadline has
passed.  Without a deadline reading goes on as long as datagrams come. -/
def read {α : Type} (judge : Datagram → Verdict α) (deadline : Option Nat) (now : Nat) :
    List Arrival → Reading α
  | [] => { taken := none, kept := [], time := deadline.getD now, unread := [] }
  | arrival :: rest =>
    if deadline.all (arrival.time ≤ ·) then
      match judge arrival.datagram with
      | .take value =>
        { taken := some value, kept := [], time := max now arrival.time, unread := rest }
      | .keep message =>
        let later := read judge deadline (max now arrival.time) rest
        { later with kept := message :: later.kept }
      | .pass => read judge deadline (max now arrival.time) rest
    else { taken := none, kept := [], time := deadline.getD now, unread := arrival :: rest }

/-- Taking a datagram uses up at least one arrival. -/
theorem length_unread_lt {α : Type} {judge : Datagram → Verdict α} {deadline : Option Nat}
    {now : Nat} {arrivals : List Arrival} {value : α}
    (h : (read judge deadline now arrivals).taken = some value) :
    (read judge deadline now arrivals).unread.length < arrivals.length := by
  fun_induction read judge deadline now arrivals with
  | case1 => cases h
  | case2 => simp
  | case3 _ _ _ _ _ _ _ ih => exact Nat.lt_succ_of_lt (ih h)
  | case4 _ _ _ _ _ ih => exact Nat.lt_succ_of_lt (ih h)
  | case5 => cases h

end Socket
end Blockwise
