import Blockwise.Server

/-!
# The serving loop

A running server hears datagrams and takes commands.  The first readable
datagram makes its sender the peer; datagrams from elsewhere and unreadable
ones change nothing.  When neither the peer nor a command has woken the loop for
the idle time-out, the connection is reset and the next sender is accepted;
transfers, history and the kept answer stay.
-/

namespace Blockwise.Server

/-! ## Steps -/

/-- Hears one datagram at a point in time. -/
def hear (server : Server) (time : Nat) (datagram : Datagram) : Server :=
  match server.endpoint.hear datagram with
  | none => server
  | some (message, endpoint) => { server with endpoint, wokeAt := time }.serve message

/-- When the connection will be reset if nothing wakes the loop: never without a
peer or after the stop. -/
def dueAt (server : Server) : Option Nat :=
  if server.endpoint.isConnected && !server.isStopped then
    some (server.wokeAt + server.idleTimeout)
  else none

/-- Resets the connection if the time for it satisfies a condition. -/
def expireIf (server : Server) (passed : Nat → Bool) : Server :=
  match server.dueAt with
  | some due =>
    if passed due then { server with endpoint := server.endpoint.reset, wokeAt := due }
    else server
  | none => server

/-- Sends a message to the peer as it is, on behalf of whoever asks for it. -/
def sendToPeer (server : Server) (now : Nat) (message : Message) :
    Except Failure Unit × Server :=
  if server.isStopped then (.error (.serverTask .stopped), server)
  else
    let server := { server with wokeAt := now }
    match server.endpoint.sendMessage message with
    | .ok endpoint => (.ok (), { server with endpoint })
    | .error failure => (.error failure, server)

/-! ## Running -/

/-- The server with the given arrivals still unread. -/
def withArrivals (server : Server) (arrivals : List Arrival) : Server :=
  { server with endpoint := { server.endpoint with
      socket := { server.endpoint.socket with arrivals } } }

/-- Runs up to a point in time through the given arrivals.  A datagram that
comes when the idle time-out is due is heard first. -/
def runThrough (server : Server) (now : Nat) : List Arrival → Server
  | [] => (server.expireIf (· ≤ now)).withArrivals []
  | arrival :: rest =>
    if server.isStopped then server.withArrivals (arrival :: rest)
    else if arrival.time ≤ now then
      runThrough ((server.expireIf (· < arrival.time)).hear arrival.time arrival.datagram) now rest
    else (server.expireIf (· ≤ now)).withArrivals (arrival :: rest)

/-- Runs up to a point in time. -/
def run (server : Server) (now : Nat) : Server :=
  server.runThrough now server.endpoint.socket.arrivals

/-- Ends the loop: the stats, or the failure that stopped it before. -/
def shutdown (server : Server) : Except Failure Stats :=
  match server.failure with
  | some failure => .error failure
  | none => .ok server.stats

end Blockwise.Server
