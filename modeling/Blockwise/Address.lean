/-!
# Network addresses

An IP address is four bytes or eight groups of 16 bits.  A socket address adds
a port and, for IPv6, a flow label and a scope.  A `Peer` is what an endpoint
remembers of the other side: the IP address and the port.
-/

namespace Blockwise

/-- An IP address. -/
inductive IpAddress where
  | v4 (a b c d : UInt8)
  | v6 (groups : Vector UInt16 8)
  deriving DecidableEq, Repr

/-- The address of a socket. -/
inductive SocketAddress where
  | v4 (a b c d : UInt8) (port : UInt16)
  | v6 (groups : Vector UInt16 8) (port : UInt16) (flow scope : UInt32)
  deriving DecidableEq, Repr

namespace SocketAddress

/-- The IP address of a socket address. -/
def ip : SocketAddress → IpAddress
  | .v4 a b c d _ => .v4 a b c d
  | .v6 groups _ _ _ => .v6 groups

/-- The port of a socket address. -/
def port : SocketAddress → UInt16
  | .v4 _ _ _ _ port => port
  | .v6 _ port _ _ => port

end SocketAddress

/-- The other side of a connection. -/
structure Peer where
  ip : IpAddress
  port : UInt16
  deriving DecidableEq, Repr

namespace Peer

/-- The peer behind a socket address; flow label and scope are forgotten. -/
def ofAddress (address : SocketAddress) : Peer := ⟨address.ip, address.port⟩

/-- The socket address of a peer, with neither flow label nor scope. -/
def address (peer : Peer) : SocketAddress :=
  match peer.ip with
  | .v4 a b c d => .v4 a b c d peer.port
  | .v6 groups => .v6 groups peer.port 0 0

end Peer
end Blockwise
