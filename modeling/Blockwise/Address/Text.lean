import Blockwise.Address

/-!
# The text of network addresses

IPv4 addresses are four decimal numbers between points.  IPv6 addresses are
lower-case hexadecimal groups between colons, in which the first of the longest
runs of two or more zero groups becomes a double colon; an IPv4 address mapped
into IPv6 keeps its points.  A socket address brackets an IPv6 address and adds
the port.
-/

namespace Blockwise

/-! ## Runs of zero groups -/

/-- A run of equal groups: where it begins and how long it is. -/
structure Run where
  start : Nat
  length : Nat
  deriving DecidableEq, Repr

/-- The first of the longest runs of zeros among groups, where `place` is the
place of the first group, `current` the run that ends before it, and `longest`
the longest run so far. -/
def Run.longestZero (place : Nat) (current longest : Run) : List UInt16 → Run
  | [] => longest
  | group :: rest =>
    if group = 0 then
      let current : Run :=
        if current.length = 0 then ⟨place, 1⟩ else ⟨current.start, current.length + 1⟩
      let longest := if longest.length < current.length then current else longest
      longestZero (place + 1) current longest rest
    else longestZero (place + 1) ⟨0, 0⟩ longest rest

/-! ## Addresses -/

namespace IpAddress

/-- Four decimal numbers between points. -/
def textV4 (a b c d : UInt8) : String := s!"{a.toNat}.{b.toNat}.{c.toNat}.{d.toNat}"

/-- Groups in hexadecimal, between colons. -/
def textGroups (groups : List UInt16) : String :=
  ":".intercalate (groups.map fun group => String.ofList (Nat.toDigits 16 group.toNat))

/-- The text of eight groups. -/
def textV6 (groups : List UInt16) : String :=
  match groups with
  | [0, 0, 0, 0, 0, 0xFFFF, high, low] =>
    "::ffff:" ++ textV4 (UInt8.ofNat (high.toNat / 256)) (UInt8.ofNat (high.toNat % 256))
      (UInt8.ofNat (low.toNat / 256)) (UInt8.ofNat (low.toNat % 256))
  | _ =>
    let run := Run.longestZero 0 ⟨0, 0⟩ ⟨0, 0⟩ groups
    if 1 < run.length then
      textGroups (groups.take run.start) ++ "::" ++
        textGroups (groups.drop (run.start + run.length))
    else textGroups groups

/-- The text of an IP address. -/
def text : IpAddress → String
  | .v4 a b c d => textV4 a b c d
  | .v6 groups => textV6 groups.toList

end IpAddress

/-- The text of a socket address.  A scope is shown unless it is zero, a flow
label never. -/
def SocketAddress.text : SocketAddress → String
  | .v4 a b c d port => s!"{IpAddress.textV4 a b c d}:{port.toNat}"
  | .v6 groups port _ scope =>
    let zone := if scope = 0 then "" else s!"%{scope.toNat}"
    s!"[{IpAddress.textV6 groups.toList}{zone}]:{port.toNat}"

/-- The text of a peer, that of its socket address. -/
def Peer.text (peer : Peer) : String := peer.address.text

end Blockwise
