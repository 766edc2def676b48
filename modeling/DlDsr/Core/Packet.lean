import Mathlib.Data.List.Basic

/-!
# Packets (`dldsr-core/src/packet.rs`)

The packet types of the protocol. Every variant of the source's `Packet` enum is
a structure of its own, so that a handler takes the variant it handles. Node ids
are `u32`, labels and hop counts `u8`; `u64` and `usize` fields (times, request
ids, sequence numbers, cursors) are natural numbers. A daemon does not exhaust
them: its counters go up by one, and the times it adds come from a configuration
file, whose integers are below 2^63. A `NodeConfig` that is built in code may hold
a `route_cache_ttl_ms` near `u64::MAX`, with which the sum in `handle_rrep` wraps
in a release build; that is not modelled.
-/

namespace DlDsr

/-- A node identifier (`u32`). -/
abbrev NodeId := UInt32

/-- A dynamic label (`u8`). -/
abbrev Label := UInt8

/-- `std::net::SocketAddr`: an IPv4 or IPv6 address and a port. -/
inductive SocketAddr where
  | v4 (octets : Vector UInt8 4) (port : UInt16)
  | v6 (segments : Vector UInt16 8) (port : UInt16) (flowinfo scopeId : UInt32)
deriving DecidableEq

namespace SocketAddr

/-- The longest run of zero segments, as `(start, length)`; the first of several
runs of that length. -/
def longestZeroRun (segments : List UInt16) : Nat × Nat :=
  let scan := segments.zipIdx.foldl
    (fun (acc : (Nat × Nat) × (Nat × Nat)) (p : UInt16 × Nat) =>
      if p.1 = 0 then
        let start := if acc.2.2 = 0 then p.2 else acc.2.1
        let current := (start, acc.2.2 + 1)
        (if acc.1.2 < current.2 then current else acc.1, current)
      else (acc.1, (0, 0)))
    ((0, 0), (0, 0))
  scan.1

/-- Segments in lower-case hexadecimal, separated by colons. -/
def colonSeparated (segments : List UInt16) : String :=
  ":".intercalate (segments.map fun s => String.ofList (Nat.toDigits 16 s.toNat))

/-- `Ipv6Addr`'s `Display`: the longest run of at least two zero segments is
written `::`, and an IPv4-mapped address in dotted form. -/
def displayV6 (segments : List UInt16) : String :=
  match segments with
  | [0, 0, 0, 0, 0, 0xffff, ab, cd] =>
    s!"::ffff:{ab.toNat / 256}.{ab.toNat % 256}.{cd.toNat / 256}.{cd.toNat % 256}"
  | _ =>
    let run := longestZeroRun segments
    if 1 < run.2 then
      colonSeparated (segments.take run.1) ++ "::" ++
        colonSeparated (segments.drop (run.1 + run.2))
    else colonSeparated segments

/-- `SocketAddr`'s `Display`. -/
def display : SocketAddr → String
  | .v4 octets port =>
    ".".intercalate (octets.toList.map fun o => toString o.toNat) ++ s!":{port.toNat}"
  | .v6 segments port _ scopeId =>
    let scope := if scopeId = 0 then "" else s!"%{scopeId.toNat}"
    "[" ++ displayV6 segments.toList ++ scope ++ s!"]:{port.toNat}"

instance : ToString SocketAddr := ⟨display⟩

/-- `127.0.0.1:port`, as the source's tests and examples use it. -/
def localhost (port : UInt16) : SocketAddr := .v4 #v[127, 0, 0, 1] port

end SocketAddr

/-- The protocol a node or a DATA packet runs. -/
inductive ProtocolMode where
  | dsr
  | dlDsr
deriving DecidableEq

instance : ToString ProtocolMode where
  toString
    | .dsr => "dsr"
    | .dlDsr => "dldsr"

/-- `Packet::Hello`. -/
structure Hello where
  srcNodeId : NodeId
  timestampMillis : Nat
deriving DecidableEq

/-- `Packet::HelloReply`. -/
structure HelloReply where
  srcNodeId : NodeId
  dstNodeId : NodeId
  assignedLabel : Label
  updateFlag : Bool
  timestampMillis : Nat
deriving DecidableEq

/-- `Packet::Rreq`. -/
structure Rreq where
  srcNodeId : NodeId
  dstNodeId : NodeId
  requestId : Nat
  previousHop : NodeId
  hopCount : UInt8
  dsrPath : List NodeId
  dldsrLabelPath : List Label
  tracePath : List NodeId
  createdAtMillis : Nat
deriving DecidableEq

/-- `Packet::Rrep`. -/
structure Rrep where
  srcNodeId : NodeId
  dstNodeId : NodeId
  requestId : Nat
  dsrPath : List NodeId
  dldsrLabelPath : List Label
  tracePath : List NodeId
  createdAtMillis : Nat
deriving DecidableEq

/-- `Packet::Data`. -/
structure Data where
  srcNodeId : NodeId
  dstNodeId : NodeId
  sequence : Nat
  protocolMode : ProtocolMode
  routeCursor : Nat
  dsrPath : List NodeId
  dldsrLabelPath : List Label
  payload : List UInt8
  createdAtMillis : Nat
deriving DecidableEq

/-- `Packet::Ack` (never sent; ignored when received). -/
structure Ack where
  srcNodeId : NodeId
  dstNodeId : NodeId
  sequence : Nat
deriving DecidableEq

/-- `Packet::Error` (never sent; ignored when received). -/
structure PacketError where
  srcNodeId : NodeId
  dstNodeId : NodeId
  message : String
deriving DecidableEq

/-- A protocol packet. -/
inductive Packet where
  | hello (p : Hello)
  | helloReply (p : HelloReply)
  | rreq (p : Rreq)
  | rrep (p : Rrep)
  | data (p : Data)
  | ack (p : Ack)
  | error (p : PacketError)
deriving DecidableEq

/-- `path_header_bytes`: 4 bytes for a node id, 1 byte for a label. -/
def pathHeaderBytes (mode : ProtocolMode) (hops : Nat) : Nat :=
  match mode with
  | .dsr => hops * 4
  | .dlDsr => hops * 1

/-- The bytes of both paths that a DATA packet carries. -/
def Data.pathBytes (d : Data) : Nat :=
  pathHeaderBytes .dsr d.dsrPath.length + pathHeaderBytes .dlDsr d.dldsrLabelPath.length

end DlDsr
