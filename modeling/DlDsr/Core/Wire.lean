import DlDsr.Core.Packet
import DlDsr.Lib.Format

/-!
# Packets as bytes (`Packet::encode`, `Packet::decode`)

The format that `bincode::serialize` documents for the source's `Packet`: integers in little
endian at their own width, `usize` as eight bytes, one byte for a `bool`, lists and strings
behind a length of eight bytes, and the variants of an enum behind their index in four. Bytes
after the packet are ignored.

What is proved about the daemons uses of the format that it reads back what it writes, and
no more; this one is what they can run with.
-/

namespace DlDsr

namespace Wire

open Format

/-- `u8` -/
def u8 : Format UInt8 :=
  (number 1).iso UInt8.toNat UInt8.ofNat fun _ => UInt8.ofNat_toNat

/-- `u32` -/
def u32 : Format UInt32 :=
  (number 4).iso UInt32.toNat UInt32.ofNat fun _ => UInt32.ofNat_toNat

/-- `u64` and `usize` -/
def u64 : Format Nat := number 8

/-- `bool`: any byte but 0 and 1 is rejected. -/
def bool : Format Bool :=
  (number 1).via (fun b => some b.toNat)
    (fun n => if n = 0 then some false else if n = 1 then some true else none) fun b n h => by
      obtain rfl := Option.some.inj h
      cases b <;> rfl

/-- `Vec<T>` -/
def vec {α : Type} (f : Format α) : Format (List α) := Format.list u64 f

/-- `String`: bytes that are no UTF-8 are rejected. -/
def string : Format String :=
  (vec u8).via (fun s => some s.toUTF8.data.toList) (fun bytes => String.fromUTF8? ⟨bytes.toArray⟩)
    fun s bytes h => by
      obtain rfl := Option.some.inj h
      exact dif_pos s.isValidUTF8

/-- The index of a variant. -/
def tag : Format Nat := number 4

end Wire

open Format Wire

/-- `ProtocolMode` -/
def ProtocolMode.format : Format ProtocolMode :=
  tag.via (fun | .dsr => some 0 | .dlDsr => some 1)
    (fun | 0 => some .dsr | 1 => some .dlDsr | _ => none) fun mode i h => by
      cases mode <;> cases h <;> rfl

/-- The fields of `Packet::Hello`. -/
def Hello.format : Format Hello :=
  (u32.seq u64).iso (fun p => (p.srcNodeId, p.timestampMillis)) (fun (src, timestamp) =>
    ⟨src, timestamp⟩) fun _ => rfl

/-- The fields of `Packet::HelloReply`. -/
def HelloReply.format : Format HelloReply :=
  (u32.seq (u32.seq (u8.seq (bool.seq u64)))).iso
    (fun p => (p.srcNodeId, p.dstNodeId, p.assignedLabel, p.updateFlag, p.timestampMillis))
    (fun (src, dst, label, flag, timestamp) => ⟨src, dst, label, flag, timestamp⟩) fun _ => rfl

/-- The fields of `Packet::Rreq`. -/
def Rreq.format : Format Rreq :=
  (u32.seq (u32.seq (u64.seq (u32.seq (u8.seq ((vec u32).seq ((vec u8).seq
    ((vec u32).seq u64)))))))).iso
    (fun p => (p.srcNodeId, p.dstNodeId, p.requestId, p.previousHop, p.hopCount, p.dsrPath,
      p.dldsrLabelPath, p.tracePath, p.createdAtMillis))
    (fun (src, dst, id, previous, hops, path, labels, trace, created) =>
      ⟨src, dst, id, previous, hops, path, labels, trace, created⟩) fun _ => rfl

/-- The fields of `Packet::Rrep`. -/
def Rrep.format : Format Rrep :=
  (u32.seq (u32.seq (u64.seq ((vec u32).seq ((vec u8).seq ((vec u32).seq u64)))))).iso
    (fun p => (p.srcNodeId, p.dstNodeId, p.requestId, p.dsrPath, p.dldsrLabelPath, p.tracePath,
      p.createdAtMillis))
    (fun (src, dst, id, path, labels, trace, created) =>
      ⟨src, dst, id, path, labels, trace, created⟩) fun _ => rfl

/-- The fields of `Packet::Data`. -/
def Data.format : Format Data :=
  (u32.seq (u32.seq (u64.seq (ProtocolMode.format.seq (u64.seq ((vec u32).seq ((vec u8).seq
    ((vec u8).seq u64)))))))).iso
    (fun p => (p.srcNodeId, p.dstNodeId, p.sequence, p.protocolMode, p.routeCursor, p.dsrPath,
      p.dldsrLabelPath, p.payload, p.createdAtMillis))
    (fun (src, dst, sequence, mode, cursor, path, labels, payload, created) =>
      ⟨src, dst, sequence, mode, cursor, path, labels, payload, created⟩) fun _ => rfl

/-- The fields of `Packet::Ack`. -/
def Ack.format : Format Ack :=
  (u32.seq (u32.seq u64)).iso (fun p => (p.srcNodeId, p.dstNodeId, p.sequence))
    (fun (src, dst, sequence) => ⟨src, dst, sequence⟩) fun _ => rfl

/-- The fields of `Packet::Error`. -/
def PacketError.format : Format PacketError :=
  (u32.seq (u32.seq string)).iso (fun p => (p.srcNodeId, p.dstNodeId, p.message))
    (fun (src, dst, message) => ⟨src, dst, message⟩) fun _ => rfl

namespace Packet

/-- The variant of a packet. -/
def index : Packet → Nat
  | .hello _ => 0
  | .helloReply _ => 1
  | .rreq _ => 2
  | .rrep _ => 3
  | .data _ => 4
  | .ack _ => 5
  | .error _ => 6

/-- The packets of a variant. -/
def branch : Nat → Format Packet
  | 0 => Hello.format.via (fun | .hello p => some p | _ => none) (fun p => some (.hello p))
      fun packet p h => by cases packet <;> cases h; rfl
  | 1 => HelloReply.format.via (fun | .helloReply p => some p | _ => none)
      (fun p => some (.helloReply p)) fun packet p h => by cases packet <;> cases h; rfl
  | 2 => Rreq.format.via (fun | .rreq p => some p | _ => none) (fun p => some (.rreq p))
      fun packet p h => by cases packet <;> cases h; rfl
  | 3 => Rrep.format.via (fun | .rrep p => some p | _ => none) (fun p => some (.rrep p))
      fun packet p h => by cases packet <;> cases h; rfl
  | 4 => Data.format.via (fun | .data p => some p | _ => none) (fun p => some (.data p))
      fun packet p h => by cases packet <;> cases h; rfl
  | 5 => Ack.format.via (fun | .ack p => some p | _ => none) (fun p => some (.ack p))
      fun packet p h => by cases packet <;> cases h; rfl
  | 6 => PacketError.format.via (fun | .error p => some p | _ => none) (fun p => some (.error p))
      fun packet p h => by cases packet <;> cases h; rfl
  | _ => never

/-- `Packet` -/
def format : Format Packet := variant tag index branch

/-- `Packet::encode`. -/
def encode (self : Packet) : Option (List UInt8) := format.write self

/-- `Packet::decode`. -/
def decode (bytes : List UInt8) : Option Packet := (format.read bytes).map Prod.fst

theorem decode_encode {packet : Packet} {bytes : List UInt8} (h : packet.encode = some bytes) :
    decode bytes = some packet :=
  read_of_write h

end Packet

end DlDsr
