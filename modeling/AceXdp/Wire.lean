import AceXdp.Abi
import AceXdp.Lib.ByteView

/-!
# AceXdp — the Ethernet/IPv4/UDP/experiment headers as both parsers read them

`xdp_kern.c` and `afxdp_recv.c` overlay the same kernel header structs on the frame. The
readers below are those overlays at fixed offsets of a byte view; which of them is read, and
after which check, is decided by each parser on its own.
-/

namespace AceXdp

open ByteView

def ethHeaderSize : Nat := 14
def ipHeaderSize : Nat := 20
def udpHeaderSize : Nat := 8

def ethPIp : Nat := 0x0800
def ipprotoUdp : Nat := 17

/-! ## `struct ethhdr`, `struct iphdr`, `struct udphdr` -/

def ethProto (pkt : Nat → UInt8) : Nat := beNat pkt 12 2

/-- `iph->version`, the high nibble of the first IPv4 byte. -/
def ipVersion (pkt : Nat → UInt8) : Nat := (pkt 14).toNat / 16

/-- `iph->ihl * 4`, from the low nibble of the first IPv4 byte. -/
def ipHeaderLen (pkt : Nat → UInt8) : Nat := (pkt 14).toNat % 16 * 4

def ipTotLen (pkt : Nat → UInt8) : Nat := beNat pkt 16 2
def ipFragOff (pkt : Nat → UInt8) : Nat := beNat pkt 20 2
def ipProtocol (pkt : Nat → UInt8) : Nat := (pkt 23).toNat

/-- The offset of the UDP header: right after the IPv4 header and its options. -/
def udpOffset (pkt : Nat → UInt8) : Nat := ethHeaderSize + ipHeaderLen pkt

def udpDest (pkt : Nat → UInt8) : Nat := beNat pkt (udpOffset pkt + 2) 2
def udpLen (pkt : Nat → UInt8) : Nat := beNat pkt (udpOffset pkt + 4) 2

/-! ## `struct ace_experiment_header` -/

/-- The experiment header after byte-order conversion. -/
structure WireHeader where
  magic : Nat
  version : Nat
  size : Nat
  flowId : UInt32
  reserved : Nat
  sequence : UInt64
  txRealtimeNs : UInt64
  deriving DecidableEq, Repr

/-- The header copied from offset `off` (`memcpy` before any field is read). -/
def wireHeaderAt (pkt : Nat → UInt8) (off : Nat) : WireHeader where
  magic := beNat pkt off 4
  version := beNat pkt (off + 4) 2
  size := beNat pkt (off + 6) 2
  flowId := UInt32.ofNat (beNat pkt (off + 8) 4)
  reserved := beNat pkt (off + 12) 4
  sequence := UInt64.ofNat (beNat pkt (off + 16) 8)
  txRealtimeNs := UInt64.ofNat (beNat pkt (off + 24) 8)

/-- The envelope test every consumer of the header makes. -/
def WireHeader.isExperiment (wire : WireHeader) : Prop :=
  wire.magic = packetMagic ∧ wire.version = packetVersion ∧ wire.size = packetHeaderSize ∧
    wire.reserved = 0

instance (wire : WireHeader) : Decidable wire.isExperiment := by
  unfold WireHeader.isExperiment; infer_instance

/-- The view of a frame held as a byte list; the parsers never look past its length. -/
def frameView (bytes : List UInt8) (i : Nat) : UInt8 := bytes.getD i 0

end AceXdp
