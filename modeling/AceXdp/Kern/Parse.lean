import AceXdp.Wire

/-!
# AceXdp — `parse_experiment_packet`, the BPF classifier

The parser walks the fixed envelope with one comparison against `data_end` before each access.
`len` is `data_end - data`; every `(void *)p > data_end` is the comparison of that pointer's
offset with `len`.
-/

namespace AceXdp

/-- What the parser returns, with the counter it bumped on the way. -/
inductive ParseResult where
  -- `0`: unrelated traffic, possibly counted as invalid IPv4 or as a fragment
  | unrelated (counted : Option Stat)
  -- `-1`: an experiment port without a valid experiment header
  | headerInvalid
  -- `1`: an experiment packet, with its key and classified path
  | experiment (key : PacketKey) (path : RequestedPath)
  deriving DecidableEq, Repr

def ParseResult.code : ParseResult → Int
  | .unrelated _ => 0
  | .headerInvalid => -1
  | .experiment _ _ => 1

def ParseResult.counted : ParseResult → Option Stat
  | .unrelated c => c
  | .headerInvalid => some .packetHeaderInvalid
  | .experiment _ _ => none

/-- `ACE_IPV4_FRAGMENT_MASK`: MF plus the fragment offset, DF excluded. -/
def ipv4FragmentMask : Nat := 0x3fff

/-- The port policy; `none` for a port that is not an experiment port. -/
def classifyPort (dest : Nat) : Option RequestedPath :=
  if dest = passPort then some .pass
  else if dest = rtPort then some .cpumap
  else if dest = xskPort then some .xsk
  else none

/-- The tail of the parser, once the UDP header is known to lie inside the frame. -/
def parseUdpPayload (pkt : Nat → UInt8) (len : Nat) (path : RequestedPath) : ParseResult :=
  let payload := udpOffset pkt + udpHeaderSize
  let wire := wireHeaderAt pkt payload
  if udpLen pkt < udpHeaderSize + packetHeaderSize ∨ len < payload + packetHeaderSize then
    .headerInvalid
  else if ¬wire.isExperiment then .headerInvalid
  else .experiment ⟨wire.flowId, 0, wire.sequence⟩ path

def parseExperimentPacket (pkt : Nat → UInt8) (len : Nat) : ParseResult :=
  if len < ethHeaderSize then .unrelated none
  else if ethProto pkt ≠ ethPIp then .unrelated none
  else if len < ethHeaderSize + ipHeaderSize then .unrelated (some .ipv4Invalid)
  else if ipVersion pkt ≠ 4 ∨ ipHeaderLen pkt < 5 * 4 then .unrelated (some .ipv4Invalid)
  else if ipTotLen pkt < ipHeaderLen pkt ∨ len < ethHeaderSize + ipHeaderLen pkt ∨
      len < ethHeaderSize + ipTotLen pkt then .unrelated (some .ipv4Invalid)
  else if ipFragOff pkt &&& ipv4FragmentMask ≠ 0 then .unrelated (some .ipv4Fragment)
  else if ipProtocol pkt ≠ ipprotoUdp then .unrelated none
  else if ipTotLen pkt < ipHeaderLen pkt + udpHeaderSize then .unrelated (some .ipv4Invalid)
  else if len < udpOffset pkt + udpHeaderSize then .unrelated (some .ipv4Invalid)
  else if udpLen pkt < udpHeaderSize ∨ udpLen pkt > ipTotLen pkt - ipHeaderLen pkt ∨
      len < udpOffset pkt + udpLen pkt then .unrelated (some .ipv4Invalid)
  else match classifyPort (udpDest pkt) with
    | none => .unrelated none
    | some path => parseUdpPayload pkt len path

/-- A CPUMAP experiment packet: flow 1, sequence 7, UDP port 9001. -/
def cpumapFrame : List UInt8 :=
  [0, 0, 0, 0, 0, 0, 0, 0, 0, 0, 0, 0, 0x08, 0x00,
    0x45, 0, 0, 60, 0, 0, 0x40, 0, 64, 17, 0, 0, 10, 0, 0, 1, 10, 0, 0, 2,
    0x13, 0x88, 0x23, 0x29, 0, 40, 0, 0,
    0x41, 0x43, 0x45, 0x31, 0, 1, 0, 32, 0, 0, 0, 1, 0, 0, 0, 0,
    0, 0, 0, 0, 0, 0, 0, 7, 0, 0, 0, 0, 0, 0, 0, 9]

example : parseExperimentPacket (frameView cpumapFrame) cpumapFrame.length
    = .experiment ⟨1, 0, 7⟩ .cpumap := by
  decide +kernel

end AceXdp
