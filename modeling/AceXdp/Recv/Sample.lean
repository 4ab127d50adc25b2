import AceXdp.Wire

/-!
# AceXdp — the record of the UDP receiver

The record construction of `receiver.c`: the wire header of a datagram that passed the header
check, the two user clocks and the hardware timestamp of the control message.
-/

namespace AceXdp

/-- What `recvmsg` reports beside the payload: `MSG_CTRUNC`, and the hardware timestamp that
`extract_hw_timestamp` finds in the control messages. -/
structure ControlInfo where
  ctrunc : Bool
  hwRxNs : Option Int64
  deriving DecidableEq, Repr

/-- `hwts_valid` and the value it comes with; the timestamp is not looked for in a truncated
control buffer. -/
def ControlInfo.hardware (m : ControlInfo) : Option Int64 := if m.ctrunc then none else m.hwRxNs

/-- The record of one accepted datagram; `flow_id` is the configured one, which the header check
has found in the header. -/
def sampleRecordOf (header : WireHeader) (len : UInt32) (mono real : Int64) (m : ControlInfo) :
    SampleRecord where
  seq := header.sequence
  txNs := header.txRealtimeNs.toInt64
  userRxMonoNs := mono
  userRxRealNs := real
  hwRxNs := m.hardware.getD 0
  flowId := header.flowId
  len := len
  flags := (if m.hardware.isSome then sampleHwtsValid else 0) |||
    (if m.ctrunc then sampleCmsgTruncated else 0)
  reserved16 := 0
  reserved32 := 0

end AceXdp
