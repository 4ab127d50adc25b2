import AceXdp.Lib.ByteView
import AceXdp.Recv.Sample
import AceXdp.Send.Sender

/-!
# AceXdp — the hardware timestamp of a datagram

`extract_hw_timestamp` of `receiver.c` walks the control messages of `recvmsg` to the first
`SCM_TIMESTAMPING`, copies its three `struct timespec` and converts the third, the unconverted
time of the NIC's clock. A second type counts as a timestamp message only under
`#ifdef SCM_TIMESTAMPING_NEW`. No header of the repository defines that macro and the kernel's
headers spell the type `SO_TIMESTAMPING_NEW`, so whether the branch is compiled is a parameter.

* `extractHwTimestamp_eq`: the first timestamp message decides, the others are not looked at;
* `hardware_timestampingMessage`: any pair can be the one that a message carries.
-/

namespace AceXdp

open ByteView
open Sender (Timespec)

def solSocket : Int := 1
def scmTimestamping : Int := 37

/-- A `struct cmsghdr` and its data; `cmsg_len` is `CMSG_LEN(data.length)`. -/
structure ControlMessage where
  level : Int
  type : Int
  data : List UInt8
  deriving DecidableEq, Repr

def timespecSize : Nat := 16

/-- `sizeof(struct scm_timestamping)`: `ts[0]` to `ts[2]`. -/
def scmTimestampingSize : Nat := 3 * timespecSize

def readInt64 (v : Nat → UInt8) (off : Nat) : Int64 := (UInt64.ofNat (leNat v off 8)).toInt64

/-- `timestamps.ts[i]`, behind the copy. -/
def timestampAt (v : Nat → UInt8) (i : Nat) : Timespec where
  sec := readInt64 v (timespecSize * i)
  nsec := readInt64 v (timespecSize * i + 8)

section

-- `SCM_TIMESTAMPING_NEW` where the build defines it.
variable (scmTimestampingNew : Option Int)

def ControlMessage.isTimestamp (m : ControlMessage) : Bool :=
  m.level == solSocket && m.type == scmTimestamping
    || scmTimestampingNew.any fun new => m.level == solSocket && m.type == new

/-- `hardware`, where the turn of the loop does not `continue`. -/
def ControlMessage.hardware (m : ControlMessage) : Option Timespec :=
  if !m.isTimestamp scmTimestampingNew || m.data.length < scmTimestampingSize then none
  else some (timestampAt (m.data.getD · 0) 2)

/-- The two tests behind the copy; the bound of the second is `INT64_MAX / 1000000000`. -/
def hardwareAccepted (t : Timespec) : Bool :=
  !(t.sec < 0 || t.nsec < 0 || 1000000000 ≤ t.nsec || (t.sec == 0 && t.nsec == 0))
    && !(9223372036 < t.sec.toUInt64)

def extractHwTimestamp : List ControlMessage → Option Int64
  | [] => none
  | control :: rest =>
    match control.hardware scmTimestampingNew with
    | none => extractHwTimestamp rest
    | some t => if hardwareAccepted t then some t.nanos else none

/-! ## The message that decides -/

/-- The pair that is converted or refused. -/
def hardwareTimestamp (messages : List ControlMessage) : Option Timespec :=
  messages.findSome? (ControlMessage.hardware scmTimestampingNew)

theorem extractHwTimestamp_eq (messages : List ControlMessage) :
    extractHwTimestamp scmTimestampingNew messages
      = (hardwareTimestamp scmTimestampingNew messages).bind fun t =>
          if hardwareAccepted t then some t.nanos else none := by
  induction messages with
  | nil => rfl
  | cons control rest ih =>
    rw [extractHwTimestamp, hardwareTimestamp, List.findSome?_cons]
    cases control.hardware scmTimestampingNew with
    | none => exact ih
    | some t => rfl

theorem extractHwTimestamp_eq_some {messages : List ControlMessage} {ns : Int64} :
    extractHwTimestamp scmTimestampingNew messages = some ns
      ↔ ∃ t, hardwareTimestamp scmTimestampingNew messages = some t ∧ hardwareAccepted t
          ∧ ns = t.nanos := by
  rw [extractHwTimestamp_eq, Option.bind_eq_some_iff]
  refine exists_congr fun t => and_congr_right fun _ => ?_
  cases hardwareAccepted t <;> simp [eq_comm]

/-! ## Every pair can arrive -/

/-- A `struct timespec` as the kernel lays it out. -/
def timespecBytes (t : Timespec) : List UInt8 :=
  leBytes 8 t.sec.toUInt64.toNat ++ leBytes 8 t.nsec.toUInt64.toNat

/-- The message of `SO_TIMESTAMPING`: the software time, an unused one and the hardware time. -/
def timestampingMessage (software unused hardware : Timespec) : ControlMessage where
  level := solSocket
  type := scmTimestamping
  data := (timespecBytes software ++ timespecBytes unused) ++ timespecBytes hardware

theorem readInt64_leBytes (before after : List UInt8) (x : Int64) :
    readInt64 ((before ++ (leBytes 8 x.toUInt64.toNat ++ after)).getD · 0) before.length = x := by
  have hbytes := bytesAt_getD before (leBytes 8 x.toUInt64.toNat) after 0
  rw [length_leBytes] at hbytes
  have hfits : x.toUInt64.toNat < 256 ^ 8 := x.toUInt64.toNat_lt
  rw [readInt64, leNat_of_bytesAt hbytes, Nat.mod_eq_of_lt hfits, UInt64.ofNat_toNat,
    Int64.toInt64_toUInt64]

theorem hardware_timestampingMessage (software unused hardware : Timespec) :
    (timestampingMessage software unused hardware).hardware scmTimestampingNew = some hardware := by
  have hlong : ¬(timestampingMessage software unused hardware).data.length < scmTimestampingSize := by
    simp [timestampingMessage, timespecBytes, scmTimestampingSize, timespecSize]
  have hkind : (timestampingMessage software unused hardware).isTimestamp scmTimestampingNew
      = true := rfl
  set before := timespecBytes software ++ timespecBytes unused with hbefore
  have hlen : before.length = timespecSize * 2 := by simp [hbefore, timespecBytes, timespecSize]
  have hsec : readInt64 ((timestampingMessage software unused hardware).data.getD · 0)
      (timespecSize * 2) = hardware.sec := by
    rw [← hlen]
    exact readInt64_leBytes before (leBytes 8 hardware.nsec.toUInt64.toNat) hardware.sec
  have hnsec : readInt64 ((timestampingMessage software unused hardware).data.getD · 0)
      (timespecSize * 2 + 8) = hardware.nsec := by
    have hread := readInt64_leBytes (before ++ leBytes 8 hardware.sec.toUInt64.toNat) []
      hardware.nsec
    rw [List.append_nil, List.append_assoc, List.length_append, length_leBytes, hlen] at hread
    exact hread
  rw [ControlMessage.hardware, hkind, if_neg (by simpa using hlong), timestampAt, hsec, hnsec]

end

end AceXdp
