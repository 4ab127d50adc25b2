import AceXdp.Abi
import AceXdp.Lib.ByteView
import AceXdp.Lib.Csv
import AceXdp.Lib.Decimal

/-!
# AceXdp — the files the capture programs leave behind

`export_ingress_records` and `export_cpumap_records` of the loader, `save_user_records` of the AF_XDP
receiver, and the raw records of the UDP receiver. A map is the list of its entries in the order
`bpf_map_get_next_key` visits them.
-/

namespace AceXdp

open ByteView Csv Decimal

/-- One `fprintf` of a row: the converted values, comma between. -/
def csvLine (fields : List (List Char)) : List Char := joinFields fields ++ ['\n']

/-! ## The loader -/

def ingressHeader : List Char :=
  "flow_id,sequence,rx_queue,hw_rx_ns,initial_xdp_ns,flags,".toList
    ++ "requested_path,timestamp_error\n".toList

def exportIngressRecords (entries : List (PacketKey × IngressRecord)) : List Char :=
  ingressHeader ++ entries.flatMap fun (current, record) =>
    csvLine [natText current.flowId.toNat, natText current.sequence.toNat,
      natText record.rxQueue.toNat, natText record.hwRxNs.toNat,
      natText record.initialXdpNs.toNat, natText record.flags.toNat,
      natText record.requestedPath.toNat, intText record.timestampError.toInt]

def cpumapHeader : List Char := "flow_id,sequence,cpu,cpumap_ns,flags,requested_path\n".toList

def exportCpumapRecords (entries : List (PacketKey × CpumapRecord)) : List Char :=
  cpumapHeader ++ entries.flatMap fun (current, record) =>
    csvLine [natText current.flowId.toNat, natText current.sequence.toNat,
      natText record.cpu.toNat, natText record.cpumapNs.toNat, natText record.flags.toNat,
      natText record.requestedPath.toNat]

/-! ## The AF_XDP receiver -/

def userHeader : List Char :=
  "flow_id,sequence,rx_queue,tx_realtime_ns,user_rx_mono_ns,".toList
    ++ "user_rx_real_ns,hw_rx_ns,".toList
    ++ "initial_xdp_ns,meta_flags,requested_path,timestamp_error,".toList
    ++ "packet_length,validation_flags\n".toList

def saveUserRecords (records : List XskUserRecord) : List Char :=
  userHeader ++ records.flatMap fun record =>
    csvLine [natText record.flowId.toNat, natText record.sequence.toNat,
      natText record.rxQueue.toNat, intText record.txRealtimeNs.toInt,
      natText record.userRxMonoNs.toNat, intText record.userRxRealNs.toInt,
      natText record.hwRxNs.toNat, natText record.initialXdpNs.toNat,
      natText record.metaFlags.toNat, natText record.requestedPath.toNat,
      intText record.timestampError.toInt, natText record.packetLength.toNat,
      natText record.validationFlags.toNat]

/-! ## The UDP receiver -/

/-- `struct sample_record` in the memory of a little-endian LP64 host. -/
def SampleRecord.bytes (r : SampleRecord) : List UInt8 :=
  leBytes 8 r.seq.toNat ++ (leBytes 8 r.txNs.toUInt64.toNat
    ++ (leBytes 8 r.userRxMonoNs.toUInt64.toNat ++ (leBytes 8 r.userRxRealNs.toUInt64.toNat
    ++ (leBytes 8 r.hwRxNs.toUInt64.toNat ++ (leBytes 4 r.flowId.toNat
    ++ (leBytes 4 r.len.toNat ++ (leBytes 2 r.flags.toNat ++ (leBytes 2 r.reserved16.toNat
    ++ leBytes 4 r.reserved32.toNat))))))))

/-- `save_records`: the records as they lie in memory. -/
def saveRecords (records : List SampleRecord) : List UInt8 := records.flatMap SampleRecord.bytes

theorem SampleRecord.length_bytes (r : SampleRecord) : r.bytes.length = 56 := by
  simp [SampleRecord.bytes]

end AceXdp
