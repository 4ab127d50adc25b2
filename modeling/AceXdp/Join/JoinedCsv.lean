import AceXdp.Lib.Csv
import AceXdp.Join.Table

/-!
# AceXdp — the joined CSV

The columns of the analyser's result and the writer that prints a row of them: `csv.DictWriter` with
its default dialect.
-/

namespace AceXdp

open Csv Decimal

/-- `JOINED_FIELDS`. -/
def joinedFields : List Text :=
  ["flow_id", "sequence", "ingress_present", "cpumap_present",
    "afxdp_present", "udp_present", "user_source", "requested_path",
    "ingress_rx_queue", "cpumap_cpu", "afxdp_rx_queue", "packet_length",
    "tx_realtime_ns", "user_rx_mono_ns", "user_rx_real_ns",
    "ingress_hw_rx_ns", "afxdp_hw_rx_ns", "udp_hw_rx_ns",
    "ingress_initial_xdp_ns", "afxdp_initial_xdp_ns", "initial_xdp_ns",
    "initial_xdp_source", "cpumap_ns", "calibration_offset_at_xdp_ns",
    "calibration_xdp_position", "calibration_xdp_out_of_range",
    "calibration_xdp_distance_ns", "calibration_offset_at_user_ns",
    "calibration_user_position", "calibration_user_out_of_range",
    "calibration_user_distance_ns", "xdp_hw_ns", "cpumap_xdp_ns",
    "user_cpumap_ns", "user_xdp_ns", "user_hw_ns", "ingress_flags",
    "ingress_requested_path", "ingress_timestamp_error", "cpumap_flags",
    "cpumap_requested_path", "afxdp_meta_flags", "afxdp_requested_path",
    "afxdp_validation_flags", "afxdp_timestamp_error", "udp_flags",
    "afxdp_tx_realtime_ns", "afxdp_user_rx_mono_ns",
    "afxdp_user_rx_real_ns", "afxdp_packet_length", "udp_tx_realtime_ns",
    "udp_user_rx_mono_ns", "udp_user_rx_real_ns", "udp_packet_length",
    "hw_rx_mono_ns", "hw_rx_source", "hw_calibration_reference",
    "hw_calibration_reference_ns", "hw_calibration_offset_ns",
    "d1_ns", "d2_ns", "d3_ns", "segment_sum_ns", "segment_residual_ns",
    "segment_status", "inconsistency_flags"].map String.toList

/-- `int | str | None`. -/
inductive Cell where
  | int (n : Int)
  | text (t : Text)
  | none
  deriving DecidableEq, Repr

/-- A row as the analyser builds it. -/
abbrev RowDict := List (Text × Cell)

def Cell.str : Cell → Text
  | .int n => intText n
  | .text t => t
  | .none => []

/-- What `QUOTE_MINIMAL` puts between quotes. -/
def needsQuotes (field : Text) : Bool :=
  field.any fun c => c = ',' || c = '"' || c = '\n' || c = '\r'

def quoteField (field : Text) : Text :=
  if needsQuotes field then
    '"' :: (field.flatMap (fun c => if c = '"' then ['"', '"'] else [c]) ++ ['"'])
  else field

def writeRow (fields : List Text) : Text := joinFields (fields.map quoteField) ++ ['\r', '\n']

/-- `DictWriter.writerow` with `extrasaction="raise"`: a key that is no column is refused, a column
that is no key stays empty. -/
def dictRow (fieldnames : List Text) (row : RowDict) : Option Text :=
  if row.any fun cell => cell.1 ∉ fieldnames then none
  else some (writeRow (fieldnames.map fun name => ((row.lookup name).getD (.text [])).str))

end AceXdp
