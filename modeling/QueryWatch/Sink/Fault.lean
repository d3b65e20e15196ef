import QueryWatch.Text.Digits

namespace QueryWatch.Sink

/-- What the system itself says about a transfer that failed is not kept, only where it failed. -/
inductive Fault
  /-- A connection or a datagram failed. -/
  | transfer
  | timeout
  | unresolved (host : String)
  | oversized (length : Nat)
  | refused (reason : Option String)
  | status (line body : String)
  | request
  | bus
  /-- Messages still waited when the time for flushing them was over. -/
  | unflushed
  | undecodable
  deriving DecidableEq

def rejection (reason : String) : String :=
  "Sink rejected write: " ++ reason

def Fault.message : Fault → String
  | .transfer => "I/O error"
  | .timeout => "Timed out waiting for acknowledgment"
  | .unresolved host => rejection (host ++ " not resolved yet")
  | .oversized length =>
    rejection ("ack frame of " ++ String.ofList (Text.Digits.decimal length) ++ " bytes")
  | .refused reason => rejection (reason.getD "negative ack")
  | .status line body => rejection (line ++ ": " ++ body)
  | .request => "HTTP error"
  | .bus => "Kafka error"
  | .unflushed => "Flush error: OperationTimedOut (Local: Timed out)"
  | .undecodable => "Decode error"

end QueryWatch.Sink
