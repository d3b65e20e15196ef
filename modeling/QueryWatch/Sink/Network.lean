import QueryWatch.Sink.Exchange
import QueryWatch.Url

namespace QueryWatch.Sink

/-- How a peer takes one attempt to send it a message. -/
structure Reaction where
  connect : Option Fault := none
  write : Option Fault := none
  reads : List Read := []
  ending : Ending := .silent

/-- Which hosts have an address, and what becomes of each transfer. The transfers of a sink are numbered
from zero. -/
structure Network where
  resolves : String → Bool
  /-- Why a datagram cannot be sent, if it cannot. -/
  datagram : Nat → Option Fault
  batch : Nat → Option Fault
  /-- How the monitoring peer takes an attempt. -/
  reaction : Nat → Reaction
  broker : Bool

/-- An address of up to four numbers, without a point behind the last. A mark of base sixteen is no number by
itself. -/
def isNumeric (host : List Char) : Bool :=
  Url.isIpv4 host && (host.splitOn '.').all fun p =>
    !(["", "0x"].contains (String.ofList p).toLower)

/-- A host that needs no lookup: the machine itself, or an address in numbers. -/
def isLiteral (host : String) : Bool :=
  host.toLower = "localhost" || isNumeric host.toList || Url.isIpv6 host.toList

/-- A network on which addresses are known and nothing can be reached. -/
def Network.isolated : Network where
  resolves := isLiteral
  datagram _ := some .transfer
  batch _ := some .request
  reaction _ := { connect := some .transfer }
  broker := false

end QueryWatch.Sink
