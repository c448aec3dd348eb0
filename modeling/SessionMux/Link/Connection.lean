import SessionMux.Bytes
import SessionMux.Fault.Basic

/-!
A connection as a channel sees it: what has arrived and was not read yet, how writes fare, and what
was written. It stands for a byte stream, where the pieces have no meaning of their own, and for a
datagram transport, where each piece is a datagram.
-/

namespace SessionMux

inductive Arrival
  | piece (bytes : Bytes)
  | failure (fault : Fault)
  | eof
  deriving Repr, DecidableEq

structure Connection where
  /-- What has arrived and was not read yet, in order. -/
  arrivals : List Arrival
  /-- Whether writes have to wait. -/
  blocked : Bool
  /-- Whether a flush and a shutdown have to wait although every byte was taken. -/
  lingers : Bool
  /-- The most bytes that one write takes. -/
  writeLimit : Option Nat
  writeFault : Option Fault
  shutdownFault : Option Fault
  written : List Bytes
  shutdowns : Nat
  deriving Repr, DecidableEq

inductive ReadResult
  | waits
  | bytes (bytes : Bytes)
  | eof
  | failed (fault : Fault)
  deriving Repr, DecidableEq

inductive WriteResult
  | waits
  | took (count : Nat)
  | failed (fault : Fault)
  deriving Repr, DecidableEq

namespace Connection

def fresh : Connection where
  arrivals := []
  blocked := false
  lingers := false
  writeLimit := none
  writeFault := none
  shutdownFault := none
  written := []
  shutdowns := 0

def arrive (connection : Connection) (arrival : Arrival) : Connection :=
  { connection with arrivals := connection.arrivals ++ [arrival] }

/-- Reads at most `limit` bytes of a stream. A read never goes beyond one piece, and an empty piece
reads like the end of the stream. -/
def read (connection : Connection) (limit : Nat) : ReadResult × Connection :=
  match connection.arrivals with
  | [] => (.waits, connection)
  | .eof :: _ => (.eof, connection)
  | .failure fault :: arrivals => (.failed fault, { connection with arrivals })
  | .piece [] :: arrivals => (.eof, { connection with arrivals })
  | .piece bytes :: arrivals =>
    let rest := bytes.drop limit
    (.bytes (bytes.take limit),
      { connection with
        arrivals := if rest.isEmpty then arrivals else .piece rest :: arrivals })

/-- Receives a datagram. Datagrams have no end. -/
def receive (connection : Connection) : ReadResult × Connection :=
  match connection.arrivals.filter (· ≠ .eof) with
  | .piece bytes :: arrivals => (.bytes bytes, { connection with arrivals })
  | .failure fault :: arrivals => (.failed fault, { connection with arrivals })
  | _ => (.waits, connection)

def write (connection : Connection) (bytes : Bytes) : WriteResult × Connection :=
  match connection.writeFault with
  | some fault => (.failed fault, connection)
  | none =>
    if connection.blocked then (.waits, connection)
    else
      let count := min bytes.length (connection.writeLimit.getD bytes.length)
      (.took count, { connection with written := connection.written ++ [bytes.take count] })

/-- Sends a datagram, whole or not at all. -/
def send (connection : Connection) (datagram : Bytes) : WriteResult × Connection :=
  match connection.writeFault with
  | some fault => (.failed fault, connection)
  | none =>
    if connection.blocked then (.waits, connection)
    else
      (.took datagram.length, { connection with written := connection.written ++ [datagram] })

/-- Shuts down the writing half of a plain socket, which takes effect at once. -/
def shutdown (connection : Connection) : Option Fault × Connection :=
  (connection.shutdownFault, { connection with shutdowns := connection.shutdowns + 1 })

/-- Flushes a stream that has taken every byte, and shuts down its writing half; `none` while that
has to wait. -/
def close? (connection : Connection) : Option (Option Fault × Connection) :=
  if connection.lingers then none else some connection.shutdown

end Connection

end SessionMux
