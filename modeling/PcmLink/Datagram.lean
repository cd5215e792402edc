import PcmLink.IoError

/-!
# Datagram sockets

Two connected sockets of the local family pass datagrams to each other, whole and in order. A
receive first waits until there is one and then takes as much of it as its buffer holds; the rest
is lost. Sending to an end that was closed fails and disconnects: what was still to be received is
lost, and the next send finds no connection. No call works on an end of one's own that was closed.
-/

namespace PcmLink

/-- One of two connected ends. -/
inductive DatagramEnd where
  /-- The first end. -/
  | first
  /-- The second end. -/
  | second
  deriving DecidableEq, Repr

/-- The end it is connected to. -/
def DatagramEnd.other : DatagramEnd → DatagramEnd
  | .first => .second
  | .second => .first

/-- A socket of a pair. -/
structure DatagramSocket where
  /-- The datagrams to be received, in order. -/
  incoming : List (List UInt8) := []
  /-- It was not closed. -/
  isOpen : Bool := true
  /-- It is connected. -/
  connected : Bool := true
  deriving DecidableEq, Repr

/-- Two connected sockets. -/
structure DatagramPair where
  /-- The first end. -/
  first : DatagramSocket := {}
  /-- The second end. -/
  second : DatagramSocket := {}
  deriving DecidableEq, Repr

namespace DatagramPair

/-- The socket of an end. -/
def socket (pair : DatagramPair) : DatagramEnd → DatagramSocket
  | .first => pair.first
  | .second => pair.second

/-- The pair with another socket at an end. -/
def withSocket (pair : DatagramPair) (side : DatagramEnd) (socket : DatagramSocket) :
    DatagramPair :=
  match side with
  | .first => { pair with first := socket }
  | .second => { pair with second := socket }

/-- The longest datagram. -/
def longest : Nat := 212960

/-- Send a datagram from an end; the result is the number of bytes sent. -/
def send (pair : DatagramPair) (side : DatagramEnd) (bytes : List UInt8) :
    Except IoError Nat × DatagramPair :=
  let own := pair.socket side
  let peer := pair.socket side.other
  if !own.isOpen then (.error (.os Errno.badDescriptor), pair)
  else if !own.connected then (.error (.os Errno.notConnected), pair)
  else if longest < bytes.length then (.error (.os Errno.messageTooLong), pair)
  else if !peer.isOpen then
    (.error (.os Errno.refused),
      pair.withSocket side { own with incoming := [], connected := false })
  else
    (.ok bytes.length,
      pair.withSocket side.other { peer with incoming := peer.incoming ++ [bytes] })

/-- Wait until a datagram can be received. -/
def waitReceive (pair : DatagramPair) (side : DatagramEnd) : Except IoError Unit :=
  let own := pair.socket side
  if !own.isOpen then .error (.os Errno.badDescriptor)
  else if own.incoming.isEmpty then .error .timedOut
  else .ok ()

/-- Wait until a datagram can be sent. -/
def waitSend (pair : DatagramPair) (side : DatagramEnd) : Except IoError Unit :=
  if (pair.socket side).isOpen then .ok () else .error (.os Errno.badDescriptor)

/-- Wait for a datagram and receive it into a buffer. -/
def receive (pair : DatagramPair) (side : DatagramEnd) (size : Nat) :
    Except IoError (List UInt8) × DatagramPair :=
  let own := pair.socket side
  match pair.waitReceive side, own.incoming with
  | .error failure, _ => (.error failure, pair)
  | .ok (), [] => (.error .timedOut, pair)
  | .ok (), bytes :: rest =>
    (.ok (bytes.take size), pair.withSocket side { own with incoming := rest })

/-- Close an end. -/
def close (pair : DatagramPair) (side : DatagramEnd) : DatagramPair :=
  pair.withSocket side { pair.socket side with isOpen := false, incoming := [] }

/-- The socket options that take a number. -/
def numericOptions : List Nat := [1, 2, 5, 6, 7, 8, 9, 10, 11, 12]

/-- Set a socket option of an end. -/
def setOption (pair : DatagramPair) (side : DatagramEnd) (name : Nat) : Except IoError Unit :=
  if !(pair.socket side).isOpen then .error (.os Errno.badDescriptor)
  else if numericOptions.contains name then .ok ()
  else .error (.os Errno.noOption)

/-- The number of the local address family. -/
def localFamily : Nat := 1

/-- Bind an end to an address of a family. -/
def bindTo (pair : DatagramPair) (side : DatagramEnd) (family : Nat) : Except IoError Unit :=
  if !(pair.socket side).isOpen then .error (.os Errno.badDescriptor)
  else if family = localFamily then .ok ()
  else .error (.os Errno.invalidArgument)

/-- Make a socket of a family, a type and a protocol. -/
def create (family type protocol : Nat) : Except IoError Unit :=
  if 11 ≤ type then .error (.os Errno.invalidArgument)
  else if family ≠ localFamily then .error (.os Errno.familyNotSupported)
  else if protocol ≠ 0 ∧ protocol ≠ localFamily then .error (.os Errno.protocolNotSupported)
  else if type = 1 ∨ type = 2 ∨ type = 3 ∨ type = 5 then .ok ()
  else .error (.os Errno.typeNotSupported)

/-- What any call on a descriptor that is not open comes to. -/
def notOpen : IoError := .os Errno.badDescriptor

end DatagramPair

end PcmLink
