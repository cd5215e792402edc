import PcmLink.Error
import PcmLink.IpAddress

/-!
# Network interfaces

An interface has a name, a number, perhaps a hardware address, networks and flags. Interfaces are
found by name. The text of an interface has its flags, in hexadecimal and the known ones by name,
and then one line for each further part.
-/

namespace PcmLink

/-- A property of interfaces that a flag says. -/
inductive InterfaceFlag where
  /-- The interface is in use. -/
  | up
  /-- It can reach every endpoint at once. -/
  | broadcast
  /-- It leads back to its own machine. -/
  | loopback
  /-- It can reach groups of endpoints. -/
  | multicast
  /-- It is connected. -/
  | running
  deriving DecidableEq, Repr

namespace InterfaceFlag

/-- All flags, in the order in which they are shown. -/
def all : List InterfaceFlag := [.up, .broadcast, .loopback, .multicast, .running]

/-- The bit of a flag. -/
def bit : InterfaceFlag → UInt32
  | .up => 0x1
  | .broadcast => 0x2
  | .loopback => 0x8
  | .multicast => 0x1000
  | .running => 0x40

/-- The name of a flag. -/
def name : InterfaceFlag → String
  | .up => "UP"
  | .broadcast => "BROADCAST"
  | .loopback => "LOOPBACK"
  | .multicast => "MULTICAST"
  | .running => "RUNNING"

end InterfaceFlag

/-- A network interface. -/
structure Interface where
  /-- The name. -/
  name : String
  /-- The number. -/
  index : UInt32
  /-- The hardware address, if it has one. -/
  address : Option Address := none
  /-- The networks it belongs to. -/
  networks : List IpNetwork := []
  /-- The flags. -/
  flags : UInt32 := 0
  deriving DecidableEq

namespace Interface

/-- A flag is set. -/
def has (interface : Interface) (flag : InterfaceFlag) : Bool := interface.flags &&& flag.bit != 0

/-- The text of a network on a line of its own. -/
def networkLine (network : IpNetwork) : String :=
  let label := if network.address.isV4 then " inet" else "inet6"
  s!"\n      {label}: {network.text}"

/-- The text of an interface. -/
def text (interface : Interface) : String :=
  let flags := String.ofList ((Nat.toDigits 16 interface.flags.toNat).map Char.toUpper)
  let names := ",".intercalate ((InterfaceFlag.all.filter interface.has).map InterfaceFlag.name)
  let address := (interface.address.map Address.text).getD "N/A"
  s!"{interface.name}: flags={flags}<{names}>\n      index: {interface.index.toNat}\n" ++
    s!"      ether: {address}" ++ String.join (interface.networks.map networkLine)

/-- Find an interface by name. -/
def find (interfaces : List Interface) (name : String) : Except Error Interface :=
  match interfaces.find? (·.name == name) with
  | some interface => .ok interface
  | none => .error (.interfaceNotFound name)

/-- An interface of a link in memory. -/
def ofMemory (number : UInt8) : Interface where
  name := s!"eth{number.toNat}"
  index := number.toUInt32
  address := some (.ofOctets 1 2 3 4 5 number)

/-- The interfaces of links in memory. -/
def memory : List Interface := [ofMemory 0, ofMemory 1, ofMemory 2]

end Interface

end PcmLink
