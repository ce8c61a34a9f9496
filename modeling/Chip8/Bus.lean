import Chip8.Fault

/-!
The bus. Address ranges are mapped to devices; a read or a write is passed to the first mapping that
covers the address and is noted in the activity log. `peek` reads without a note, and `load` copies a
whole block, again without a note, and only if all of it lies in one range.
-/

namespace Chip8

/-- What can be attached to the bus. Offsets count from the start of the device. -/
inductive Device where
  /-- A memory of bytes, one per cell. -/
  | memory (cells : Array UInt8)
  /-- A device that keeps every write and answers a read with the offset plus the number of writes. -/
  | tally (writes : List (Int × Int))
  deriving DecidableEq, Repr

namespace Device

/-- A memory of the given size, all zero. -/
def blankMemory (size : Nat) : Device := memory (Array.replicate size 0)

def read (offset : Int) : Device → Except Problem Int
  | memory cells =>
      if 0 ≤ offset ∧ offset < cells.size then
        .ok (cells.getD offset.toNat 0).toNat
      else
        .error (.fault (.outOfBounds (.cell offset cells.size)))
  | tally writes => .ok (writes.length + offset)

/-- A memory checks the offset before the data. -/
def write (offset data : Int) : Device → Except Problem Device
  | memory cells =>
      if 0 ≤ offset ∧ offset < cells.size then
        if 0 ≤ data ∧ data ≤ 0xFF then
          .ok (memory (cells.setIfInBounds offset.toNat (UInt8.ofNat data.toNat)))
        else
          .error (.misuse (.byteOutOfRange data))
      else
        .error (.fault (.outOfBounds (.cell offset cells.size)))
  | tally writes => .ok (tally (writes ++ [(offset, data)]))

/-- Cells from `start` on take the bytes of a block. -/
def fill (cells : Array UInt8) (start : Nat) : List UInt8 → Array UInt8
  | [] => cells
  | byte :: rest => fill (cells.setIfInBounds start byte) (start + 1) rest

/-- Writes a block from `offset` on. A memory takes all of it or none; a tally takes it byte by byte. -/
def writeBlock (offset : Int) (block : List UInt8) : Device → Except Problem Device
  | memory cells =>
      if offset < 0 ∨ (cells.size : Int) < offset + block.length then
        .error (.fault (.outOfBounds (.block offset (offset + block.length) cells.size)))
      else
        .ok (memory (fill cells offset.toNat block))
  | tally writes =>
      .ok (tally (writes ++ block.mapIdx fun place byte => (offset + place, (byte.toNat : Int))))

/-- The size of a memory; a tally has none. -/
def size? : Device → Option Nat
  | memory cells => some cells.size
  | tally _ => none

end Device

/-- A range of addresses, both ends included, that one device answers to. -/
structure Mapping where
  first : Int
  last : Int
  device : Nat
  deriving DecidableEq, Repr

def Mapping.covers (mapping : Mapping) (address : Int) : Bool :=
  decide (mapping.first ≤ address) && decide (address ≤ mapping.last)

inductive AccessKind where
  | read
  | write
  deriving DecidableEq, Repr

def AccessKind.name : AccessKind → String
  | read => "READ"
  | write => "WRITE"

/-- One noted access. -/
structure Access where
  kind : AccessKind
  address : Int
  data : Int
  deriving DecidableEq, Repr

/-- Devices are known by their position in `devices`, mapped or not. Earlier mappings come first. -/
structure Bus where
  devices : Array Device := #[]
  mappings : List Mapping := []
  activity : List Access := []
  deriving DecidableEq, Repr

namespace Bus

/-- The mapping that answers to an address, with its device. -/
def locate? (bus : Bus) (address : Int) : Option (Mapping × Device) := do
  let mapping ← bus.mappings.find? (·.covers address)
  let device ← bus.devices[mapping.device]?
  return (mapping, device)

/-- One past the highest mapped address. -/
def size (bus : Bus) : Int :=
  bus.mappings.foldl (fun size mapping => max size (mapping.last + 1)) 0

/-- Adds a device without mapping it, and gives its number. -/
def attach (device : Device) : Action Bus Nat :=
  modifyGet fun bus => (bus.devices.size, { bus with devices := bus.devices.push device })

/-- Adds a blank memory. -/
def attachMemory (size : Int) : Action Bus Nat :=
  if size ≤ 0 then Action.misuse .memorySizeNotPositive
  else attach (.blankMemory size.toNat)

/-- Maps a range to a device. A memory has to be as large as its range; ranges may overlap, and then
the earlier one answers. -/
def register (first last : Int) (number : Nat) : Action Bus Unit := do
  if 0 ≤ first ∧ first ≤ last then
    match (← get).devices[number]? with
    | none => Action.misuse .notADevice
    | some device =>
        match device.size? with
        | some size =>
            if (size : Int) = last - first + 1 then map else
              Action.misuse (.memorySpanMismatch size (last - first + 1))
        | none => map
  else
    Action.misuse .addressRangeInvalid
where
  map : Action Bus Unit :=
    modify fun bus => { bus with mappings := bus.mappings ++ [Mapping.mk first last number] }

/-- Adds an entry to the log. -/
def note (access : Access) : Action Bus Unit :=
  modify fun bus => { bus with activity := bus.activity ++ [access] }

/-- Puts a device in the place of another. -/
def replace (number : Nat) (device : Device) : Action Bus Unit :=
  modify fun bus => { bus with devices := bus.devices.setIfInBounds number device }

/-- The mapping and the device of an address, or a fault. -/
def resolve (address : Int) : Action Bus (Mapping × Device) := do
  match (← get).locate? address with
  | some found => return found
  | none => Action.fault (.outOfBounds (.unmapped address))

/-- Reads without a note in the log. -/
def peek (address : Int) : Action Bus Int := do
  let (mapping, device) ← resolve address
  ofExcept (device.read (address - mapping.first))

def read (address : Int) : Action Bus Int := do
  let data ← peek address
  note (Access.mk .read address data)
  return data

/-- Reads consecutive addresses, and stops at the first that fails. -/
def readBlock (address : Int) : Nat → Action Bus (List Int)
  | 0 => pure []
  | count + 1 => do
      let data ← read address
      return data :: (← readBlock (address + 1) count)

def write (address data : Int) : Action Bus Unit := do
  let (mapping, device) ← resolve address
  replace mapping.device (← ofExcept (device.write (address - mapping.first) data))
  note (Access.mk .write address data)

/-- Copies a block without notes. All of it has to lie in the range that its start lies in. -/
def load (address : Int) (block : List UInt8) : Action Bus Unit :=
  if block.isEmpty then pure ()
  else do
    let (mapping, device) ← resolve address
    if address + block.length - 1 ≤ mapping.last then
      replace mapping.device (← ofExcept (device.writeBlock (address - mapping.first) block))
    else
      Action.fault (.outOfBounds (.range address block.length mapping.last))

/-- The accesses since the last drain, oldest first. -/
def drain : Action Bus (List Access) :=
  modifyGet fun bus => (bus.activity, { bus with activity := [] })

/-- Reads a device directly, past the mappings. -/
def readDevice (number : Nat) (offset : Int) : Action Bus Int := do
  match (← get).devices[number]? with
  | some device => ofExcept (device.read offset)
  | none => Action.misuse .notADevice

/-- Writes a device directly, past the mappings. -/
def writeDevice (number : Nat) (offset data : Int) : Action Bus Unit := do
  match (← get).devices[number]? with
  | some device => replace number (← ofExcept (device.write offset data))
  | none => Action.misuse .notADevice

/-- Writes a block to a device directly, past the mappings. -/
def writeDeviceBlock (number : Nat) (offset : Int) (block : List UInt8) : Action Bus Unit := do
  match (← get).devices[number]? with
  | some device => replace number (← ofExcept (device.writeBlock offset block))
  | none => Action.misuse .notADevice

end Bus

end Chip8
