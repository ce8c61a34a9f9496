import Chip8.Text.Hex

/-!
What can go wrong. A `Fault` is raised by the program that the machine runs: it ends one instruction
cycle and is reported to whoever runs the machine. A `Misuse` is an argument that an operation does not
accept; it never arises from a program alone. Each cause carries its data, and `message` renders it.
-/

namespace Chip8

/-- The closed set of faults, by name. -/
inductive FaultKind where
  | unsupportedOpcode
  | addressOutOfBounds
  | stackUnderflow
  | stackOverflow
  deriving DecidableEq, Repr

def FaultKind.name : FaultKind → String
  | unsupportedOpcode => "UNSUPPORTED_OPCODE"
  | addressOutOfBounds => "ADDRESS_OUT_OF_BOUNDS"
  | stackUnderflow => "STACK_UNDERFLOW"
  | stackOverflow => "STACK_OVERFLOW"

/-- An access that reached for something which is not there. -/
inductive Overreach where
  /-- An address, with a remark in place of the usual text. An empty remark counts as none. -/
  | place (address : Int) (remark : Option String)
  /-- One cell of a memory. -/
  | cell (offset : Int) (size : Nat)
  /-- A block of a memory, from its first cell to one past its last. -/
  | block (first past : Int) (size : Nat)
  /-- An address that no device answers to. -/
  | unmapped (address : Int)
  /-- Data that runs past the end of the range it starts in. -/
  | range (start : Int) (count : Nat) (last : Int)
  /-- A target of the program counter. -/
  | target (address : Int)
  /-- A target computed from the offset in V0. -/
  | offsetTarget (address : Int)
  /-- A point beside the display. -/
  | pixel (x y : Int)
  deriving DecidableEq, Repr

/-- The address a fault report names. -/
def Overreach.reached : Overreach → Int
  | place address _ => address
  | cell offset _ => offset
  | block first _ _ => first
  | unmapped address => address
  | range start count _ => start + count - 1
  | target address => address
  | offsetTarget address => address
  | pixel x y => x + y * 64

def Overreach.message : Overreach → String
  | place address remark =>
      match remark with
      | none | some "" => s!"Address {addressText address} out of bounds."
      | some remark => remark
  | cell offset size => s!"Address {addressText offset} out of bounds for RAM of size {size}."
  | block first past size =>
      s!"Block {addressText first}-{addressText past} out of bounds for RAM of size {size}."
  | unmapped address => s!"Address {addressText address} not mapped to any device."
  | range start count last =>
      s!"Data of {count} bytes at {addressText start} exceeds mapped range ending at {addressText last}."
  | target address => s!"Program counter target {addressText address} outside memory."
  | offsetTarget address => s!"Jump target {addressText address} (nnn + V0) outside memory."
  | pixel x y => s!"Pixel ({x}, {y}) outside 64x32 display."

/-- A fault of one instruction cycle. -/
inductive Fault where
  | unsupportedOpcode (opcode : Int)
  | outOfBounds (overreach : Overreach)
  | stackUnderflow
  | stackOverflow (limit : Int)
  deriving DecidableEq, Repr

def Fault.kind : Fault → FaultKind
  | unsupportedOpcode _ => .unsupportedOpcode
  | outOfBounds _ => .addressOutOfBounds
  | stackUnderflow => .stackUnderflow
  | stackOverflow _ => .stackOverflow

def Fault.message : Fault → String
  | unsupportedOpcode opcode => s!"Opcode not supported: 0x{upperHex 4 opcode}"
  | outOfBounds overreach => overreach.message
  | stackUnderflow => "Stack underflow: return with an empty call stack."
  | stackOverflow limit => s!"Stack overflow: call depth limit {limit} reached."

/-- What is told of a fault: the address of the faulting instruction and, where they are
known, its word and the address it reached for. -/
structure FaultReport where
  kind : FaultKind
  message : String
  pc : Int
  opcode : Option Int
  address : Option Int
  deriving DecidableEq, Repr

/-- The report of a fault. A word that no table knows is its own evidence; every other fault takes the
word that was fetched. -/
def Fault.report (fault : Fault) (pc : Int) (opcode : Option Int) : FaultReport where
  kind := fault.kind
  message := fault.message
  pc := pc
  opcode := match fault with
    | unsupportedOpcode own => some own
    | _ => opcode
  address := match fault with
    | outOfBounds overreach => some overreach.reached
    | _ => none

/-- An argument that an operation does not accept. -/
inductive Misuse where
  | wordOutOfRange (word : Int)
  | noSuchRegister (index : Int)
  | registerOutOfRange (value : Int)
  | indexOutOfRange (value : Int)
  | timerOutOfRange (value : Int)
  | byteOutOfRange (data : Int)
  | memorySizeNotPositive
  | addressRangeInvalid
  | notADevice
  | memorySpanMismatch (size : Nat) (span : Int)
  | stackLimitNotPositive
  | startOutsideMemory (address : Int)
  | loadOffsetOutsideMemory (offset : Int) (size : Int)
  | programTooLarge (length : Nat) (offset : Int) (capacity : Int)
  | frameSizeWrong (length : Nat)
  deriving DecidableEq, Repr

def Misuse.message : Misuse → String
  | wordOutOfRange word => s!"Instruction word {word} is not a 16-bit value."
  | noSuchRegister index => s!"Register index {index} out of range V0-VF."
  | registerOutOfRange value => s!"Register value {value} is not an 8-bit value."
  | indexOutOfRange value => s!"Index register value {value} is not a 16-bit value."
  | timerOutOfRange value => s!"Timer value {value} is not an 8-bit value."
  | byteOutOfRange data => s!"Data {data} is not an 8-bit value."
  | memorySizeNotPositive => "RAM size must be a positive integer."
  | addressRangeInvalid =>
      "Invalid address range: start_address must be <= end_address and non-negative."
  | notADevice => "Device must be an instance of a class derived from Device."
  | memorySpanMismatch size span =>
      s!"Registered RAM device size ({size} bytes) does not match the address range size ({span} bytes)."
  | stackLimitNotPositive => "stack_limit must be a positive integer."
  | startOutsideMemory address => s!"start_address {addressText address} outside memory."
  | loadOffsetOutsideMemory offset size =>
      s!"Load offset {addressText offset} outside memory of {size} bytes."
  | programTooLarge length offset capacity =>
      s!"Program of {length} bytes does not fit at {addressText offset} ({capacity} bytes available)."
  | frameSizeWrong length => s!"Framebuffer must be 2048 bytes, got {length}."

/-- Why an operation did not complete. -/
inductive Problem where
  | fault (cause : Fault)
  | misuse (cause : Misuse)
  deriving DecidableEq, Repr

def Problem.message : Problem → String
  | fault cause => cause.message
  | misuse cause => cause.message

/-- An operation on a state that may fail. What was done before the failure stays visible in the state,
so that it is a theorem, and not a convention, which operations fail without effect. -/
abbrev Action (σ α : Type) := EStateM Problem σ α

namespace Action

/-- Fails with a fault. -/
def fault {σ α : Type} (cause : Fault) : Action σ α := throw (.fault cause)

/-- Fails because of an argument. -/
def misuse {σ α : Type} (cause : Misuse) : Action σ α := throw (.misuse cause)

/-- Runs an action on one part of a larger state. -/
def within {σ τ α : Type} (part : τ → σ) (replace : σ → τ → τ) (action : Action σ α) : Action τ α :=
  fun whole =>
    match action (part whole) with
    | .ok value changed => .ok value (replace changed whole)
    | .error problem changed => .error problem (replace changed whole)

end Action

end Chip8
