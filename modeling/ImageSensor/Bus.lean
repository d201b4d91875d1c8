import ImageSensor.Action
import ImageSensor.Register.File
import ImageSensor.Register.Wire

/-!
# The two-wire bus

A transaction addresses a device and sends it bytes, of which the first two name
a register; the others are written there, or bytes are read from there.  It is
attempted once: a transaction that fails stores nothing, is reported and counts
like any other.  Which transactions fail is data, so that every pattern of
faults is a value of `Faults`.
-/

namespace ImageSensor

/-- Which transactions fail: by their number or by the register they address. -/
structure Faults where
  /-- All transactions from this number on. -/
  since : Option Nat
  /-- Single transactions. -/
  single : List Nat
  writes : List UInt16
  reads : List UInt16
deriving DecidableEq

namespace Faults

/-- No transaction fails. -/
def none : Faults :=
  ⟨.none, [], [], []⟩

/-- Whether the transaction of this number fails. -/
def hit (f : Faults) (access : Access) (number : Nat) (register : UInt16) : Bool :=
  (match f.since with
    | .none => false
    | .some first => decide (first ≤ number)) ||
  f.single.contains number ||
  (match access with
    | .read => f.reads.contains register
    | .write => f.writes.contains register)

/-- Adds faults whose numbers count from the transaction that comes next. -/
def extend (f : Faults) (next : Nat) (more : Faults) : Faults where
  since :=
    match more.since with
    | .none => f.since
    | .some k => .some (next + k)
  single := f.single ++ more.single.map fun k => next + k
  writes := f.writes ++ more.writes
  reads := f.reads ++ more.reads

@[simp]
theorem hit_none (access : Access) (number : Nat) (register : UInt16) :
    none.hit access number register = false := by
  cases access <;> simp [none, hit]

end Faults

/-- The bus as the sensor sees it, with the device address in use. -/
structure Bus where
  device : UInt8
  file : RegisterFile
  /-- How many transactions were attempted. -/
  attempts : Nat
  faults : Faults

namespace Bus

/-- A bus on which nothing has happened. -/
def idle (device : UInt8) (file : RegisterFile) : Bus :=
  ⟨device, file, 0, .none⟩

/-- The bus on which another device is spoken to. -/
def address (b : Bus) (device : UInt8) : Bus :=
  { b with device := device }

/-- Whether the next transaction fails. -/
def failsNext (b : Bus) (access : Access) (register : UInt16) : Bool :=
  b.faults.hit access b.attempts register

/-- The bus on which further faults are planned. -/
def plan (b : Bus) (more : Faults) : Bus :=
  { b with faults := b.faults.extend b.attempts more }

/-- The bus on which no fault is planned. -/
def heal (b : Bus) : Bus :=
  { b with faults := .none }

/-!
# Transactions
-/

/-- Sends a message, whose bytes behind the address go to successive registers. -/
def transmit (message : List UInt8) : Action Bus Unit :=
  ⟨fun b =>
    let register := Register.addressed message
    let bytes := message.drop 2
    let fails := b.failsNext .write register
    { result :=
        if fails then .error (.reported (.transfer .write register)) else .ok ()
      state :=
        { b with
          attempts := b.attempts + 1
          file := if fails then b.file else b.file.store register bytes }
      events := [.write b.device register bytes (!fails)] }⟩

/-- Sends an address, and receives so many bytes from successive registers. -/
def receive (address : List UInt8) (width : Nat) : Action Bus (Buffer width) :=
  ⟨fun b =>
    let register := Register.addressed address
    let fails := b.failsNext .read register
    let bytes := b.file.fetch register width
    { result :=
        if fails then .error (.reported (.transfer .read register))
        else .ok ⟨bytes, b.file.length_fetch register width⟩
      state := { b with attempts := b.attempts + 1 }
      events :=
        [ if fails then .readFailure b.device register width
          else .read b.device register bytes ] }⟩

/-!
# Register access

A register value has one to four bytes.  Any other width is refused before
the bus is touched.
-/

/-- Writes the low bytes of a word. -/
def write (register : UInt16) (width : Nat) (value : UInt32) : Action Bus Unit :=
  if h : width = 0 ∨ 4 < width then
    Action.report .invalidArgument
  else
    transmit (Register.message register width value (by omega))

/-- Reads a word of the given width. -/
def read (register : UInt16) (width : Nat) : Action Bus UInt32 :=
  if h : width = 0 ∨ 4 < width then
    Action.report .invalidArgument
  else do
    let received <- receive (Register.addressBytes register) width
    pure (Register.assemble received (by omega))

/-- Writes one byte. -/
def writeByte (register : UInt16) (value : UInt8) : Action Bus Unit :=
  write register 1 value.toUInt32

/-- Reads one byte. -/
def readByte (register : UInt16) : Action Bus UInt8 := do
  let value <- read register 1
  pure value.toUInt8

/-- Reads a value of two bytes. -/
def readPair (register : UInt16) : Action Bus UInt16 := do
  let value <- read register 2
  pure value.toUInt16

/-!
# Running a transaction
-/

section

variable {b : Bus} {register : UInt16}

theorem run_transmit (h : b.failsNext .write register = false) (bytes : List UInt8) :
    (transmit (Register.addressBytes register ++ bytes)).run b =
      ⟨.ok (), { b with
        attempts := b.attempts + 1
        file := b.file.store register bytes }, [.write b.device register bytes true]⟩ := by
  simp [transmit, h]

/-- A write that fails is attempted once, and stores nothing. -/
theorem run_transmit_of_failure (h : b.failsNext .write register = true)
    (bytes : List UInt8) :
    (transmit (Register.addressBytes register ++ bytes)).run b =
      ⟨.error (.reported (.transfer .write register)), { b with attempts := b.attempts + 1 },
        [.write b.device register bytes false]⟩ := by
  simp [transmit, h]

theorem run_receive (h : b.failsNext .read register = false) (width : Nat) :
    (receive (Register.addressBytes register) width).run b =
      ⟨.ok ⟨b.file.fetch register width, b.file.length_fetch register width⟩,
        { b with attempts := b.attempts + 1 },
        [.read b.device register (b.file.fetch register width)]⟩ := by
  simp [receive, h]

theorem run_receive_of_failure (h : b.failsNext .read register = true) (width : Nat) :
    (receive (Register.addressBytes register) width).run b =
      ⟨.error (.reported (.transfer .read register)), { b with attempts := b.attempts + 1 },
        [.readFailure b.device register width]⟩ := by
  simp [receive, h]

section

variable {width : Nat}

/-- A word of one to four bytes is sent behind the address, in one message. -/
theorem write_of_width (h : 1 ≤ width ∧ width ≤ 4) (register : UInt16) (value : UInt32) :
    write register width value =
      transmit (Register.addressBytes register ++ Register.toBytes width value) := by
  rw [write, dif_neg (by omega), Register.message_eq]

theorem read_of_width (h : 1 ≤ width ∧ width ≤ 4) (register : UInt16) :
    read register width =
      (receive (Register.addressBytes register) width >>= fun received =>
        pure (Register.ofBytes received.bytes)) := by
  rw [read, dif_neg (by omega)]
  simp only [Register.assemble_eq]

theorem run_read (h : 1 ≤ width ∧ width ≤ 4) (hpasses : b.failsNext .read register = false) :
    (read register width).run b =
      ⟨.ok (Register.ofBytes (b.file.fetch register width)),
        { b with attempts := b.attempts + 1 },
        [.read b.device register (b.file.fetch register width)]⟩ := by
  rw [read_of_width h, Action.run_bind_ok (run_receive hpasses width)]
  rfl

theorem run_read_of_failure (h : 1 ≤ width ∧ width ≤ 4)
    (hfails : b.failsNext .read register = true) :
    (read register width).run b =
      ⟨.error (.reported (.transfer .read register)), { b with attempts := b.attempts + 1 },
        [.readFailure b.device register width]⟩ := by
  rw [read_of_width h, Action.run_bind_error (run_receive_of_failure hfails width)]

end

theorem writeByte_eq (register : UInt16) (value : UInt8) :
    writeByte register value = transmit (Register.addressBytes register ++ [value]) := by
  rw [writeByte, write_of_width (by decide)]
  simp [Register.toBytes]

theorem run_writeByte (h : b.failsNext .write register = false) (value : UInt8) :
    (writeByte register value).run b =
      ⟨.ok (), { b with
        attempts := b.attempts + 1
        file := b.file.set register value }, [.write b.device register [value] true]⟩ := by
  rw [writeByte_eq, run_transmit h]
  rfl

theorem run_writeByte_of_failure (h : b.failsNext .write register = true) (value : UInt8) :
    (writeByte register value).run b =
      ⟨.error (.reported (.transfer .write register)), { b with attempts := b.attempts + 1 },
        [.write b.device register [value] false]⟩ := by
  rw [writeByte_eq, run_transmit_of_failure h]

theorem run_readByte (h : b.failsNext .read register = false) :
    (readByte register).run b =
      ⟨.ok (b.file.get register), { b with attempts := b.attempts + 1 },
        [.read b.device register [b.file.get register]]⟩ := by
  rw [readByte, Action.run_bind_ok (run_read (by decide) h)]
  simp [Outcome.after, RegisterFile.fetch, Register.ofBytes]

theorem run_readByte_of_failure (h : b.failsNext .read register = true) :
    (readByte register).run b =
      ⟨.error (.reported (.transfer .read register)), { b with attempts := b.attempts + 1 },
        [.readFailure b.device register 1]⟩ := by
  rw [readByte, Action.run_bind_error (run_read_of_failure (by decide) h)]

theorem run_readPair (h : b.failsNext .read register = false) :
    (readPair register).run b =
      ⟨.ok (Register.ofBytes (b.file.fetch register 2)).toUInt16,
        { b with attempts := b.attempts + 1 },
        [.read b.device register (b.file.fetch register 2)]⟩ := by
  rw [readPair, Action.run_bind_ok (run_read (by decide) h)]
  simp [Outcome.after]

theorem run_readPair_of_failure (h : b.failsNext .read register = true) :
    (readPair register).run b =
      ⟨.error (.reported (.transfer .read register)), { b with attempts := b.attempts + 1 },
        [.readFailure b.device register 2]⟩ := by
  rw [readPair, Action.run_bind_error (run_read_of_failure (by decide) h)]

end

end Bus
end ImageSensor
