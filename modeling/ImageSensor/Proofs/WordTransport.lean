import ImageSensor.Proofs.Imprint
import Mathlib.Data.Nat.Digits.Lemmas

/-!
# Words on the bus

A word of one to four bytes is carried in one transaction, behind the address of
its register, its most significant byte first and each further byte one address
on.  It leaves the registers as its bytes do when they are written one by one,
and what is read is the number that the bytes in the registers stand for; so a
word that is read back is the word that was written, less the bytes that its
width cuts off.  Nothing is stored by a transaction that fails, and no other
width comes to a transaction.
-/

namespace ImageSensor

/-!
# Bytes of a word
-/

namespace Register

/-- The low bytes of a word by their place, the most significant first. -/
def bigEndian (width : Nat) (value : UInt32) : List UInt8 :=
  (List.range width).reverse.map fun place => UInt8.ofNat (value.toNat / 256 ^ place)

theorem toBytes_eq_bigEndian (width : Nat) (value : UInt32) :
    toBytes width value = bigEndian width value := by
  induction width generalizing value with
  | zero => rfl
  | succ width ih =>
      have hplace : forall place,
          value.toNat / 256 ^ (place + 1) = (value / 256).toNat / 256 ^ place := by
        intro place
        rw [UInt32.toNat_div, Nat.pow_succ', ← Nat.div_div_eq_div_mul]
        rfl
      have hlow : value.toUInt8 = UInt8.ofNat (value.toNat / 256 ^ 0) := by
        rw [pow_zero, Nat.div_one]
        rfl
      rw [toBytes, ih, bigEndian, bigEndian, List.range_succ_eq_map, List.reverse_cons,
        List.map_append, List.map_singleton, ← List.map_reverse, List.map_map, hlow]
      congr 1
      apply List.map_congr_left
      intro place _
      exact congrArg UInt8.ofNat (hplace place).symm

/-- The number that bytes stand for, the most significant first. -/
def numeral (bytes : List UInt8) : Nat :=
  Nat.ofDigits 256 (bytes.map UInt8.toNat).reverse

theorem numeral_lt (bytes : List UInt8) : numeral bytes < 256 ^ bytes.length := by
  have hdigits : forall digit, digit ∈ (bytes.map UInt8.toNat).reverse -> digit < 256 := by
    intro digit hdigit
    rcases List.mem_map.mp (List.mem_reverse.mp hdigit) with ⟨byte, -, rfl⟩
    exact byte.toNat_lt
  have hlt := Nat.ofDigits_lt_base_pow_length (by decide : 1 < 256) hdigits
  rw [List.length_reverse, List.length_map] at hlt
  exact hlt

theorem toNat_ofBytes {bytes : List UInt8} (h : bytes.length ≤ 4) :
    (ofBytes bytes).toNat = numeral bytes := by
  induction bytes using List.reverseRecOn with
  | nil => rfl
  | append_singleton bytes byte ih =>
      rw [List.length_append, List.length_singleton] at h
      have hsplit : numeral (bytes ++ [byte]) = byte.toNat + 256 * numeral bytes := by
        simp [numeral, Nat.ofDigits_cons]
      have hpower : 256 ^ bytes.length ≤ 256 ^ 3 := Nat.pow_le_pow_right (by decide) (by omega)
      have hlt := numeral_lt bytes
      have hbyte := byte.toNat_lt
      rw [ofBytes_append_singleton, UInt32.toNat_add, UInt32.toNat_mul, ih (by omega),
        UInt8.toNat_toUInt32, hsplit]
      simp only [UInt32.reduceToNat]
      omega

end Register

/-!
# Successive registers
-/

namespace RegisterFile

/-- So many successive addresses; the one after the last is the first. -/
def span (address : UInt16) : Nat -> List UInt16
  | 0 => []
  | count + 1 => address :: span (address + 1) count

theorem mem_span {a r : UInt16} {count : Nat} :
    r ∈ span a count <-> (r - a).toNat < count := by
  induction count generalizing a with
  | zero => simp [span]
  | succ count ih =>
      rw [span, List.mem_cons, ih]
      have hr := r.toNat_lt
      have ha := a.toNat_lt
      rw [← UInt16.toNat_inj, UInt16.toNat_sub, UInt16.toNat_sub, UInt16.toNat_add]
      simp only [UInt16.reduceToNat]
      omega

theorem length_span (a : UInt16) (count : Nat) : (span a count).length = count := by
  induction count generalizing a with
  | zero => rfl
  | succ count ih => rw [span, List.length_cons, ih]

theorem store_eq_load (f : RegisterFile) (a : UInt16) (bytes : List UInt8) :
    f.store a bytes = f.load ((span a bytes.length).zip bytes) := by
  induction bytes generalizing f a with
  | nil => rfl
  | cons byte rest ih => exact ih (f.set a byte) (a + 1)

/-- To store bytes changes the registers they are stored in only. -/
theorem eqOff_store (f : RegisterFile) (a : UInt16) (bytes : List UInt8) :
    EqOff (span a bytes.length) (f.store a bytes) f := by
  have hload := eqOff_load f ((span a bytes.length).zip bytes)
  rw [List.map_fst_zip (Nat.le_of_eq (length_span a bytes.length))] at hload
  rw [store_eq_load]
  exact hload

/-- What was stored is fetched, as long as the bytes do not come round to the first. -/
theorem fetch_store (f : RegisterFile) (a : UInt16) {bytes : List UInt8}
    (h : bytes.length ≤ 65536) : (f.store a bytes).fetch a bytes.length = bytes := by
  induction bytes generalizing f a with
  | nil => rfl
  | cons byte rest ih =>
      rw [List.length_cons] at h
      have hbehind : a ∉ span (a + 1) rest.length := by
        have ha := a.toNat_lt
        rw [mem_span, UInt16.toNat_sub, UInt16.toNat_add]
        simp only [UInt16.reduceToNat]
        omega
      have hfirst : ((f.set a byte).store (a + 1) rest).get a = byte := by
        rw [(eqOff_store (f.set a byte) (a + 1) rest).get hbehind, get_set_same]
      show ((f.set a byte).store (a + 1) rest).get a ::
        ((f.set a byte).store (a + 1) rest).fetch (a + 1) rest.length = byte :: rest
      rw [hfirst, ih (f.set a byte) (a + 1) (by omega)]

end RegisterFile

namespace Bus

variable {b c : Bus} {register : UInt16}

/-!
# One transaction for each byte
-/

/-- Writes bytes one by one to successive registers. -/
def writeBytes (register : UInt16) : List UInt8 -> Action Bus Unit
  | [] => pure ()
  | byte :: rest => do
      writeByte register byte
      writeBytes (register + 1) rest

/-- Reads bytes one by one from successive registers. -/
def readBytes (register : UInt16) : Nat -> Action Bus (List UInt8)
  | 0 => pure []
  | count + 1 => do
      let byte <- readByte register
      let rest <- readBytes (register + 1) count
      pure (byte :: rest)

/-- The next transactions succeed, if they are so many, on successive registers. -/
def Passes (b : Bus) (access : Access) (register : UInt16) (count : Nat) : Prop :=
  forall i, i < count ->
    b.faults.hit access (b.attempts + i) (register + UInt16.ofNat i) = false

theorem Passes.head {access : Access} {count : Nat}
    (h : b.Passes access register (count + 1)) : b.failsNext access register = false := by
  have hfirst := h 0 (Nat.succ_pos count)
  rw [Nat.add_zero, show UInt16.ofNat 0 = 0 from rfl, UInt16.add_zero] at hfirst
  exact hfirst

theorem Passes.tail {access : Access} {count : Nat}
    (h : b.Passes access register (count + 1)) (file : RegisterFile) :
    Passes { b with attempts := b.attempts + 1, file := file } access (register + 1)
      count := by
  intro i hi
  have hnext := h (i + 1) (Nat.succ_lt_succ hi)
  rw [Nat.add_comm i 1, ← Nat.add_assoc, UInt16.ofNat_add, ← UInt16.add_assoc] at hnext
  exact hnext

theorem run_writeBytes {bytes : List UInt8} (h : b.Passes .write register bytes.length) :
    exists es, (writeBytes register bytes).run b =
      ⟨.ok (), { b with
        attempts := b.attempts + bytes.length
        file := b.file.store register bytes }, es⟩ := by
  induction bytes generalizing b register with
  | nil => exact ⟨[], rfl⟩
  | cons byte rest ih =>
      have hwrite := run_writeByte h.head byte
      have hcount : b.attempts + (rest.length + 1) = b.attempts + 1 + rest.length := by omega
      rcases ih (h.tail (b.file.set register byte)) with ⟨es, hrest⟩
      refine ⟨.write b.device register [byte] true :: es, ?_⟩
      rw [writeBytes, Action.run_bind_ok hwrite, hrest, List.length_cons, hcount]
      rfl

theorem run_readBytes {count : Nat} (h : b.Passes .read register count) :
    exists es, (readBytes register count).run b =
      ⟨.ok (b.file.fetch register count), { b with attempts := b.attempts + count }, es⟩ := by
  induction count generalizing b register with
  | zero => exact ⟨[], rfl⟩
  | succ count ih =>
      have hread := run_readByte h.head
      have hcount : b.attempts + (count + 1) = b.attempts + 1 + count := by omega
      rcases ih (h.tail b.file) with ⟨es, hrest⟩
      refine ⟨.read b.device register [b.file.get register] :: es, ?_⟩
      rw [readBytes, Action.run_bind_ok hread, Action.run_bind_ok hrest, hcount]
      simp [Outcome.after, RegisterFile.fetch]

/-!
# Words
-/

/-- What a word leaves in the registers when it is written. -/
structure Leaves (register : UInt16) (width : Nat) (value : UInt32)
    (before after : RegisterFile) : Prop where
  elsewhere : after.EqOff (RegisterFile.span register width) before
  bytewise : forall c : Bus, c.file = before -> c.Passes .write register width ->
    exists es, (writeBytes register (Register.bigEndian width value)).run c =
      ⟨.ok (), { c with attempts := c.attempts + width, file := after }, es⟩
  readBack : forall c : Bus, c.file = after -> c.failsNext .read register = false ->
    exists back, ((read register width).run c).result = .ok back ∧
      back.toNat = value.toNat % 2 ^ (8 * width)

/-- A word of this width is carried between a bus and the registers behind it. -/
structure Carries (register : UInt16) (width : Nat) (value : UInt32) (b : Bus) : Prop where
  /-- The two bytes of the address are sent, and those of the word behind them. -/
  message : write register width value =
    transmit (Register.bigEndian 2 register.toUInt32 ++ Register.bigEndian width value)
  /-- The two bytes of the address are sent, and as many as asked for are received. -/
  question : read register width =
    (receive (Register.bigEndian 2 register.toUInt32) width >>= fun received =>
      pure (Register.ofBytes received.bytes))
  sent : b.failsNext .write register = false ->
    exists f, (write register width value).run b =
        ⟨.ok (), { b with attempts := b.attempts + 1, file := f },
          [.write b.device register (Register.bigEndian width value) true]⟩ ∧
      Leaves register width value b.file f
  /-- The number that is read is that of the bytes read one by one. -/
  received : b.failsNext .read register = false ->
    exists word bytes, (read register width).run b =
        ⟨.ok word, { b with attempts := b.attempts + 1 },
          [.read b.device register bytes]⟩ ∧
      word.toNat = Register.numeral bytes ∧
      forall c : Bus, c.file = b.file -> c.Passes .read register width ->
        exists es, (readBytes register width).run c =
          ⟨.ok bytes, { c with attempts := c.attempts + width }, es⟩
  notSent : b.failsNext .write register = true ->
    (write register width value).run b =
      ⟨.error (.reported (.transfer .write register)), { b with attempts := b.attempts + 1 },
        [.write b.device register (Register.bigEndian width value) false]⟩
  notReceived : b.failsNext .read register = true ->
    (read register width).run b =
      ⟨.error (.reported (.transfer .read register)), { b with attempts := b.attempts + 1 },
        [.readFailure b.device register width]⟩

section

variable {width : Nat}

theorem leaves_store (h : 1 ≤ width ∧ width ≤ 4) (register : UInt16) (value : UInt32)
    (f : RegisterFile) :
    Leaves register width value f (f.store register (Register.bigEndian width value)) := by
  have hbytes := Register.toBytes_eq_bigEndian width value
  have hlength : (Register.bigEndian width value).length = width := by
    rw [← hbytes, Register.length_toBytes]
  constructor
  case elsewhere =>
      have hoff := f.eqOff_store register (Register.bigEndian width value)
      rw [hlength] at hoff
      exact hoff
  case bytewise =>
      rintro c rfl hall
      rw [← hlength] at hall
      rcases run_writeBytes hall with ⟨es, hrun⟩
      rw [hlength] at hrun
      exact ⟨es, hrun⟩
  case readBack =>
      intro c hfile hpasses
      have hshort : (Register.bigEndian width value).length ≤ 65536 := by omega
      have hfetch := f.fetch_store register hshort
      rw [hlength] at hfetch
      refine ⟨Register.ofBytes (Register.bigEndian width value), ?_, ?_⟩
      · rw [run_read h hpasses, hfile, hfetch]
      · rw [← hbytes, Register.toNat_ofBytes_toBytes, Nat.one_shiftLeft]

theorem carries_of_width (h : 1 ≤ width ∧ width ≤ 4) (register : UInt16)
    (value : UInt32) (b : Bus) : Carries register width value b := by
  have haddress := Register.toBytes_eq_bigEndian 2 register.toUInt32
  have hbytes := Register.toBytes_eq_bigEndian width value
  constructor
  case message => rw [write_of_width h, Register.addressBytes, haddress, hbytes]
  case question => rw [read_of_width h, Register.addressBytes, haddress]
  case sent =>
      intro hpasses
      refine ⟨_, ?_, leaves_store h register value b.file⟩
      rw [write_of_width h, hbytes, run_transmit hpasses]
  case received =>
      intro hpasses
      refine ⟨_, _, run_read h hpasses, ?_, ?_⟩
      · apply Register.toNat_ofBytes
        rw [RegisterFile.length_fetch]
        exact h.2
      · intro c hfile hall
        rw [← hfile]
        exact run_readBytes hall
  case notSent =>
      intro hfails
      rw [write_of_width h, hbytes, run_transmit_of_failure hfails]
  case notReceived =>
      intro hfails
      exact run_read_of_failure h hfails

end

/--
Words of one to four bytes are carried, by one transaction that is attempted
once; any other width is refused before the bus is touched.
-/
theorem carries_or_refuses (register : UInt16) (width : Nat) (value : UInt32) (b : Bus) :
    (1 ≤ width ∧ width ≤ 4 -> Carries register width value b) ∧
    (width = 0 ∨ 4 < width ->
      (write register width value).run b = ⟨.error (.reported .invalidArgument), b, []⟩ ∧
      (read register width).run b = ⟨.error (.reported .invalidArgument), b, []⟩) := by
  constructor
  · intro hwidth
    exact carries_of_width hwidth register value b
  · intro hwidth
    constructor
    · rw [write, dif_pos hwidth, Action.run_report]
    · rw [read, dif_pos hwidth, Action.run_report]

/-- Three bytes over the last address come round to the first two. -/
theorem carries_over_last_address :
    exists f, (write 0xffff 3 0xaabbccdd).run (idle 0x36 .empty) =
        ⟨.ok (), { idle 0x36 .empty with attempts := 1, file := f },
          [.write 0x36 0xffff [0xbb, 0xcc, 0xdd] true]⟩ ∧
      f.get 0x0001 = 0xdd ∧
      (exists es, (writeBytes 0xffff [0xbb, 0xcc, 0xdd]).run (idle 0x36 .empty) =
        ⟨.ok (), { idle 0x36 .empty with attempts := 3, file := f }, es⟩) ∧
      (exists back, ((read 0xffff 3).run (idle 0x36 f)).result = .ok back ∧
        back.toNat = 0xbbccdd) ∧
      (write 0xffff 5 0xaabbccdd).run (idle 0x36 f) =
        ⟨.error (.reported .invalidArgument), idle 0x36 f, []⟩ := by
  have hcarries := (carries_or_refuses 0xffff 3 0xaabbccdd (idle 0x36 .empty)).1 (by decide)
  rcases hcarries.sent rfl with ⟨f, hrun, hleaves⟩
  have hpasses : (idle 0x36 .empty).Passes .write 0xffff 3 :=
    fun i _ => Faults.hit_none .write i _
  have hfile : ((write 0xffff 3 0xaabbccdd).run (idle 0x36 .empty)).state.file = f := by
    rw [hrun]
  refine ⟨f, hrun, ?_, hleaves.bytewise (idle 0x36 .empty) rfl hpasses,
    hleaves.readBack (idle 0x36 f) rfl rfl, ?_⟩
  · rw [← hfile]
    rfl
  · exact ((carries_or_refuses 0xffff 5 0xaabbccdd (idle 0x36 f)).2 (by decide)).1

end Bus
end ImageSensor
