import ImageSensor.Register.Bytes

/-!
# Words on the wire

A message starts with the two bytes of a register address, the high one first.
What is written is laid out from the front of a buffer that has room for the
address and four bytes; what is read is put at the back of a buffer of four, so
that the bytes in front of it count as zero.
-/

namespace ImageSensor

/-- A row of bytes whose length is fixed. -/
structure Buffer (size : Nat) where
  bytes : List UInt8
  length_bytes : bytes.length = size

namespace Buffer

variable {size : Nat}

/-- The buffer of zeros. -/
def zero (size : Nat) : Buffer size :=
  ⟨List.replicate size 0, List.length_replicate⟩

/-- As many bytes as a smaller buffer has end where a larger one ends. -/
theorem sub_add_length_bytes (b : Buffer size) {more : Nat} (h : size ≤ more) :
    more - size + b.bytes.length = more := by
  rw [b.length_bytes, Nat.sub_add_cancel h]

/-- The buffer with bytes copied over its own from some place on. -/
def copyAt (b : Buffer size) (start : Nat) (source : List UInt8)
    (h : start + source.length ≤ size) : Buffer size where
  bytes := b.bytes.take start ++ source ++ b.bytes.drop (start + source.length)
  length_bytes := by
    simp only [List.length_append, List.length_take, List.length_drop, b.length_bytes]
    omega

/-- Up to the end of a copy there is what stood before it, and then the copy. -/
theorem take_bytes_copyAt (b : Buffer size) {start : Nat} {source : List UInt8}
    (h : start + source.length ≤ size) :
    (b.copyAt start source h).bytes.take (start + source.length) =
      b.bytes.take start ++ source := by
  have hlength : (b.bytes.take start ++ source).length = start + source.length := by
    simp only [List.length_append, List.length_take, b.length_bytes]
    omega
  exact List.take_left' hlength

/-- A copy that ends where the buffer ends. -/
theorem bytes_copyAt_back (b : Buffer size) {start : Nat} {source : List UInt8}
    (h : start + source.length = size) :
    (b.copyAt start source (Nat.le_of_eq h)).bytes = b.bytes.take start ++ source := by
  have hlength := Nat.le_of_eq h.symm
  calc (b.copyAt start source (Nat.le_of_eq h)).bytes
      = (b.copyAt start source (Nat.le_of_eq h)).bytes.take (start + source.length) :=
        (List.take_of_length_le (by rwa [length_bytes])).symm
    _ = b.bytes.take start ++ source := b.take_bytes_copyAt (Nat.le_of_eq h)

end Buffer

namespace Register

/-!
# Addresses
-/

/-- The two bytes of an address. -/
def addressBytes (register : UInt16) : List UInt8 :=
  toBytes 2 register.toUInt32

/-- The register that the first two bytes of a message name. -/
def addressed (message : List UInt8) : UInt16 :=
  (ofBytes (message.take 2)).toUInt16

@[simp]
theorem length_addressBytes (register : UInt16) : (addressBytes register).length = 2 :=
  length_toBytes 2 _

@[simp]
theorem addressed_append (register : UInt16) (rest : List UInt8) :
    addressed (addressBytes register ++ rest) = register := by
  have hregister := register.toNat_lt
  have hhead : (addressBytes register ++ rest).take 2 = addressBytes register :=
    List.take_left' (length_addressBytes register)
  rw [addressed, hhead, ← UInt16.toNat_inj]
  simp only [addressBytes, toBytes, ofBytes, List.nil_append, List.cons_append,
    List.foldl_cons, List.foldl_nil, UInt32.toNat_toUInt16, UInt32.toNat_add,
    UInt32.toNat_mul, UInt8.toNat_toUInt32, UInt32.toNat_toUInt8, UInt32.toNat_div,
    UInt16.toNat_toUInt32, UInt32.reduceToNat]
  omega

@[simp]
theorem addressed_addressBytes (register : UInt16) :
    addressed (addressBytes register) = register :=
  addressed_append register []

/-!
# Words
-/

/-- What is sent to write the low bytes of a word to a register. -/
def message (register : UInt16) (width : Nat) (value : UInt32) (h : width ≤ 4) :
    List UInt8 :=
  let start := (Buffer.zero 6).copyAt 0 (addressBytes register) (by simp)
  let filled := start.copyAt 2 ((toBytes 4 value).drop (4 - width)) (by
    rw [List.length_drop, length_toBytes, Nat.sub_sub_self h]
    exact Nat.add_le_add_left h 2)
  filled.bytes.take (2 + width)

/-- The word that received bytes stand for. -/
def assemble {width : Nat} (received : Buffer width) (h : width ≤ 4) : UInt32 :=
  let filled := (Buffer.zero 4).copyAt (4 - width) received.bytes
    (Nat.le_of_eq (received.sub_add_length_bytes h))
  ofBytes filled.bytes

/-- The bytes of a narrower width are the last ones of a wider. -/
theorem drop_toBytes (more width : Nat) (value : UInt32) :
    (toBytes (more + width) value).drop more = toBytes width value := by
  induction width generalizing value with
  | zero => exact List.drop_of_length_le (Nat.le_of_eq (length_toBytes more value))
  | succ width ih =>
      have hle : more ≤ (toBytes (more + width) (value / 256)).length := by
        rw [length_toBytes]
        exact Nat.le_add_right more width
      rw [← Nat.add_assoc, toBytes, List.drop_append_of_le_length hle, ih, toBytes]

theorem ofBytes_replicate_append (count : Nat) (bytes : List UInt8) :
    ofBytes (List.replicate count 0 ++ bytes) = ofBytes bytes := by
  induction count with
  | zero => rfl
  | succ count ih => exact ih

theorem message_eq {width : Nat} (h : width ≤ 4) (register : UInt16) (value : UInt32) :
    message register width value h = addressBytes register ++ toBytes width value := by
  have htail : (toBytes 4 value).drop (4 - width) = toBytes width value := by
    have hsplit := drop_toBytes (4 - width) width value
    rwa [Nat.sub_add_cancel h] at hsplit
  have hroom : 0 + (addressBytes register).length ≤ 6 := by simp
  have hroom' : 2 + (toBytes width value).length ≤ 6 := by
    rw [length_toBytes]
    omega
  let start := (Buffer.zero 6).copyAt 0 (addressBytes register) hroom
  have hstart : start.bytes.take 2 = addressBytes register :=
    (Buffer.zero 6).take_bytes_copyAt hroom
  have hfilled := start.take_bytes_copyAt hroom'
  rw [hstart, length_toBytes] at hfilled
  simp only [message, htail]
  exact hfilled

theorem assemble_eq {width : Nat} (h : width ≤ 4) (received : Buffer width) :
    assemble received h = ofBytes received.bytes := by
  rw [assemble, Buffer.bytes_copyAt_back _ (received.sub_add_length_bytes h), Buffer.zero,
    List.take_replicate, ofBytes_replicate_append]

end Register
end ImageSensor
