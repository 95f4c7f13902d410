import BusBridge.Command.Request
/-!
# Payloads are read back

What is written is what is read, for every packed value whatever follows it (`ReadsBack`), and for every
payload as a whole (`Decodes`). A packed record is read back because its fields are, so each
instance only says which fields there are; the work is in the three kinds of field, numbers, one-byte
codes and text.
-/

namespace BusBridge

/-! ## Numbers -/

namespace ByteOrder

/-- How many numbers there are of so many bytes. -/
def span : Nat → Nat
  | 0 => 1
  | width + 1 => 256 * span width

theorem littleValue_littleBytes (width n : Nat) : littleValue (littleBytes width n) = n % span width := by
  induction width generalizing n with
  | zero => simp only [littleBytes, littleValue, span, Nat.mod_one]
  | succ width ih =>
    have hbyte : (UInt8.ofNat (n % 256)).toNat = n % 256 := by
      rw [UInt8.toNat_ofNat']
      omega
    rw [littleBytes, littleValue, ih, hbyte, span, Nat.mod_mul]

theorem value_bytes (order : ByteOrder) {width n : Nat} (h : n < span width) :
    order.value (order.bytes width n) = n := by
  have hlittle : littleValue (littleBytes width n) = n := (littleValue_littleBytes width n).trans (Nat.mod_eq_of_lt h)
  cases order with
  | big => rw [value, bytes, List.reverse_reverse, hlittle]
  | little => rw [value, bytes, hlittle]

/-- A number that fits its width is read back. -/
theorem read_bytes (order : ByteOrder) {width n : Nat} (h : n < span width) (rest : Bytes) :
    order.read width (order.bytes width n ++ rest) = some (n, rest) := by
  have hlength := length_bytes order width n
  have htake : (order.bytes width n ++ rest).take width = order.bytes width n := List.take_left' hlength
  have hdrop : (order.bytes width n ++ rest).drop width = rest := List.drop_left' hlength
  rw [read, if_pos (by rw [List.length_append, hlength]; omega), htake, hdrop, value_bytes order h]

end ByteOrder

/-! ## Packed values -/

/-- What is written is read back, whatever follows it, and always has the same size. -/
class ReadsBack (α : Type) [Packed α] : Prop where
  read_bytes : ∀ (order : ByteOrder) (a : α) (rest : Bytes),
    Packed.read order (Packed.bytes order a ++ rest) = some (a, rest)
  length_bytes : ∀ (order : ByteOrder) (a : α), (Packed.bytes order a).length = Packed.size α

namespace ReadsBack

instance : ReadsBack UInt8 where
  read_bytes _ _ _ := rfl
  length_bytes _ _ := rfl

instance : ReadsBack UInt16 where
  read_bytes order w rest := by
    simp only [Packed.read, Packed.bytes]
    rw [ByteOrder.read_bytes order w.toNat_lt]
    simp only [Option.map_some, UInt16.ofNat_toNat]
  length_bytes order w := ByteOrder.length_bytes order 2 w.toNat

instance : ReadsBack UInt32 where
  read_bytes order w rest := by
    simp only [Packed.read, Packed.bytes]
    rw [ByteOrder.read_bytes order w.toNat_lt]
    simp only [Option.map_some, UInt32.ofNat_toNat]
  length_bytes order w := ByteOrder.length_bytes order 4 w.toNat

instance : ReadsBack Status where
  read_bytes _ s _ := by cases s <;> rfl
  length_bytes _ _ := rfl

instance : ReadsBack ClockSpeed where
  read_bytes _ s _ := by cases s <;> rfl
  length_bytes _ _ := rfl

instance : ReadsBack BitOrder where
  read_bytes _ o _ := by cases o <;> rfl
  length_bytes _ _ := rfl

instance : ReadsBack Info.Version where
  read_bytes _ _ _ := rfl
  length_bytes _ _ := rfl

instance : ReadsBack Spi.Channels where
  read_bytes _ _ _ := rfl
  length_bytes _ _ := rfl

instance : ReadsBack Info.Delay where
  read_bytes order d rest := by
    show (Packed.read order (Packed.bytes order d.milliseconds ++ rest)).map _ = _
    rw [ReadsBack.read_bytes]
    rfl
  length_bytes order d := ReadsBack.length_bytes order d.milliseconds

instance : ReadsBack I2c.Written where
  read_bytes order w rest := by
    show (Packed.read order (Packed.bytes order w.address ++ rest)).map _ = _
    rw [ReadsBack.read_bytes]
    rfl
  length_bytes order w := ReadsBack.length_bytes order w.address

instance : ReadsBack Spi.Read where
  read_bytes order r rest := by
    show (Packed.read order (Packed.bytes order r.count ++ rest)).map _ = _
    rw [ReadsBack.read_bytes]
    rfl
  length_bytes order r := ReadsBack.length_bytes order r.count

instance : ReadsBack I2c.Read where
  read_bytes order r rest := by
    show (Packed.read order (Packed.bytes order r.address ++ [r.count] ++ rest)).bind _ = _
    rw [List.append_assoc, ReadsBack.read_bytes]
    rfl
  length_bytes order r := by
    show (Packed.bytes order r.address ++ [r.count]).length = 3
    rw [List.length_append, ReadsBack.length_bytes]
    rfl

instance : ReadsBack I2c.Config where
  read_bytes order c rest := by
    show (Packed.read order (Packed.bytes order c.clock ++ [c.sdaPullup, c.sclPullup] ++ rest)).bind _ = _
    rw [List.append_assoc, ReadsBack.read_bytes]
    rfl
  length_bytes _ _ := rfl

instance : ReadsBack Spi.Config where
  read_bytes order c rest := by
    show (do
      let (bitOrder, rest) ← Packed.read order
        (Packed.bytes order c.bitOrder ++ c.cpol :: c.cpha :: Packed.bytes order c.baudRate ++ rest)
      let (cpol, rest) ← Packed.read order rest
      let (cpha, rest) ← Packed.read order rest
      let (baudRate, rest) ← Packed.read order rest
      return ((⟨c.dataBits, bitOrder, cpol, cpha, baudRate⟩ : Spi.Config), rest)) = some (c, rest)
    rw [List.append_assoc, ReadsBack.read_bytes]
    show (do
      let (baudRate, rest) ← Packed.read order (Packed.bytes order c.baudRate ++ rest)
      return ((⟨c.dataBits, c.bitOrder, c.cpol, c.cpha, baudRate⟩ : Spi.Config), rest)) = some (c, rest)
    rw [ReadsBack.read_bytes]
    rfl
  length_bytes order c := by
    show (c.dataBits :: Packed.bytes order c.bitOrder ++ c.cpol :: c.cpha :: Packed.bytes order c.baudRate).length = 8
    simp only [List.cons_append, List.length_cons, List.length_append, ReadsBack.length_bytes]
    rfl

end ReadsBack

theorem Scan.unpack_wire {α : Type} [Packed α] [ReadsBack α] (a : α) (rest : Bytes) :
    (Scan.mk (wire a ++ rest)).unpack = .ok (a, ⟨rest⟩) := by
  rw [Scan.unpack, wire, ReadsBack.read_bytes]

theorem length_wire {α : Type} [Packed α] [ReadsBack α] (a : α) : (wire a).length = Packed.size α :=
  ReadsBack.length_bytes .big a

/-! ## Text -/

/-- The bytes of an array, from one of them on. -/
theorem toList_loop (bytes : ByteArray) (i : Nat) (acc : Bytes) :
    ByteArray.toList.loop bytes i acc = acc.reverse ++ bytes.data.toList.drop i := by
  fun_induction ByteArray.toList.loop bytes i acc with
  | case1 i acc hlt ih =>
    have hget : bytes.data.toList.drop i = bytes.get! i :: bytes.data.toList.drop (i + 1) := by
      rw [List.drop_eq_getElem_cons (show i < bytes.data.toList.length from hlt)]
      exact congrArg (· :: _) (getElem!_pos bytes.data i hlt).symm
    rw [ih, hget, List.reverse_cons, List.append_assoc]
    rfl
  | case2 i acc hge =>
    have hnone : bytes.data.toList.drop i = [] := List.drop_eq_nil_of_le (Nat.le_of_not_lt hge)
    rw [hnone, List.append_nil]

theorem toByteArray_toList (bytes : ByteArray) : bytes.toList.toByteArray = bytes := by
  have hlist : bytes.toList = bytes.data.toList := toList_loop bytes 0 []
  rw [hlist]
  exact ByteArray.ext (by rw [List.data_toByteArray, Array.toArray_toList])

/-! ## Payloads -/

/-- What is written is read back as a whole. -/
class Decodes (α : Type) [Payload α] : Prop where
  decode_layout : ∀ a : α, Payload.decode (Payload.layout a) = .ok a

namespace Decodes

theorem of_packed {α : Type} [Packed α] [ReadsBack α] (a : α) :
    (Payload.ofPacked α).decode (@Payload.layout α (Payload.ofPacked α) a) = .ok a := by
  show (Scan.mk (wire a ++ [])).unpack.map Prod.fst = _
  rw [Scan.unpack_wire]
  rfl

instance : Decodes Unit := ⟨fun _ => rfl⟩
instance : Decodes Raw := ⟨fun r => by simp [Payload.layout, Payload.pieces, Payload.decode]⟩
instance : Decodes Info.Components := ⟨fun c => by simp [Payload.layout, Payload.pieces, Payload.decode]⟩
instance : Decodes Info.Version := ⟨of_packed⟩
instance : Decodes Info.Delay := ⟨of_packed⟩
instance : Decodes I2c.Config := ⟨of_packed⟩
instance : Decodes I2c.Written := ⟨of_packed⟩
instance : Decodes I2c.Read := ⟨of_packed⟩
instance : Decodes Spi.Channels := ⟨of_packed⟩
instance : Decodes Spi.Config := ⟨of_packed⟩
instance : Decodes Spi.Read := ⟨of_packed⟩

instance : Decodes I2c.Data where
  decode_layout d := by
    show ((Scan.mk (wire d.address ++ (d.data ++ []))).unpack : Except DecodeError (UInt16 × Scan)).bind _ = _
    rw [Scan.unpack_wire, List.append_nil]
    rfl

instance : Decodes Info.Hardware where
  decode_layout h := by
    simp only [Payload.layout, Payload.pieces, Payload.decode, List.flatten_cons, List.flatten_nil, List.append_nil,
      toByteArray_toList]
    have hvalid : h.description.toUTF8.IsValidUTF8 := h.description.isValidUTF8
    rw [String.fromUTF8?, dif_pos hvalid]
    rfl

end Decodes

end BusBridge
