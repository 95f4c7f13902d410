import BusBridge.Proofs.Codecs
import BusBridge.Proofs.Drafts
/-!
# The table of payloads

Every command has a row for its arguments and a row for its answer (`Command.argumentRow`,
`Command.answerRow`). A row is the document's side of a payload: the bytes of a value written out one by
one, the size of the part that must be there, and what may follow it. Numbers stand most significant
byte first, as in `halfBytes` and `wordBytes`; text stands as the UTF-8 encoding of its characters.

`Row.Describes` is what a row says of a codec. A value is written exactly where its bytes fit, and
nothing else of the block changes; the bytes of a value are read back; reading fails for short data and
for text that is none, and for no other data; and whatever was read is written again as it stood, except
for the codes that no one owns. `payload_table` says that all rows describe their codecs, and that the
requests are the commands with their arguments.
-/

namespace BusBridge

/-! ## Rows -/

/-- A number of two bytes, most significant first. -/
def halfBytes (w : UInt16) : Bytes :=
  [(w >>> 8).toUInt8, w.toUInt8]

/-- A number of four bytes, most significant first. -/
def wordBytes (w : UInt32) : Bytes :=
  [(w >>> 24).toUInt8, (w >>> 16).toUInt8, (w >>> 8).toUInt8, w.toUInt8]

/-- The bytes are the UTF-8 encoding of some characters. -/
def IsText (data : Bytes) : Prop :=
  ∃ text : List Char, data = text.flatMap String.utf8EncodeChar

/-- What follows the fixed part of a payload. -/
inductive Tail where
  /-- bytes after the fixed part are no part of the payload -/
  | nothing
  | bytes
  | text
deriving DecidableEq

/-- A row of the table, for the payloads of one type. -/
structure Row (α : Type) where
  /-- size of the part that is always there -/
  fixed : Nat
  tail : Tail
  /-- the bytes of a value -/
  bytes : α → Bytes
  /-- the bytes as they are written again after they were read -/
  settled : Bytes → Bytes := id

namespace Row

variable {α : Type}

/-- The part of the data that a value is read from. -/
def extent (row : Row α) (data : Bytes) : Bytes :=
  match row.tail with
  | .nothing => data.take row.fixed
  | .bytes | .text => data

/-- The data is no payload of this row, for the given reason. -/
inductive Refuses (row : Row α) (data : Bytes) : DecodeError → Prop where
  | short : data.length < row.fixed → Refuses row data (.truncated row.fixed data.length)
  | garbled : row.fixed ≤ data.length → row.tail = .text → ¬ IsText (data.drop row.fixed) → Refuses row data .notText

/-- The row says what the codec does, on every value, every block and all data. -/
structure Describes (row : Row α) [Payload α] : Prop where
  encode_fits : ∀ (a : α) (block : Bytes), (row.bytes a).length ≤ block.length →
    Payload.encode a block = (.ok (row.bytes a).length, row.bytes a ++ block.drop (row.bytes a).length)
  encode_full : ∀ (a : α) (block : Bytes), block.length < (row.bytes a).length →
    (Payload.encode a block).1 = .error {} ∧ (Payload.encode a block).2.length = block.length
  decode_bytes : ∀ a : α, Payload.decode (row.bytes a) = .ok a
  decode_error_iff : ∀ (data : Bytes) (e : DecodeError), (Payload.decode data : Except DecodeError α) = .error e ↔
    row.Refuses data e
  bytes_decoded : ∀ (data : Bytes) (a : α), Payload.decode data = .ok a →
    row.bytes a = row.settled (row.extent data)

end Row

namespace Command

/-- What a request of a command carries. -/
@[reducible] def Arguments : Command → Type
  | protocolVersion | hardwareInfo | firmwareVersion | supportedComponents | spiChannels => Unit
  | delay => Info.Delay
  | i2cConfig => I2c.Config
  | i2cWrite => I2c.Data
  | i2cRead => I2c.Read
  | spiConfig => Spi.Config
  | spiRead => Spi.Read
  | spiWrite | spiTransfer | other _ _ => Raw

instance (c : Command) : Payload c.Arguments :=
  match c with
  | protocolVersion | hardwareInfo | firmwareVersion | supportedComponents | spiChannels =>
    inferInstanceAs (Payload Unit)
  | delay => inferInstanceAs (Payload Info.Delay)
  | i2cConfig => inferInstanceAs (Payload I2c.Config)
  | i2cWrite => inferInstanceAs (Payload I2c.Data)
  | i2cRead => inferInstanceAs (Payload I2c.Read)
  | spiConfig => inferInstanceAs (Payload Spi.Config)
  | spiRead => inferInstanceAs (Payload Spi.Read)
  | spiWrite | spiTransfer | other _ _ => inferInstanceAs (Payload Raw)

end Command

/-- The arguments of a request. -/
def Request.arguments : (r : Request) → r.command.Arguments
  | protocolVersion | hardwareInfo | firmwareVersion | supportedComponents | spiChannels => ()
  | delay a => a
  | i2cConfig a => a
  | i2cWrite a => a
  | i2cRead a => a
  | spiConfig a => a
  | spiRead a => a
  | spiWrite a | spiTransfer a | other _ _ a => a

namespace Row

def empty : Row Unit := ⟨0, .nothing, fun _ => [], id⟩

def raw : Row Raw := ⟨0, .bytes, fun r => r.data, id⟩

def addressed : Row I2c.Data := ⟨2, .bytes, fun d => halfBytes d.address ++ d.data, id⟩

end Row

namespace Command

def argumentRow : (c : Command) → Row c.Arguments
  | protocolVersion | hardwareInfo | firmwareVersion | supportedComponents | spiChannels => .empty
  | delay => ⟨4, .nothing, fun d => wordBytes d.milliseconds, id⟩
  | i2cConfig =>
    { fixed := 3
      tail := .nothing
      bytes := fun c =>
        [match c.clock with | .khz100 => 1 | .khz400 => 2 | .unsupported => 0, c.sdaPullup, c.sclPullup]
      settled := fun bs => bs.modify 0 fun b => if b = 1 ∨ b = 2 then b else 0 }
  | i2cWrite => .addressed
  | i2cRead => ⟨3, .nothing, fun r => halfBytes r.address ++ [r.count], id⟩
  | spiConfig =>
    { fixed := 8
      tail := .nothing
      bytes := fun c =>
        [c.dataBits, match c.bitOrder with | .msbFirst => 0 | .lsbFirst => 1 | .invalid => 0xff, c.cpol, c.cpha] ++
          wordBytes c.baudRate
      settled := fun bs => bs.modify 1 fun b => if b = 0 ∨ b = 1 then b else 0xff }
  | spiRead => ⟨2, .nothing, fun r => halfBytes r.count, id⟩
  | spiWrite | spiTransfer | other _ _ => .raw

def answerRow : (c : Command) → Row c.Answer
  | protocolVersion | firmwareVersion => ⟨1, .nothing, fun v => [v.version], id⟩
  | hardwareInfo => ⟨0, .text, fun h => h.description.toList.flatMap String.utf8EncodeChar, id⟩
  | supportedComponents => ⟨0, .bytes, fun c => c.ids, id⟩
  | i2cWrite => ⟨2, .nothing, fun w => halfBytes w.address, id⟩
  | i2cRead => .addressed
  | spiChannels => ⟨1, .nothing, fun c => [c.count], id⟩
  | spiRead | spiTransfer => .raw
  | delay | i2cConfig | spiConfig | spiWrite | other _ _ => .empty

end Command

/-! ## Writing -/

theorem Payload.encode_fits {α : Type} [Payload α] {a : α} {block : Bytes}
    (h : (Payload.layout a).length ≤ block.length) :
    Payload.encode a block =
      (.ok (Payload.layout a).length, Payload.layout a ++ block.drop (Payload.layout a).length) := by
  obtain ⟨d, hencode, hlength, hblock⟩ := Draft.encode_start h
  simp only [Payload.encode, hencode, Except.map, hlength, hblock]
  rfl

theorem Payload.encode_full {α : Type} [Payload α] {a : α} {block : Bytes}
    (h : block.length < (Payload.layout a).length) :
    (Payload.encode a block).1 = .error {} ∧ (Payload.encode a block).2.length = block.length := by
  have hspace : (Draft.start block).space < (Payload.pieces a).flatten.length := h
  obtain ⟨d, hall, -⟩ := Draft.putAll_full hspace
  simp only [Payload.encode, Draft.encode, hall, Except.map, Draft.fill, Bytes.length_overlay, true_and]
  rfl

/-! ## Reading numbers -/

namespace ByteOrder

theorem littleBytes_littleValue (bs : Bytes) : littleBytes bs.length (littleValue bs) = bs := by
  induction bs with
  | nil => rfl
  | cons b rest ih =>
    have hlow : (b.toNat + 256 * littleValue rest) % 256 = b.toNat := by
      have := b.toNat_lt
      omega
    have hhigh : (b.toNat + 256 * littleValue rest) / 256 = littleValue rest := by
      have := b.toNat_lt
      omega
    rw [List.length_cons, littleBytes, littleValue, hlow, hhigh, ih, UInt8.ofNat_toNat]

theorem littleValue_lt (bs : Bytes) : littleValue bs < span bs.length := by
  induction bs with
  | nil => exact Nat.one_pos
  | cons b rest ih =>
    have hbyte := b.toNat_lt
    rw [List.length_cons, littleValue, span]
    omega

/-- Bytes are those of the number that they are read as. -/
theorem bytes_value (bs : Bytes) : big.bytes bs.length (big.value bs) = bs := by
  have h := littleBytes_littleValue bs.reverse
  rw [List.length_reverse] at h
  rw [bytes, value, h, List.reverse_reverse]

theorem value_lt (bs : Bytes) : big.value bs < span bs.length := by
  simpa only [value, List.length_reverse] using littleValue_lt bs.reverse

end ByteOrder

theorem wire_half (w : UInt16) : wire w = halfBytes w := by
  have hhigh : UInt8.ofNat (w.toNat / 256 % 256) = (w >>> 8).toUInt8 := by
    apply UInt8.toNat_inj.mp
    simp [Nat.shiftRight_eq_div_pow]
  have hlow : UInt8.ofNat (w.toNat % 256) = w.toUInt8 := by
    apply UInt8.toNat_inj.mp
    simp
  show [UInt8.ofNat (w.toNat / 256 % 256), UInt8.ofNat (w.toNat % 256)] = _
  rw [hhigh, hlow, halfBytes]

theorem wire_word (w : UInt32) : wire w = wordBytes w := by
  have hbyte (k : Nat) (n : UInt32) (hk : n.toNat = w.toNat / k) : UInt8.ofNat (w.toNat / k % 256) = n.toUInt8 := by
    apply UInt8.toNat_inj.mp
    simp [hk]
  have h₃ := hbyte 16777216 (w >>> 24) (by simp [Nat.shiftRight_eq_div_pow])
  have h₂ := hbyte 65536 (w >>> 16) (by simp [Nat.shiftRight_eq_div_pow])
  have h₁ := hbyte 256 (w >>> 8) (by simp [Nat.shiftRight_eq_div_pow])
  have h₀ := hbyte 1 w (by simp)
  show [UInt8.ofNat (w.toNat / 256 / 256 / 256 % 256), UInt8.ofNat (w.toNat / 256 / 256 % 256),
    UInt8.ofNat (w.toNat / 256 % 256), UInt8.ofNat (w.toNat % 256)] = _
  simp only [Nat.div_div_eq_div_mul, wordBytes, ← h₃, ← h₂, ← h₁, ← h₀, Nat.div_one, Nat.reduceMul]

theorem halfBytes_value (a b : UInt8) : halfBytes (.ofNat (ByteOrder.big.value [a, b])) = [a, b] := by
  have hlt : ByteOrder.big.value [a, b] < 65536 := ByteOrder.value_lt [a, b]
  rw [← wire_half]
  show ByteOrder.big.bytes 2 (UInt16.ofNat _).toNat = _
  rw [UInt16.toNat_ofNat_of_lt' hlt]
  exact ByteOrder.bytes_value [a, b]

theorem wordBytes_value (a b c d : UInt8) : wordBytes (.ofNat (ByteOrder.big.value [a, b, c, d])) = [a, b, c, d] := by
  have hlt : ByteOrder.big.value [a, b, c, d] < 4294967296 := ByteOrder.value_lt [a, b, c, d]
  rw [← wire_word]
  show ByteOrder.big.bytes 4 (UInt32.ofNat _).toNat = _
  rw [UInt32.toNat_ofNat_of_lt' hlt]
  exact ByteOrder.bytes_value [a, b, c, d]

/-! ## What a row has to say -/

namespace Row

variable {α : Type} {row : Row α}

theorem Refuses.unique {data : Bytes} {e e' : DecodeError} (h : row.Refuses data e) (h' : row.Refuses data e') :
    e = e' := by
  cases h with
  | short hlt =>
    cases h' with
    | short _ => rfl
    | garbled hge _ _ => exact absurd hlt (Nat.not_lt_of_le hge)
  | garbled hge _ _ =>
    cases h' with
    | short hlt => exact absurd hlt (Nat.not_lt_of_le hge)
    | garbled _ _ _ => rfl

/-- What becomes of the data is what the row says. -/
inductive Judges (row : Row α) (data : Bytes) : Except DecodeError α → Prop where
  | refused {e : DecodeError} : row.Refuses data e → Judges row data (.error e)
  | accepted {a : α} : (∀ e, ¬ row.Refuses data e) → row.bytes a = row.settled (row.extent data) →
    Judges row data (.ok a)

/-- A row describes a codec if it has the bytes that are written, and judges data as the codec does. -/
theorem Describes.of_judges [Payload α] [Decodes α] (hbytes : ∀ a : α, Payload.layout a = row.bytes a)
    (hjudges : ∀ data, row.Judges data (Payload.decode data)) : row.Describes where
  encode_fits a block hfit := by
    rw [← hbytes] at hfit ⊢
    exact Payload.encode_fits hfit
  encode_full a block hlt := by
    rw [← hbytes] at hlt
    exact Payload.encode_full hlt
  decode_bytes a := by
    rw [← hbytes]
    exact Decodes.decode_layout a
  decode_error_iff data e := by
    have hjudge := hjudges data
    constructor
    · intro herror
      rw [herror] at hjudge
      cases hjudge with
      | refused hrefuses => exact hrefuses
    · intro hrefuses
      cases hdecode : (Payload.decode data : Except DecodeError α) with
      | error e' =>
        rw [hdecode] at hjudge
        cases hjudge with
        | refused hrefuses' => rw [hrefuses.unique hrefuses']
      | ok a =>
        rw [hdecode] at hjudge
        cases hjudge with
        | accepted hnone _ => exact absurd hrefuses (hnone e)
  bytes_decoded data a hok := by
    have hjudge := hjudges data
    rw [hok] at hjudge
    cases hjudge with
    | accepted _ hbytes => exact hbytes

/-- Data of a row without text is refused only if it is short. -/
theorem not_refuses (htail : row.tail ≠ .text) {data : Bytes} (hle : row.fixed ≤ data.length) (e : DecodeError) :
    ¬ row.Refuses data e := by
  intro hrefuses
  cases hrefuses with
  | short hlt => exact absurd hlt (Nat.not_lt_of_le hle)
  | garbled _ htext _ => exact htail htext

/-! ## Packed values -/

/-- How a row describes a packed value: it is read where its size is there, and not from less. -/
structure Reads (row : Row α) [Packed α] : Prop where
  fixed_eq : row.fixed = Packed.size α
  tail_eq : row.tail = .nothing
  wire_eq : ∀ a : α, wire a = row.bytes a
  short : ∀ data : Bytes, data.length < Packed.size α → (Packed.read .big data : Option (α × Bytes)) = none
  full : ∀ data : Bytes, Packed.size α ≤ data.length → ∃ (a : α) (rest : Bytes),
    Packed.read .big data = some (a, rest) ∧ row.bytes a = row.settled (data.take (Packed.size α))

theorem Reads.judges [Packed α] (h : row.Reads) (data : Bytes) :
    row.Judges data ((Payload.ofPacked α).decode data) := by
  show row.Judges data ((Scan.mk data).unpack.map Prod.fst)
  rcases Nat.lt_or_ge data.length (Packed.size α) with hlt | hge
  · rw [Scan.unpack, h.short data hlt, ← h.fixed_eq]
    rw [← h.fixed_eq] at hlt
    exact .refused (.short hlt)
  · obtain ⟨a, rest, hread, hbytes⟩ := h.full data hge
    rw [Scan.unpack, hread]
    refine .accepted (not_refuses ?_ (h.fixed_eq ▸ hge)) ?_
    · rw [h.tail_eq]
      intro htext
      cases htext
    · rw [hbytes, extent, h.tail_eq, h.fixed_eq]

theorem Reads.describes [Packed α] [ReadsBack α] (h : row.Reads) : @Describes α row (Payload.ofPacked α) := by
  let _ : Payload α := Payload.ofPacked α
  have : Decodes α := ⟨Decodes.of_packed⟩
  refine .of_judges ?_ h.judges
  intro a
  rw [← h.wire_eq]
  exact List.append_nil _

theorem reads_version : (Command.answerRow .protocolVersion).Reads where
  fixed_eq := rfl
  tail_eq := rfl
  wire_eq _ := rfl
  short
    | [], _ => rfl
  full
    | version :: rest, _ => ⟨⟨version⟩, rest, rfl, rfl⟩

theorem reads_channels : (Command.answerRow .spiChannels).Reads where
  fixed_eq := rfl
  tail_eq := rfl
  wire_eq _ := rfl
  short
    | [], _ => rfl
  full
    | count :: rest, _ => ⟨⟨count⟩, rest, rfl, rfl⟩

theorem reads_delay : (Command.argumentRow .delay).Reads where
  fixed_eq := rfl
  tail_eq := rfl
  wire_eq d := wire_word d.milliseconds
  short
    | [], _ | [_], _ | [_, _], _ | [_, _, _], _ => rfl
  full
    | a :: b :: c :: d :: rest, _ => ⟨⟨.ofNat (ByteOrder.big.value [a, b, c, d])⟩, rest, rfl, wordBytes_value a b c d⟩

theorem reads_written : (Command.answerRow .i2cWrite).Reads where
  fixed_eq := rfl
  tail_eq := rfl
  wire_eq w := wire_half w.address
  short
    | [], _ | [_], _ => rfl
  full
    | a :: b :: rest, _ => ⟨⟨.ofNat (ByteOrder.big.value [a, b])⟩, rest, rfl, halfBytes_value a b⟩

theorem reads_spiRead : (Command.argumentRow .spiRead).Reads where
  fixed_eq := rfl
  tail_eq := rfl
  wire_eq r := wire_half r.count
  short
    | [], _ | [_], _ => rfl
  full
    | a :: b :: rest, _ => ⟨⟨.ofNat (ByteOrder.big.value [a, b])⟩, rest, rfl, halfBytes_value a b⟩

theorem reads_i2cRead : (Command.argumentRow .i2cRead).Reads where
  fixed_eq := rfl
  tail_eq := rfl
  wire_eq r := congrArg (· ++ [r.count]) (wire_half r.address)
  short
    | [], _ | [_], _ | [_, _], _ => rfl
  full
    | a :: b :: count :: rest, _ =>
      ⟨⟨.ofNat (ByteOrder.big.value [a, b]), count⟩, rest, rfl, congrArg (· ++ [count]) (halfBytes_value a b)⟩

/-- A clock code that no clock owns is written again as zero. -/
theorem reads_i2cConfig : (Command.argumentRow .i2cConfig).Reads where
  fixed_eq := rfl
  tail_eq := rfl
  wire_eq c := by
    obtain ⟨clock, sda, scl⟩ := c
    cases clock <;> rfl
  short
    | [], _ | [_], _ | [_, _], _ => rfl
  full
    | clock :: sda :: scl :: rest, _ => by
      refine ⟨⟨.ofByte clock, sda, scl⟩, rest, rfl, ?_⟩
      show [match ClockSpeed.ofByte clock with | .khz100 => 1 | .khz400 => 2 | .unsupported => 0, sda, scl] =
        [if clock = 1 ∨ clock = 2 then clock else 0, sda, scl]
      by_cases h₁ : clock = 1
      · subst h₁
        rfl
      · by_cases h₂ : clock = 2
        · subst h₂
          rfl
        · simp only [ClockSpeed.ofByte, h₁, h₂, or_self, if_false]

/-- A bit order that is neither of the two is written again as invalid. -/
theorem reads_spiConfig : (Command.argumentRow .spiConfig).Reads where
  fixed_eq := rfl
  tail_eq := rfl
  wire_eq c := by
    obtain ⟨bits, order, cpol, cpha, baud⟩ := c
    have hbaud : Packed.bytes .big baud = wordBytes baud := wire_word baud
    show bits :: Packed.bytes .big order ++ cpol :: cpha :: Packed.bytes .big baud = _
    rw [hbaud]
    cases order <;> rfl
  short
    | [], _ | [_], _ | [_, _], _ | [_, _, _], _ | [_, _, _, _], _ | [_, _, _, _, _], _ | [_, _, _, _, _, _], _
    | [_, _, _, _, _, _, _], _ => rfl
  full
    | bits :: order :: cpol :: cpha :: a :: b :: c :: d :: rest, _ => by
      refine ⟨⟨bits, .ofByte order, cpol, cpha, .ofNat (ByteOrder.big.value [a, b, c, d])⟩, rest, rfl, ?_⟩
      show [bits, match BitOrder.ofByte order with | .msbFirst => 0 | .lsbFirst => 1 | .invalid => 0xff, cpol, cpha] ++
          wordBytes (.ofNat (ByteOrder.big.value [a, b, c, d])) =
        [bits, if order = 0 ∨ order = 1 then order else 0xff, cpol, cpha] ++ [a, b, c, d]
      rw [wordBytes_value]
      by_cases h₀ : order = 0
      · subst h₀
        rfl
      · by_cases h₁ : order = 1
        · subst h₁
          rfl
        · simp only [BitOrder.ofByte, h₀, h₁, or_self, if_false]

/-! ## Bytes and text -/

theorem describes_empty : empty.Describes := by
  refine .of_judges (fun _ => rfl) fun data => ?_
  exact .accepted (not_refuses (by decide) (Nat.zero_le _)) rfl

theorem describes_raw : raw.Describes := by
  refine .of_judges (fun r => List.append_nil r.data) fun data => ?_
  exact .accepted (not_refuses (by decide) (Nat.zero_le _)) rfl

theorem describes_components : (Command.answerRow .supportedComponents).Describes := by
  refine .of_judges (fun c => List.append_nil c.ids) fun data => ?_
  exact .accepted (not_refuses (by decide) (Nat.zero_le _)) rfl

theorem describes_addressed : addressed.Describes := by
  refine .of_judges ?_ fun data => ?_
  · intro d
    show wire d.address ++ (d.data ++ []) = halfBytes d.address ++ d.data
    rw [wire_half, List.append_nil]
  · match data with
    | [] => exact .refused (.short (by decide))
    | [_] => exact .refused (.short (Nat.lt_add_one 1))
    | a :: b :: rest =>
      show addressed.Judges _ (.ok ⟨.ofNat (ByteOrder.big.value [a, b]), rest⟩)
      refine .accepted (not_refuses (by decide) (Nat.le_add_left _ _)) ?_
      exact congrArg (· ++ rest) (halfBytes_value a b)

/-- The bytes of a text are the encodings of its characters. -/
theorem toUTF8_toList (text : String) : text.toUTF8.toList = text.toList.flatMap String.utf8EncodeChar := by
  have hlist : text.toUTF8.toList = text.toUTF8.data.toList := toList_loop text.toUTF8 0 []
  have hencode : text.toUTF8 = (text.toList.flatMap String.utf8EncodeChar).toByteArray :=
    String.utf8Encode_toList.symm
  rw [hlist, hencode, List.data_toByteArray, List.toList_toArray]

theorem isText_iff (data : Bytes) : IsText data ↔ data.toByteArray.IsValidUTF8 := by
  constructor
  · rintro ⟨text, rfl⟩
    exact .intro text rfl
  · rintro ⟨text, heq⟩
    have hdata := congrArg (fun bytes => bytes.data.toList) heq
    exact ⟨text, by simpa only [List.utf8Encode, List.data_toByteArray, List.toList_toArray] using hdata⟩

theorem describes_hardware : (Command.answerRow .hardwareInfo).Describes := by
  refine .of_judges ?_ fun data => ?_
  · intro h
    show h.description.toUTF8.toList ++ [] = _
    rw [List.append_nil, toUTF8_toList]
    rfl
  · show Row.Judges (Command.answerRow .hardwareInfo) data (Payload.decode data : Except DecodeError Info.Hardware)
    by_cases hvalid : data.toByteArray.IsValidUTF8
    · have htext : String.fromUTF8? data.toByteArray = some (String.fromUTF8 data.toByteArray hvalid) := dif_pos hvalid
      simp only [Payload.decode, htext]
      refine .accepted ?_ ?_
      · intro e hrefuses
        cases hrefuses with
        | short hlt => exact absurd hlt (Nat.not_lt_zero _)
        | garbled _ _ hnot => exact hnot ((isText_iff data).mpr hvalid)
      · show (String.fromUTF8 data.toByteArray hvalid).toList.flatMap String.utf8EncodeChar = data
        rw [← toUTF8_toList]
        have hlist := toList_loop (String.fromUTF8 data.toByteArray hvalid).toUTF8 0 []
        refine Eq.trans hlist ?_
        show data.toByteArray.data.toList = data
        rw [List.data_toByteArray, List.toList_toArray]
    · have hnone : String.fromUTF8? data.toByteArray = none := dif_neg hvalid
      simp only [Payload.decode, hnone]
      exact .refused (.garbled (Nat.zero_le _) rfl (fun htext => hvalid ((isText_iff data).mp htext)))

end Row

/-! ## The table -/

namespace Command

theorem argumentRow_describes (c : Command) : c.argumentRow.Describes := by
  cases c with
  | protocolVersion | hardwareInfo | firmwareVersion | supportedComponents | spiChannels => exact Row.describes_empty
  | delay => exact Row.reads_delay.describes
  | i2cConfig => exact Row.reads_i2cConfig.describes
  | i2cWrite => exact Row.describes_addressed
  | i2cRead => exact Row.reads_i2cRead.describes
  | spiConfig => exact Row.reads_spiConfig.describes
  | spiRead => exact Row.reads_spiRead.describes
  | spiWrite | spiTransfer | other _ _ => exact Row.describes_raw

theorem answerRow_describes (c : Command) : c.answerRow.Describes := by
  cases c with
  | protocolVersion | firmwareVersion => exact Row.reads_version.describes
  | hardwareInfo => exact Row.describes_hardware
  | supportedComponents => exact Row.describes_components
  | i2cWrite => exact Row.reads_written.describes
  | i2cRead => exact Row.describes_addressed
  | spiChannels => exact Row.reads_channels.describes
  | spiRead | spiTransfer => exact Row.describes_raw
  | delay | i2cConfig | spiConfig | spiWrite | other _ _ => exact Row.describes_empty

end Command

/-- A command with arguments for it is a request. -/
def Command.request : (c : Command) → c.Arguments → Request
  | .protocolVersion, _ => .protocolVersion
  | .hardwareInfo, _ => .hardwareInfo
  | .firmwareVersion, _ => .firmwareVersion
  | .supportedComponents, _ => .supportedComponents
  | .delay, a => .delay a
  | .i2cConfig, a => .i2cConfig a
  | .i2cWrite, a => .i2cWrite a
  | .i2cRead, a => .i2cRead a
  | .spiChannels, _ => .spiChannels
  | .spiConfig, a => .spiConfig a
  | .spiRead, a => .spiRead a
  | .spiWrite, a => .spiWrite a
  | .spiTransfer, a => .spiTransfer a
  | .other component operation, a => .other component operation a

/-- Every payload of the protocol is laid out, written and read as its row of the table says, and the payload of a
request is that of its command's arguments. -/
theorem payload_table :
    (∀ c : Command, c.argumentRow.Describes ∧ c.answerRow.Describes) ∧
      (∀ r : Request, r.pieces = Payload.pieces r.arguments ∧ r.command.request r.arguments = r) ∧
      ∀ (c : Command) (a : c.Arguments),
        (⟨(c.request a).command, (c.request a).arguments⟩ : Σ c : Command, c.Arguments) = ⟨c, a⟩ := by
  refine ⟨fun c => ⟨c.argumentRow_describes, c.answerRow_describes⟩, fun r => ?_, fun c a => ?_⟩
  · cases r <;> exact ⟨rfl, rfl⟩
  · cases c <;> rfl

end BusBridge
