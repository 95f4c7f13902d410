import BusBridge.Bench.DraftOp
import BusBridge.Proofs.Codecs
import BusBridge.Proofs.Drafts
/-!
# The two cursors

What a draft does is said in terms of what can be seen of it, the bytes written and the bytes that stand in the space
left (`Draft.Obeys`): an operation takes effect if its bytes fit, and otherwise nothing counts as written, though a
payload may have left its first pieces in the space behind (`DraftOp.scribble`). What a scan does is said in terms of
the piece of the data that a value was read from (`Scan.Consumes`). Both are about one operation at a time, and
`cursors_exact` about any number of them; it also says that what was packed is unpacked again.

A packed type is one whose reader takes a fixed number of bytes, whatever they are, and fails only if they are not
there (`ReadsWhole`). A record is such a type if its fields are.
-/

namespace BusBridge

/-! ## Writing -/

namespace DraftOp

/-- Append a packed value. -/
def pack {α : Type} [Packed α] (a : α) : DraftOp :=
  .put (wire a)

/-- Number of bytes that have to fit in the space left. -/
def size : DraftOp → Nat
  | put bytes => bytes.length
  | encode pieces => pieces.flatten.length
  | advance size => size
  | clear | fill _ => 0

/-- What is written after an operation, from what was written and what stood in the space left. -/
def written (before space : Bytes) : DraftOp → Bytes
  | put bytes => before ++ bytes
  | encode pieces => before ++ pieces.flatten
  | advance size => before ++ space.take size
  | clear => []
  | fill _ => before

/-- What stands in the space left after an operation. -/
def left (before space : Bytes) : DraftOp → Bytes
  | put bytes => space.drop bytes.length
  | encode pieces => space.drop pieces.flatten.length
  | advance size => space.drop size
  | clear => before ++ space
  | fill data => Bytes.overlay space 0 data

/-- The first pieces, as many as fit one after the other. -/
def fitting (space : Nat) : List Bytes → Bytes
  | [] => []
  | piece :: rest => if piece.length ≤ space then piece ++ fitting (space - piece.length) rest else []

/-- What an operation that is refused leaves in the space behind. -/
def scribble (space : Nat) : DraftOp → Bytes
  | encode pieces => fitting space pieces
  | _ => []

theorem length_fitting_le (space : Nat) (pieces : List Bytes) : (fitting space pieces).length ≤ space := by
  induction pieces generalizing space with
  | nil => exact Nat.zero_le _
  | cons piece rest ih =>
    rw [fitting]
    by_cases hfit : piece.length ≤ space
    · have hrest := ih (space - piece.length)
      rw [if_pos hfit, List.length_append]
      omega
    · rw [if_neg hfit]
      exact Nat.zero_le _

end DraftOp

namespace Draft

/-- What an operation makes of a draft. -/
inductive Obeys (d : Draft) (op : DraftOp) : Except CapacityError Unit → Draft → Prop where
  | fits {d' : Draft} : op.size ≤ d.space → d'.written = op.written d.written d.remaining →
      d'.remaining = op.left d.written d.remaining → Obeys d op (.ok ()) d'
  | full {d' : Draft} : d.space < op.size → d'.written = d.written →
      d'.remaining = Bytes.overlay d.remaining 0 (op.scribble d.space) → Obeys d op (.error {}) d'

/-- The operations one after the other, whether they succeed or not. -/
def applyEach (d : Draft) : List DraftOp → List (Except CapacityError Unit) × Draft
  | [] => ([], d)
  | op :: rest => ((d.apply op).1 :: ((d.apply op).2.applyEach rest).1, ((d.apply op).2.applyEach rest).2)

/-- Pieces that do not fit together are written up to the first that does not. -/
theorem putAll_fitting {d : Draft} {pieces : List Bytes} (h : d.space < pieces.flatten.length) :
    ∃ d', d.putAll pieces = (.error {}, d') ∧ d'.written = d.written ++ DraftOp.fitting d.space pieces ∧
      d'.remaining = d.remaining.drop (DraftOp.fitting d.space pieces).length := by
  induction pieces generalizing d with
  | nil => exact absurd h (Nat.not_lt_zero _)
  | cons piece rest ih =>
    rw [List.flatten_cons, List.length_append] at h
    by_cases hfit : piece.length ≤ d.space
    · obtain ⟨d₁, hput, hwritten, hremaining⟩ := put_eq hfit
      have hspace : d₁.space = d.space - piece.length := by
        rw [← length_remaining, hremaining, List.length_drop, length_remaining]
      obtain ⟨d', hall, hwritten', hremaining'⟩ := ih (show d₁.space < rest.flatten.length by omega)
      rw [DraftOp.fitting, if_pos hfit, ← hspace]
      refine ⟨d', ?_, ?_, ?_⟩
      · rw [putAll, hput]
        exact hall
      · rw [hwritten', hwritten, List.append_assoc]
      · rw [hremaining', hremaining, List.drop_drop, List.length_append]
    · rw [DraftOp.fitting, if_neg hfit]
      refine ⟨d, ?_, (List.append_nil _).symm, rfl⟩
      rw [putAll, put_full (Nat.lt_of_not_le hfit)]

theorem put_obeys (d : Draft) (bytes : Bytes) :
    d.Obeys (.put bytes) (d.apply (.put bytes)).1 (d.apply (.put bytes)).2 := by
  by_cases hfit : bytes.length ≤ d.space
  · obtain ⟨d', hput, hwritten, hremaining⟩ := put_eq hfit
    simp only [apply, hput]
    exact .fits hfit hwritten hremaining
  · simp only [apply, put_full (Nat.lt_of_not_le hfit)]
    exact .full (Nat.lt_of_not_le hfit) rfl (Bytes.overlay_nil _ _).symm

theorem advance_obeys (d : Draft) (size : Nat) :
    d.Obeys (.advance size) (d.apply (.advance size)).1 (d.apply (.advance size)).2 := by
  by_cases hfit : size ≤ d.space
  · obtain ⟨d', hadvance, hwritten, hremaining⟩ := advance_eq hfit
    simp only [apply, hadvance]
    exact .fits hfit hwritten hremaining
  · simp only [apply, advance_full (Nat.lt_of_not_le hfit)]
    exact .full (Nat.lt_of_not_le hfit) rfl (Bytes.overlay_nil _ _).symm

theorem encode_obeys (d : Draft) (pieces : List Bytes) :
    d.Obeys (.encode pieces) (d.apply (.encode pieces)).1 (d.apply (.encode pieces)).2 := by
  show d.Obeys (.encode pieces) (d.encode pieces).1 (d.encode pieces).2
  by_cases hfit : pieces.flatten.length ≤ d.space
  · obtain ⟨d', hall, hwritten, hremaining⟩ := putAll_fits hfit
    simp only [encode, hall]
    exact .fits hfit hwritten hremaining
  · have hfull := Nat.lt_of_not_le hfit
    obtain ⟨d', hall, hwritten, hremaining⟩ := putAll_fitting hfull
    have hlength : (DraftOp.fitting d.space pieces).length ≤ d.remaining.length :=
      d.length_remaining ▸ DraftOp.length_fitting_le d.space pieces
    have hover : Bytes.overlay d.remaining 0 (DraftOp.fitting d.space pieces) =
        DraftOp.fitting d.space pieces ++ d.remaining.drop (DraftOp.fitting d.space pieces).length := by
      rw [Bytes.overlay_eq, List.take_zero, List.nil_append, Nat.sub_zero, Nat.zero_add, List.take_of_length_le hlength]
    -- the space behind the written bytes, with the pieces in it, is written back as a whole
    have hslice : Bytes.slice d'.block d.length d.space =
        Bytes.overlay d.remaining 0 (DraftOp.fitting d.space pieces) := by
      rw [Bytes.slice, d'.block_eq, hwritten, hremaining, List.append_assoc, List.drop_left' d.length_written, ← hover]
      exact List.take_of_length_le (Nat.le_of_eq ((Bytes.length_overlay _ _ _).trans d.length_remaining))
    simp only [encode, hall, hslice]
    refine .full hfull (written_fill _ _) ?_
    rw [remaining_fill]
    exact Bytes.overlay_whole (Bytes.length_overlay _ _ _)

theorem apply_obeys (d : Draft) (op : DraftOp) : d.Obeys op (d.apply op).1 (d.apply op).2 := by
  cases op with
  | put bytes => exact d.put_obeys bytes
  | encode pieces => exact d.encode_obeys pieces
  | advance size => exact d.advance_obeys size
  | clear => exact .fits (Nat.zero_le _) rfl d.block_eq
  | fill data => exact .fits (Nat.zero_le _) (d.written_fill data) (d.remaining_fill data)

namespace Obeys

variable {d d' : Draft} {op : DraftOp} {result : Except CapacityError Unit}

theorem ok_iff (h : d.Obeys op result d') : result = .ok () ↔ op.size ≤ d.space := by
  cases h with
  | fits hfit => exact ⟨fun _ => hfit, fun _ => rfl⟩
  | full hfull =>
    refine ⟨fun hok => ?_, fun hfit => absurd hfit (Nat.not_le_of_lt hfull)⟩
    cases hok

/-- No operation changes the size of the block. -/
theorem length_block (h : d.Obeys op result d') : d'.block.length = d.block.length := by
  rw [d'.length_block, d.length_block]
  cases h with
  | full _ hwritten hremaining => rw [hwritten, hremaining, Bytes.length_overlay]
  | fits hfit hwritten hremaining =>
    rw [← d.length_remaining] at hfit
    rw [hwritten, hremaining]
    cases op with
    | put bytes =>
      simp only [DraftOp.size] at hfit
      simp only [DraftOp.written, DraftOp.left, List.length_append, List.length_drop]
      omega
    | encode pieces =>
      simp only [DraftOp.size] at hfit
      simp only [DraftOp.written, DraftOp.left, List.length_append, List.length_drop]
      omega
    | advance size =>
      simp only [DraftOp.size] at hfit
      simp only [DraftOp.written, DraftOp.left, List.length_append, List.length_take, List.length_drop]
      omega
    | clear => simp only [DraftOp.written, DraftOp.left, List.length_nil, List.length_append, Nat.zero_add]
    | fill data => simp only [DraftOp.written, DraftOp.left, Bytes.length_overlay]

end Obeys

theorem length_applyEach (d : Draft) (ops : List DraftOp) : (d.applyEach ops).2.block.length = d.block.length := by
  induction ops generalizing d with
  | nil => rfl
  | cons op rest ih => exact (ih (d.apply op).2).trans (d.apply_obeys op).length_block

/-- Values and bytes that were all accepted stand one after the other. -/
theorem written_puts {d : Draft} {pieces : List Bytes}
    (h : ∀ result ∈ (d.applyEach (pieces.map .put)).1, result = .ok ()) :
    (d.applyEach (pieces.map .put)).2.written = d.written ++ pieces.flatten := by
  induction pieces generalizing d with
  | nil => exact (List.append_nil _).symm
  | cons piece rest ih =>
    have hfirst : (d.apply (.put piece)).1 = .ok () := h _ List.mem_cons_self
    have hrest := ih (d := (d.apply (.put piece)).2) fun result hmem => h result (List.mem_cons_of_mem _ hmem)
    have hobeys := d.put_obeys piece
    rw [hfirst] at hobeys
    obtain ⟨_, hwritten, _⟩ := hobeys
    rw [List.flatten_cons, ← List.append_assoc]
    show ((d.apply (.put piece)).2.applyEach (rest.map .put)).2.written = _
    rw [hrest, hwritten]
    rfl

end Draft

/-! ## Reading -/

/-- The reader takes so many bytes, whatever they are and whatever follows them, and fails if there are fewer. -/
structure Takes {α : Type} (size : Nat) (read : Bytes → Option (α × Bytes)) : Prop where
  short : ∀ data : Bytes, data.length < size → read data = none
  full : ∀ piece : Bytes, piece.length = size → ∃ a, ∀ rest, read (piece ++ rest) = some (a, rest)

namespace Takes

variable {α β : Type} {size more : Nat} {read : Bytes → Option (α × Bytes)}

theorem pure (a : α) : Takes 0 fun data => some (a, data) where
  short data h := absurd h (Nat.not_lt_zero _)
  full piece h := ⟨a, fun rest => by rw [List.eq_nil_of_length_eq_zero h]; rfl⟩

theorem map (h : Takes size read) (f : α → β) : Takes size fun data => (read data).map fun r => (f r.1, r.2) where
  short data hshort := by
    rw [h.short data hshort]
    rfl
  full piece hpiece := by
    obtain ⟨a, hread⟩ := h.full piece hpiece
    refine ⟨f a, fun rest => ?_⟩
    rw [hread rest]
    rfl

/-- One reader after the other. -/
theorem bind {next : α → Bytes → Option (β × Bytes)} (h : Takes size read) (hnext : ∀ a, Takes more (next a)) :
    Takes (size + more) fun data => read data >>= fun r => next r.1 r.2 where
  short data hshort := by
    by_cases hfirst : data.length < size
    · rw [h.short data hfirst]
      rfl
    · have hpiece : (data.take size).length = size := List.length_take_of_le (Nat.le_of_not_lt hfirst)
      have hrest : (data.drop size).length < more := by
        rw [List.length_drop]
        omega
      obtain ⟨a, hread⟩ := h.full _ hpiece
      have hdata := hread (data.drop size)
      rw [List.take_append_drop] at hdata
      rw [hdata]
      exact (hnext a).short _ hrest
  full piece hpiece := by
    have hfirst : (piece.take size).length = size := List.length_take_of_le (by omega)
    have hsecond : (piece.drop size).length = more := by
      rw [List.length_drop]
      omega
    obtain ⟨a, hread⟩ := h.full _ hfirst
    obtain ⟨b, hread'⟩ := (hnext a).full _ hsecond
    refine ⟨b, fun rest => ?_⟩
    have hdata : piece ++ rest = piece.take size ++ (piece.drop size ++ rest) := by
      rw [← List.append_assoc, List.take_append_drop]
    rw [hdata, hread]
    exact hread' rest

/-- A number takes its width. -/
theorem number (order : ByteOrder) (width : Nat) : Takes width (order.read width) where
  short data h := if_neg (Nat.not_le_of_lt h)
  full piece h := by
    refine ⟨order.value piece, fun rest => ?_⟩
    rw [ByteOrder.read, if_pos (by rw [List.length_append, h]; exact Nat.le_add_right _ _), List.take_left' h,
      List.drop_left' h]

end Takes

/-- A value of a packed type takes all the bytes of its size, and they are enough. -/
class ReadsWhole (α : Type) [Packed α] : Prop extends ReadsBack α where
  takes : ∀ order : ByteOrder, Takes (Packed.size α) (Packed.read order : Bytes → Option (α × Bytes))

instance : ReadsBack Header where
  read_bytes order h rest := by
    show (Packed.read order (Packed.bytes order h.length ++ rest)).map _ = _
    rw [ReadsBack.read_bytes]
    rfl
  length_bytes order h := by
    show (Packed.bytes order h.length).length + 3 = 5
    rw [ReadsBack.length_bytes]
    rfl

namespace ReadsWhole

instance : ReadsWhole UInt8 where
  takes _ := {
    short := fun data h => by rw [List.eq_nil_of_length_eq_zero (Nat.lt_one_iff.mp h)]; rfl
    full := fun piece h => by
      obtain ⟨b, rfl⟩ := List.length_eq_one_iff.mp h
      exact ⟨b, fun _ => rfl⟩ }

instance : ReadsWhole UInt16 where
  takes order := (Takes.number order 2).map UInt16.ofNat

instance : ReadsWhole UInt32 where
  takes order := (Takes.number order 4).map UInt32.ofNat

instance : ReadsWhole Status where
  takes order := (ReadsWhole.takes order).map Status.ofByte

instance : ReadsWhole ClockSpeed where
  takes order := (ReadsWhole.takes order).map ClockSpeed.ofByte

instance : ReadsWhole BitOrder where
  takes order := (ReadsWhole.takes order).map BitOrder.ofByte

instance : ReadsWhole Info.Version where
  takes order := (ReadsWhole.takes order).map Info.Version.mk

instance : ReadsWhole Spi.Channels where
  takes order := (ReadsWhole.takes order).map Spi.Channels.mk

instance : ReadsWhole Info.Delay where
  takes order := (ReadsWhole.takes order).map Info.Delay.mk

instance : ReadsWhole I2c.Written where
  takes order := (ReadsWhole.takes order).map I2c.Written.mk

instance : ReadsWhole Spi.Read where
  takes order := (ReadsWhole.takes order).map Spi.Read.mk

instance : ReadsWhole I2c.Read where
  takes order := (ReadsWhole.takes order).bind fun address => (ReadsWhole.takes order).bind fun count =>
    .pure (⟨address, count⟩ : I2c.Read)

instance : ReadsWhole I2c.Config where
  takes order := (ReadsWhole.takes order).bind fun clock => (ReadsWhole.takes order).bind fun sda =>
    (ReadsWhole.takes order).bind fun scl => .pure (⟨clock, sda, scl⟩ : I2c.Config)

instance : ReadsWhole Spi.Config where
  takes order := (ReadsWhole.takes order).bind fun bits => (ReadsWhole.takes order).bind fun bitOrder =>
    (ReadsWhole.takes order).bind fun cpol => (ReadsWhole.takes order).bind fun cpha =>
      (ReadsWhole.takes order).bind fun baud => .pure (⟨bits, bitOrder, cpol, cpha, baud⟩ : Spi.Config)

instance : ReadsWhole Header where
  takes order := by
    have hfields := (ReadsWhole.takes (α := UInt8) order).bind fun component =>
      (ReadsWhole.takes (α := UInt8) order).bind fun operation =>
      (ReadsWhole.takes (α := UInt8) order).bind fun channel =>
        (ReadsWhole.takes (α := UInt16) order).map (Header.mk component operation channel)
    refine Eq.subst (motive := Takes Header.size) ?_ hfields
    funext data
    rcases data with _ | ⟨component, _ | ⟨operation, _ | ⟨channel, data⟩⟩⟩ <;> rfl

end ReadsWhole

/-- A type that can be packed. -/
structure PackedType where
  carrier : Type
  [packed : Packed carrier]
  [whole : ReadsWhole carrier]

attribute [instance] PackedType.packed PackedType.whole

/-- The bytes of one value. -/
abbrev PackedType.size (type : PackedType) : Nat :=
  Packed.size type.carrier

/-- A value, with its type. -/
structure PackedValue where
  type : PackedType
  value : type.carrier

namespace Scan

/-- Read values of these types, one after the other, whether the one before could be read or not. -/
def unpackEach (s : Scan) : List PackedType → List (Except DecodeError PackedValue) × Scan
  | [] => ([], s)
  | type :: rest =>
    match (s.unpack : Except DecodeError (type.carrier × Scan)) with
    | .ok (value, s') => (.ok ⟨type, value⟩ :: (s'.unpackEach rest).1, (s'.unpackEach rest).2)
    | .error e => (.error e :: (s.unpackEach rest).1, (s.unpackEach rest).2)

/-- How values are read from data: each is the value of a piece of its size, and where the data left is shorter than
that, nothing is taken and the two sizes are reported. -/
inductive Consumes : Bytes → List PackedType → List (Except DecodeError PackedValue) → List Bytes → Bytes → Prop where
  | done {data : Bytes} : Consumes data [] [] [] data
  | read {type : PackedType} {value : type.carrier} {piece data left : Bytes} {types : List PackedType}
      {results : List (Except DecodeError PackedValue)} {pieces : List Bytes} : piece.length = type.size →
      (Scan.mk piece).unpack = .ok (value, ⟨[]⟩) → Consumes data types results pieces left →
      Consumes (piece ++ data) (type :: types) (.ok ⟨type, value⟩ :: results) (piece :: pieces) left
  | short {type : PackedType} {data left : Bytes} {types : List PackedType}
      {results : List (Except DecodeError PackedValue)} {pieces : List Bytes} : data.length < type.size →
      Consumes data types results pieces left →
      Consumes data (type :: types) (.error (.truncated type.size data.length) :: results) ([] :: pieces) left

theorem Consumes.flatten {data left : Bytes} {types : List PackedType} {results : List (Except DecodeError PackedValue)}
    {pieces : List Bytes} (h : Consumes data types results pieces left) : pieces.flatten ++ left = data := by
  induction h with
  | done => rfl
  | read _ _ _ ih => rw [List.flatten_cons, List.append_assoc, ih]
  | short _ _ ih => rw [List.flatten_cons, List.nil_append, ih]

section

variable {α : Type} [Packed α] [ReadsWhole α]

theorem unpack_short {s : Scan} (h : s.rest.length < Packed.size α) :
    (s.unpack : Except DecodeError (α × Scan)) = .error (.truncated (Packed.size α) s.rest.length) := by
  have hread : (Packed.read .big s.rest : Option (α × Bytes)) = none := (ReadsWhole.takes .big).short _ h
  rw [unpack, hread]

theorem unpack_full {piece : Bytes} (h : piece.length = Packed.size α) :
    ∃ a : α, ∀ rest, (Scan.mk (piece ++ rest)).unpack = .ok (a, ⟨rest⟩) := by
  obtain ⟨a, hread⟩ := (ReadsWhole.takes (α := α) .big).full piece h
  refine ⟨a, fun rest => ?_⟩
  rw [unpack, hread]

end

theorem unpackEach_consumes (types : List PackedType) (data : Bytes) :
    ∃ pieces, Consumes data types ((Scan.mk data).unpackEach types).1 pieces
      ((Scan.mk data).unpackEach types).2.rest := by
  induction types generalizing data with
  | nil => exact ⟨[], .done⟩
  | cons type types ih =>
    by_cases hshort : data.length < type.size
    · obtain ⟨pieces, hrest⟩ := ih data
      have hunpack := unpack_short (α := type.carrier) (s := ⟨data⟩) hshort
      rw [unpackEach, hunpack]
      exact ⟨[] :: pieces, .short hshort hrest⟩
    · have hpiece : (data.take type.size).length = type.size := List.length_take_of_le (Nat.le_of_not_lt hshort)
      obtain ⟨value, hunpack⟩ := unpack_full (α := type.carrier) hpiece
      have hwhole := hunpack []
      have hdata := hunpack (data.drop type.size)
      obtain ⟨pieces, hrest⟩ := ih (data.drop type.size)
      rw [List.append_nil] at hwhole
      rw [List.take_append_drop] at hdata
      have hconsumes := Consumes.read hpiece hwhole hrest
      rw [List.take_append_drop] at hconsumes
      rw [unpackEach, hdata]
      exact ⟨_, hconsumes⟩

/-- Values are unpacked as they were packed. -/
theorem unpackEach_wire (values : List PackedValue) (raw : Bytes) :
    (Scan.mk ((values.map fun v => wire v.value).flatten ++ raw)).unpackEach (values.map PackedValue.type) =
      (values.map .ok, ⟨raw⟩) := by
  induction values with
  | nil => rfl
  | cons v values ih =>
    have hunpack := Scan.unpack_wire v.value ((values.map fun v => wire v.value).flatten ++ raw)
    rw [List.map_cons, List.flatten_cons, List.append_assoc, List.map_cons, List.map_cons, unpackEach, hunpack]
    simp only [ih]

end Scan

/-! ## Both cursors -/

/-- Whatever is done with a draft, and in which order: it stays within its block, an operation succeeds exactly if its
bytes fit, and does then what it says, and one that fails changes nothing of what is written. Packed values followed by
bytes are read back from what was written. Whatever is read from any data in which order: the values are those of
consecutive pieces, a value that is not there takes nothing and is reported with its size and what is left, and the
pieces and the rest are the data. -/
theorem cursors_exact :
    (∀ (block : Bytes) (ops : List DraftOp) (op : DraftOp),
      let d := ((Draft.start block).applyEach ops).2
      d.block.length = block.length ∧ d.length ≤ block.length ∧ d.written.length = d.length ∧
        d.remaining.length = block.length - d.length ∧ ((d.apply op).1 = .ok () ↔ op.size ≤ d.space) ∧
        d.Obeys op (d.apply op).1 (d.apply op).2) ∧
    (∀ (block : Bytes) (values : List PackedValue) (raw : Bytes),
      let written := (Draft.start block).applyEach (values.map (fun v => .pack v.value) ++ [.put raw])
      (∀ result ∈ written.1, result = .ok ()) →
        (Scan.mk written.2.written).unpackEach (values.map PackedValue.type) = (values.map .ok, ⟨raw⟩)) ∧
    ∀ (data : Bytes) (types : List PackedType),
      let (results, s) := (Scan.mk data).unpackEach types
      ∃ pieces, Scan.Consumes data types results pieces s.rest ∧ pieces.flatten ++ s.rest = data := by
  refine ⟨?_, ?_, ?_⟩
  · intro block ops op d
    have hblock : d.block.length = block.length := Draft.length_applyEach _ _
    have hobeys := d.apply_obeys op
    refine ⟨hblock, hblock ▸ d.length_le, d.length_written, ?_, hobeys.ok_iff, hobeys⟩
    rw [← hblock]
    exact d.length_remaining
  · intro block values raw written hok
    have hops : values.map (fun v => DraftOp.pack v.value) ++ [.put raw] =
        (values.map (fun v => wire v.value) ++ [raw]).map DraftOp.put := by
      rw [List.map_append, List.map_map]
      rfl
    have hwritten : written.2.written = (values.map fun v => wire v.value).flatten ++ raw := by
      simp only [written, hops] at hok ⊢
      rw [Draft.written_puts hok, Draft.written_start, List.nil_append, List.flatten_append, List.flatten_singleton]
    rw [hwritten]
    exact Scan.unpackEach_wire values raw
  · intro data types
    obtain ⟨pieces, hconsumes⟩ := Scan.unpackEach_consumes types data
    exact ⟨pieces, hconsumes, hconsumes.flatten⟩

/-- A payload of which the first piece fits and the second does not, a header and a number that are read back, and a
number that is not there. -/
theorem cursors_exact_partial :
    (let d := ((Draft.start [0xee, 0xee, 0xee, 0xee]).applyEach [.put [1]]).2
     d.Obeys (.encode [[2, 3], [4, 5]]) (.error {}) (d.apply (.encode [[2, 3], [4, 5]])).2) ∧
    (let values : List PackedValue := [⟨⟨Header⟩, ⟨7, 1, 0, 2⟩⟩, ⟨⟨UInt16⟩, 0x1234⟩]
     let written :=
       (Draft.start (List.replicate 9 0xee)).applyEach (values.map (fun v => .pack v.value) ++ [.put [9, 8]])
     (Scan.mk written.2.written).unpackEach [⟨Header⟩, ⟨UInt16⟩] = (values.map .ok, ⟨[9, 8]⟩)) ∧
    ∃ pieces, Scan.Consumes [1, 2, 3] [⟨UInt32⟩, ⟨UInt16⟩]
      [.error (.truncated 4 3), .ok ⟨⟨UInt16⟩, 0x0102⟩] pieces [3] ∧ pieces.flatten ++ [3] = [1, 2, 3] := by
  obtain ⟨hwrite, hreadBack, hread⟩ := cursors_exact
  refine ⟨?_, ?_, hread [1, 2, 3] [⟨UInt32⟩, ⟨UInt16⟩]⟩
  · intro d
    exact (hwrite [0xee, 0xee, 0xee, 0xee] [.put [1]] (.encode [[2, 3], [4, 5]])).2.2.2.2.2
  · intro values written
    refine hreadBack (List.replicate 9 0xee) values [9, 8] ?_
    intro result hmem
    have hall : result ∈ [Except.ok (), Except.ok (), Except.ok ()] := hmem
    simpa only [List.mem_cons, List.not_mem_nil, or_false, or_self] using hall

end BusBridge
