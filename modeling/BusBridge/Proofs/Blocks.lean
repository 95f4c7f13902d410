import BusBridge.Wire.Bytes
/-!
# Laws of blocks

`Bytes.overlay_eq` spells an overlay out: the bytes before the offset, as much of the data as there is
room for, and the bytes behind it. The laws below are read off this form. Two of them carry the rest
of the library: data that fits stands where it was written (`Bytes.take_overlay`), and a block that is
cut out, written into and put back was written into in place (`Bytes.overlay_slice`).
-/

namespace BusBridge

namespace Bytes

/-- Only the second of two strings is looked at, as far as the first one reaches. -/
theorem zipWith_second (block data : Bytes) : block.zipWith (fun _ d => d) data = data.take block.length := by
  induction block generalizing data with
  | nil => simp
  | cons b block ih =>
    cases data with
    | nil => rfl
    | cons d data => simp only [List.zipWith_cons_cons, List.length_cons, List.take_succ_cons, ih]

theorem overlay_eq (block : Bytes) (offset : Nat) (data : Bytes) :
    overlay block offset data =
      block.take offset ++ (data.take (block.length - offset) ++ block.drop (offset + data.length)) := by
  simp only [overlay, zipWith_second, List.length_drop, List.drop_drop]

/-- Data that fits stands where it was written. -/
theorem take_overlay {block data : Bytes} {offset : Nat} (h : offset + data.length ≤ block.length) :
    (overlay block offset data).take (offset + data.length) = block.take offset ++ data := by
  have hdata : data.take (block.length - offset) = data := List.take_of_length_le (by omega)
  have hlen : (block.take offset ++ data).length = offset + data.length := by
    simp only [List.length_append, List.length_take]
    omega
  rw [overlay_eq, hdata, ← List.append_assoc, ← hlen, List.take_left]

/-- A byte under an overlay is the byte of the data that was written over it, if there is one. -/
theorem getElem?_overlay (block : Bytes) (offset : Nat) (data : Bytes) (i : Nat) :
    (overlay block offset data)[i]? =
      if offset ≤ i ∧ i < offset + data.length ∧ i < block.length then data[i - offset]? else block[i]? := by
  by_cases hin : i < block.length
  · have hbefore : (block.take offset).length = min offset block.length := List.length_take
    have hdata : (data.take (block.length - offset)).length = min (block.length - offset) data.length :=
      List.length_take
    rw [overlay_eq]
    by_cases hlow : i < offset
    · rw [if_neg (by omega), List.getElem?_append_left (by omega), List.getElem?_take_of_lt hlow]
    · rw [List.getElem?_append_right (by omega)]
      by_cases hover : i < offset + data.length
      · rw [if_pos (by omega), List.getElem?_append_left (by omega), List.getElem?_take_of_lt (by omega), hbefore,
          Nat.min_eq_left (by omega)]
      · rw [if_neg (by omega), List.getElem?_append_right (by omega), List.getElem?_drop]
        exact congrArg (block[·]?) (by omega)
  · have hout := Nat.le_of_not_lt hin
    rw [if_neg (by omega), List.getElem?_eq_none hout, List.getElem?_eq_none (by rw [length_overlay]; exact hout)]

/-- What is written does not show behind it. -/
theorem drop_overlay {block data : Bytes} {offset : Nat} :
    (overlay block offset data).drop (offset + data.length) = block.drop (offset + data.length) := by
  apply List.ext_getElem?
  intro i
  simp only [List.getElem?_drop, getElem?_overlay]
  grind

@[simp] theorem length_slice (block : Bytes) (offset count : Nat) :
    (slice block offset count).length = min count (block.length - offset) := by
  simp only [slice, List.length_take, List.length_drop]

/-- A block that is cut out, written into and put back was written into in place. -/
theorem overlay_slice {block data : Bytes} {offset count at' : Nat} (hblock : offset + count ≤ block.length)
    (hdata : at' + data.length ≤ count) :
    overlay block offset (overlay (slice block offset count) at' data) = overlay block (offset + at') data := by
  apply List.ext_getElem?
  intro i
  simp only [getElem?_overlay, length_overlay, slice]
  grind

/-- Data written piece by piece was written as a whole. -/
theorem overlay_append (block data more : Bytes) (offset : Nat) :
    overlay (overlay block offset data) (offset + data.length) more = overlay block offset (data ++ more) := by
  apply List.ext_getElem?
  intro i
  simp only [getElem?_overlay, length_overlay]
  grind

/-- Writing behind an offset is writing into the part behind it. -/
theorem slice_overlay {block data : Bytes} {offset : Nat} :
    slice (overlay block offset data) offset (block.length - offset) =
      overlay (slice block offset (block.length - offset)) 0 data := by
  apply List.ext_getElem?
  intro i
  simp only [slice, getElem?_overlay, List.getElem?_take, List.getElem?_drop, List.length_take, List.length_drop]
  grind

/-- What is written before an offset does not show behind it. -/
theorem slice_overlay_before {block data : Bytes} {offset count : Nat} (h : data.length ≤ offset) :
    slice (overlay block 0 data) offset count = slice block offset count := by
  apply List.ext_getElem?
  intro i
  simp only [slice, getElem?_overlay, List.getElem?_take, List.getElem?_drop]
  grind

/-- The start of a block over which another one was written is the start of the other one. -/
theorem take_overlay_zero {block data : Bytes} {count : Nat} (hblock : count ≤ block.length)
    (hdata : count ≤ data.length) :
    (overlay block 0 data).take count = data.take count := by
  apply List.ext_getElem?
  intro i
  simp only [getElem?_overlay, List.getElem?_take]
  grind

/-- A block over which another one of its size was written is the other one. -/
theorem overlay_whole {block data : Bytes} (h : data.length = block.length) : overlay block 0 data = data := by
  rw [overlay_eq, h, List.take_zero, List.nil_append, Nat.zero_add, List.drop_length, List.append_nil,
    Nat.sub_zero, ← h, List.take_length]

/-- What is written behind the end of a block is lost. -/
theorem overlay_take (block data : Bytes) : overlay block 0 (data.take block.length) = overlay block 0 data := by
  apply List.ext_getElem?
  intro i
  simp only [getElem?_overlay, List.length_take, List.getElem?_take]
  grind

/-- A block is cut out, written over, and put back. If new bytes follow the old ones in it, they do so in
the whole. -/
theorem take_overlay_slice {block content new : Bytes} {offset size at' : Nat} (hblock : offset + size ≤ block.length)
    (hnew : at' + new.length ≤ size)
    (h : (overlay (slice block offset size) 0 content).take (at' + new.length) =
      (slice block offset size).take at' ++ new) :
    (overlay block offset (content.take size)).take (offset + at' + new.length) = block.take (offset + at') ++ new := by
  have hsize : (slice block offset size).length = size := by
    rw [length_slice]
    omega
  have hback :
      overlay block offset (content.take size) =
        overlay block offset (overlay (slice block offset size) 0 content) := by
    have hshort : 0 + (content.take size).length ≤ size := by
      rw [Nat.zero_add]
      exact List.length_take_le _ _
    have hplace := @overlay_slice block (content.take size) offset size 0 hblock hshort
    rw [← overlay_take, hsize, hplace, Nat.add_zero]
  have hwhole : (overlay (slice block offset size) 0 content).length = size := by rw [length_overlay, hsize]
  have hbefore : (block.take offset).length = offset := by
    rw [List.length_take]
    omega
  have hold : (slice block offset size).take at' = (block.drop offset).take at' := by
    rw [slice, List.take_take, Nat.min_eq_left (by omega)]
  rw [hback, overlay_eq, List.take_of_length_le (show _ ≤ block.length - offset by omega), Nat.add_assoc,
    List.take_append, hbefore, Nat.add_sub_cancel_left,
    List.take_of_length_le (show (block.take offset).length ≤ _ by omega),
    List.take_append_of_le_length (by omega), h, hold, ← List.append_assoc, ← List.take_add]

end Bytes

end BusBridge
