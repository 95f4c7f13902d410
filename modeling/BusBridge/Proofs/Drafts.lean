import BusBridge.Proofs.Blocks
import BusBridge.Wire.Cursor
/-!
# What a draft holds

The view of a draft is what was written so far, `Draft.written`, and what still stands in the space left,
`Draft.remaining`. Appending bytes that fit adds them to the one and takes as many from the other
(`Draft.put_eq`, `Draft.putAll_fits`); bytes that do not fit are refused, and the size of the block stays
(`Draft.putAll_full`). So a list of pieces is accepted exactly if all of it fits, and it does not matter how
the bytes are cut into pieces.
-/

namespace BusBridge

namespace Draft

theorem space_add_length (d : Draft) : d.length + d.space = d.block.length := by
  have hle := d.length_le
  simp only [space]
  omega

theorem length_written (d : Draft) : d.written.length = d.length := by
  rw [written, List.length_take, Nat.min_eq_left d.length_le]

@[simp] theorem written_start (block : Bytes) : (start block).written = [] := rfl

@[simp] theorem space_start (block : Bytes) : (start block).space = block.length := rfl

theorem length_remaining (d : Draft) : d.remaining.length = d.space := by
  rw [remaining, List.length_drop, space]

/-- The size of the block can be read off the view. -/
theorem length_block (d : Draft) : d.block.length = d.written.length + d.remaining.length := by
  rw [length_written, length_remaining, space_add_length]

theorem block_eq (d : Draft) : d.block = d.written ++ d.remaining :=
  (List.take_append_drop d.length d.block).symm

/-- What is put into the space left is not written. -/
theorem written_fill (d : Draft) (data : Bytes) : (d.fill data).written = d.written := by
  have hlength : (d.block.take d.length).length = d.length := d.length_written
  show (Bytes.overlay d.block d.length data).take d.length = d.block.take d.length
  rw [Bytes.overlay_eq, List.take_append_of_le_length (Nat.le_of_eq hlength.symm), List.take_take, Nat.min_self]

theorem remaining_fill (d : Draft) (data : Bytes) : (d.fill data).remaining = Bytes.overlay d.remaining 0 data := by
  have hlength : (d.block.take d.length).length = d.length := d.length_written
  have hspace : (d.block.drop d.length).length = d.block.length - d.length := List.length_drop
  show (Bytes.overlay d.block d.length data).drop d.length = Bytes.overlay (d.block.drop d.length) 0 data
  rw [Bytes.overlay_eq, Bytes.overlay_eq, List.drop_left' hlength, hspace, List.drop_drop, List.take_zero,
    List.nil_append, Nat.zero_add, Nat.sub_zero]

/-- Bytes that fit are put after what was written. -/
theorem put_eq {d : Draft} {bytes : Bytes} (h : bytes.length ≤ d.space) :
    ∃ d', d.put bytes = .ok d' ∧ d'.written = d.written ++ bytes ∧ d'.remaining = d.remaining.drop bytes.length := by
  have hroom := d.space_add_length
  have hfill : bytes.length ≤ (d.fill bytes).space := by
    simpa only [fill, space, Bytes.length_overlay] using h
  refine ⟨⟨Bytes.overlay d.block d.length bytes, d.length + bytes.length, by rw [Bytes.length_overlay]; omega⟩, ?_, ?_,
    ?_⟩
  · simp only [put, if_pos h, advance, dif_pos hfill]
    rfl
  · exact Bytes.take_overlay (by omega)
  · rw [remaining, remaining, List.drop_drop]
    exact Bytes.drop_overlay

theorem put_full {d : Draft} {bytes : Bytes} (h : d.space < bytes.length) : d.put bytes = .error {} := by
  rw [put, if_neg (Nat.not_le_of_lt h)]

/-- Bytes of the space left that are counted are written as they stand there. -/
theorem advance_eq {d : Draft} {size : Nat} (h : size ≤ d.space) :
    ∃ d', d.advance size = .ok d' ∧ d'.written = d.written ++ d.remaining.take size ∧
      d'.remaining = d.remaining.drop size := by
  refine ⟨_, dif_pos h, ?_, ?_⟩
  · show d.block.take (d.length + size) = d.block.take d.length ++ (d.block.drop d.length).take size
    exact List.take_add
  · exact (List.drop_drop ..).symm

theorem advance_full {d : Draft} {size : Nat} (h : d.space < size) : d.advance size = .error {} :=
  dif_neg (Nat.not_le_of_lt h)

/-- Bytes that were put into the space left and then counted are appended. -/
theorem advance_fill {d : Draft} {data : Bytes} (h : data.length ≤ d.space) :
    (d.fill data).advance data.length = d.put data := by
  rw [put, if_pos h]

/-- Pieces that fit together are all written. -/
theorem putAll_fits {d : Draft} {pieces : List Bytes} (h : pieces.flatten.length ≤ d.space) :
    ∃ d', d.putAll pieces = (.ok (), d') ∧ d'.written = d.written ++ pieces.flatten ∧
      d'.remaining = d.remaining.drop pieces.flatten.length := by
  induction pieces generalizing d with
  | nil => exact ⟨d, rfl, by rw [List.flatten_nil, List.append_nil], rfl⟩
  | cons piece rest ih =>
    rw [List.flatten_cons, List.length_append] at h
    obtain ⟨d₁, hput, hwritten, hremaining⟩ := put_eq (Nat.le_trans (Nat.le_add_right _ _) h)
    have hspace : d₁.space = d.space - piece.length := by
      rw [← length_remaining, hremaining, List.length_drop, length_remaining]
    obtain ⟨d', hall, hwritten', hremaining'⟩ := ih (show rest.flatten.length ≤ d₁.space by omega)
    refine ⟨d', ?_, ?_, ?_⟩
    · rw [putAll, hput]
      exact hall
    · rw [hwritten', hwritten, List.flatten_cons, List.append_assoc]
    · rw [hremaining', hremaining, List.drop_drop, List.flatten_cons, List.length_append]

/-- Pieces that do not fit together are refused, though some of them may have been written. -/
theorem putAll_full {d : Draft} {pieces : List Bytes} (h : d.space < pieces.flatten.length) :
    ∃ d', d.putAll pieces = (.error {}, d') ∧ d'.block.length = d.block.length := by
  induction pieces generalizing d with
  | nil => exact absurd h (Nat.not_lt_zero _)
  | cons piece rest ih =>
    rw [List.flatten_cons, List.length_append] at h
    by_cases hfit : piece.length ≤ d.space
    · obtain ⟨d₁, hput, hwritten, hremaining⟩ := put_eq hfit
      have hspace : d₁.space = d.space - piece.length := by
        rw [← length_remaining, hremaining, List.length_drop, length_remaining]
      have hblock : d₁.block.length = d.block.length := by
        rw [length_block, hwritten, List.length_append, length_remaining, hspace, d.length_block, length_remaining]
        omega
      obtain ⟨d', hall, hblock'⟩ := ih (show d₁.space < rest.flatten.length by omega)
      refine ⟨d', ?_, hblock'.trans hblock⟩
      rw [putAll, hput]
      exact hall
    · refine ⟨d, ?_, rfl⟩
      rw [putAll, put_full (Nat.lt_of_not_le hfit)]

/-- A payload is written as a whole or not at all. -/
theorem encode_cases (d : Draft) (pieces : List Bytes) :
    (pieces.flatten.length ≤ d.space ∧ ∃ d', d.encode pieces = (.ok (), d') ∧
        d'.written = d.written ++ pieces.flatten) ∨
      (d.space < pieces.flatten.length ∧ ∃ d', d.encode pieces = (.error {}, d')) := by
  by_cases h : pieces.flatten.length ≤ d.space
  · obtain ⟨d', hall, hwritten, _⟩ := putAll_fits h
    exact .inl ⟨h, d', by rw [encode, hall], hwritten⟩
  · obtain ⟨d', hall, _⟩ := putAll_full (Nat.lt_of_not_le h)
    exact .inr ⟨Nat.lt_of_not_le h, _, by rw [encode, hall]⟩

/-- A payload that fits is written over the start of the block. -/
theorem encode_start {block : Bytes} {pieces : List Bytes} (h : pieces.flatten.length ≤ block.length) :
    ∃ d, (start block).encode pieces = (.ok (), d) ∧ d.length = pieces.flatten.length ∧
      d.block = pieces.flatten ++ block.drop pieces.flatten.length := by
  obtain ⟨d, hall, hwritten, hremaining⟩ := putAll_fits (d := start block) h
  rw [written_start, List.nil_append] at hwritten
  refine ⟨d, by rw [encode, hall], by rw [← length_written, hwritten], ?_⟩
  calc d.block = d.written ++ d.remaining := d.block_eq
    _ = pieces.flatten ++ block.drop pieces.flatten.length := by
      rw [hwritten, hremaining]
      rfl

end Draft

end BusBridge
