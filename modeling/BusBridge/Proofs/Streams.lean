import BusBridge.Line.Stream
/-!
# What passes through a stream medium

A poll of a `StreamMedium` reads or writes as often as the stream lets it. The laws here say what is
left of that: some bytes `new` passed, in order, at the place where the transfer had got to, and the
poll reports a complete block exactly if they were the last of it. How the stream cut them into
pieces, and how it failed, does not show.

The laws are stated for any property `P` of the stream and of the bytes that passed so far, provided
that each access to the stream keeps it; a `Tap` is one such property (`Tap.readLaw`).
-/

namespace BusBridge

namespace Stream

variable {σ : Type} [Stream σ]

/-- A property of a stream and of the bytes read from it since some moment, kept by every read. -/
structure ReadLaw (P : σ → Bytes → Prop) : Prop where
  ok : ∀ {s s' : σ} {acc bs : Bytes} {want : Nat}, P s acc → read s want = (.ok bs, s') → P s' (acc ++ bs.take want)
  error : ∀ {s s' : σ} {acc : Bytes} {want : Nat} {kind : IoKind}, P s acc → read s want = (.error kind, s') → P s' acc

/-- A property of a stream and of the bytes written to it since some moment, kept by every write and
every flush. -/
structure WriteLaw (P : σ → Bytes → Prop) : Prop where
  ok : ∀ {s s' : σ} {acc bs : Bytes} {count : Nat}, P s acc → write s bs = (.ok count, s') → P s' (acc ++ bs.take count)
  error : ∀ {s s' : σ} {acc bs : Bytes} {kind : IoKind}, P s acc → write s bs = (.error kind, s') → P s' acc
  flush : ∀ {s : σ} {acc : Bytes}, P s acc → P (flush s).value.2 acc

/-- Gathering reads some bytes, at most as many as wanted, and is complete if they are all of them. -/
theorem gather_spec {P : σ → Bytes → Prop} (law : ReadLaw P) (want : Nat) (s : σ) (got acc : Bytes) (h : P s acc) :
    ∃ new, (gather want s got).2.1 = new.reverse ++ got ∧ P (gather want s got).2.2 (acc ++ new) ∧
      new.length ≤ want ∧ ((gather want s got).1 = .complete ↔ new.length = want) := by
  fun_induction gather want s got generalizing acc with
  | case1 s got => exact ⟨[], by simp, by simpa using h, by simp, by simp⟩
  | case2 want s got hwant kind s' hread =>
    exact ⟨[], by simp, by simpa using law.error h hread, by simp, by simp; omega⟩
  | case3 want s got hwant bs s' hread hnone =>
    have hnil : bs.take want = [] := List.eq_nil_of_length_eq_zero hnone
    have hkept := law.ok h hread
    rw [hnil] at hkept
    exact ⟨[], by simp, hkept, by simp, by simp; omega⟩
  | case4 want s got hwant bs s' hread hsome ih =>
    obtain ⟨new, hgot, hP, hle, hcomplete⟩ := ih (acc ++ bs.take want) (law.ok h hread)
    have hpiece : (bs.take want).length ≤ want := List.length_take_le want bs
    refine ⟨bs.take want ++ new, ?_, ?_, ?_, ?_⟩
    · rw [hgot, List.reverse_append, List.append_assoc]
    · simpa only [List.append_assoc] using hP
    · rw [List.length_append]
      omega
    · rw [hcomplete, List.length_append]
      omega

/-- Draining writes some bytes from the front, and is complete if they are all of them. -/
theorem drain_spec {P : σ → Bytes → Prop} (law : WriteLaw P) (rest : Bytes) (s : σ) (given : List Bytes) (acc : Bytes)
    (h : P s acc) :
    ∃ new left, new ++ left = rest ∧ (drain rest s given).2.1.reverse.flatten = given.reverse.flatten ++ new ∧
      P (drain rest s given).2.2 (acc ++ new) ∧ ((drain rest s given).1 = .complete ↔ left = []) := by
  fun_induction drain rest s given generalizing acc with
  | case1 rest s given hnil =>
    have hnil : rest = [] := by simpa using hnil
    exact ⟨[], [], by simp [hnil], by simp, by simpa using h, by simp⟩
  | case2 rest s given hsome kind s' hwrite =>
    have hsome : rest ≠ [] := by simpa using hsome
    exact ⟨[], rest, by simp, by simp, by simpa using law.error h hwrite, by simp [hsome]⟩
  | case3 rest s given hsome s' hwrite =>
    have hsome : rest ≠ [] := by simpa using hsome
    exact ⟨[], rest, by simp, by simp, by simpa using law.ok h hwrite, by simp [hsome]⟩
  | case4 rest s given hsome count s' hwrite hcount ih =>
    obtain ⟨new, left, hrest, hgiven, hP, hcomplete⟩ := ih (acc ++ rest.take count) (law.ok h hwrite)
    refine ⟨rest.take count ++ new, left, ?_, ?_, ?_, hcomplete⟩
    · rw [List.append_assoc, hrest, List.take_append_drop]
    · rw [hgiven]
      simp
    · simpa only [List.append_assoc] using hP

end Stream

namespace StreamMedium

variable {σ : Type} [Stream σ]

theorem toPoll_eq_true {empty : IoKind} {halt : Halt} : halt.toPoll empty = .ok true ↔ halt = .complete := by
  cases halt with
  | complete => simp [Halt.toPoll]
  | nothing => simp [Halt.toPoll]
  | failed kind =>
    simp only [Halt.toPoll]
    split <;> simp

/-- A poll puts the next bytes of the stream where the reception had got to. -/
theorem pollReceive_spec {P : σ → Bytes → Prop} (law : Stream.ReadLaw P) (m : StreamMedium σ) (block acc : Bytes)
    (h : P m.stream acc) :
    ∃ result new stream, Medium.pollReceive m block =
        (result, Bytes.overlay block m.received new, { m with stream, received := m.received + new.length }) ∧
      P stream (acc ++ new) ∧ new.length ≤ block.length - m.received ∧
      (result = .ok true ↔ new.length = block.length - m.received) := by
  obtain ⟨new, hgot, hP, hle, hcomplete⟩ := Stream.gather_spec law (block.length - m.received) m.stream [] acc h
  rcases hgather : Stream.gather (block.length - m.received) m.stream [] with ⟨halt, got, stream⟩
  simp only [hgather, List.append_nil] at hgot hP hcomplete
  refine ⟨halt.toPoll .unexpectedEof, new, stream, ?_, hP, hle, ?_⟩
  · simp only [Medium.pollReceive, pollReceive, hgather, hgot, List.reverse_reverse, List.length_reverse]
  · rw [toPoll_eq_true, hcomplete]

/-- A poll hands the next bytes of the block to the stream. A frame that is all there and flushed is
sent. -/
theorem pollSend_spec {P : σ → Bytes → Prop} (law : Stream.WriteLaw P) (m : StreamMedium σ) (block acc : Bytes)
    (h : P m.stream acc) :
    ∃ result new left stream, (Medium.pollSend m block).value =
        (result, { m with stream, sent := m.sent + new.length }) ∧
      P stream (acc ++ new) ∧ new ++ left = block.drop m.sent ∧ (result = .ok true → left = []) ∧
      ((∀ s : σ, (Stream.flush s).value.1 = .ok ()) → left = [] → result = .ok true) := by
  obtain ⟨new, left, hrest, hgiven, hP, hcomplete⟩ := Stream.drain_spec law (block.drop m.sent) m.stream [] acc h
  rcases hdrain : Stream.drain (block.drop m.sent) m.stream [] with ⟨halt, given, stream⟩
  simp only [hdrain, List.reverse_nil, List.flatten_nil, List.nil_append] at hgiven hP hcomplete
  have hsent : given.flatten.length = new.length := by
    rw [← hgiven]
    simp only [List.length_flatten, List.map_reverse, List.sum_reverse]
  by_cases hhalt : halt = .complete
  · subst hhalt
    have hleft : left = [] := hcomplete.mp rfl
    refine ⟨(Halt.ofFlush (Stream.flush stream).value.1).toPoll .writeZero, new, left, (Stream.flush stream).value.2,
      ?_, law.flush hP, hrest, fun _ => hleft, fun hflush _ => ?_⟩
    · simp only [Medium.pollSend, pollSend, hdrain, hsent, Trace.value_bind, Trace.value_pure]
    · rw [hflush]
      rfl
  · refine ⟨halt.toPoll .writeZero, new, left, stream, ?_, hP, hrest, fun hsent => ?_, fun _ hleft => ?_⟩
    · cases halt with
      | complete => exact absurd rfl hhalt
      | nothing | failed kind => simp only [Medium.pollSend, pollSend, hdrain, hsent, Trace.value_pure]
    · exact absurd (toPoll_eq_true.mp hsent) hhalt
    · exact absurd (hcomplete.mpr hleft) hhalt

end StreamMedium

/-! ## Taps -/

namespace Tap

variable {σ : Type} [Stream σ]

/-- A tap knows what was read from it. -/
theorem readLaw (before : Bytes) : Stream.ReadLaw fun (t : Tap σ) acc => t.taken = before ++ acc where
  ok {s s' acc bs want} h hread := by
    simp only [Stream.read] at hread
    split at hread
    next bytes stream hinner =>
      cases hread
      simp only [taken] at h ⊢
      simp [h, List.take_take]
    next kind stream hinner => cases hread
  error {s s' acc want kind} h hread := by
    simp only [Stream.read] at hread
    split at hread
    next bytes stream hinner => cases hread
    next kind stream hinner =>
      cases hread
      exact h

/-- Writing takes nothing from a tap. -/
theorem writeLaw (before : Bytes) : Stream.WriteLaw fun (t : Tap σ) _ => t.taken = before where
  ok {s s' acc bs count} h hwrite := by
    simp only [Stream.write] at hwrite
    split at hwrite
    next count stream hinner =>
      cases hwrite
      simpa [taken] using h
    next kind stream hinner => cases hwrite
  error {s s' acc bs kind} h hwrite := by
    simp only [Stream.write] at hwrite
    split at hwrite
    next count stream hinner => cases hwrite
    next kind stream hinner =>
      cases hwrite
      exact h
  flush {s acc} h := by
    simp only [Stream.flush, Trace.value_bind]
    split
    next stream hinner => simpa [taken] using h
    next kind stream hinner => exact h

end Tap

end BusBridge
