import BusBridge.Journal.Trace
/-!
# Reading a frame dump

A frame that passes an endpoint is reported in a line of text: an arrow, and the bytes in hexadecimal digits.
`Passage.ofText?` reads such a line. It accepts exactly the lines that are written (`Passage.ofText?_eq_some`), and no
other notice looks like one (`Passage.marks_text`), so the frames can be read off a log.
-/

namespace BusBridge

namespace Hex

/-- The value of a digit. -/
def nibble? (c : Char) : Option Nat :=
  (List.range 16).find? fun n => digit n = c

/-- The byte of two digits. -/
def byte? (high low : Char) : Option UInt8 := do
  let h ← nibble? high
  let l ← nibble? low
  pure (UInt8.ofNat (16 * h + l))

/-- The bytes of a text that goes on behind a byte. -/
def more? : List Char → Option Bytes
  | [] => some []
  | ' ' :: high :: low :: rest => do
    let b ← byte? high low
    let bytes ← more? rest
    pure (b :: bytes)
  | _ => none

/-- The bytes of a text in which they are separated by one space. -/
def read? : List Char → Option Bytes
  | [] => some []
  | high :: low :: rest => do
    let b ← byte? high low
    let bytes ← more? rest
    pure (b :: bytes)
  | _ => none

theorem nibble?_digit {n : Nat} (h : n < 16) : nibble? (digit n) = some n := by
  revert n
  decide

theorem nibble?_eq_some {c : Char} {n : Nat} : nibble? c = some n ↔ n < 16 ∧ digit n = c := by
  constructor
  · intro h
    have hmem := List.mem_of_find?_eq_some h
    have hdigit := List.find?_some h
    exact ⟨List.mem_range.mp hmem, of_decide_eq_true hdigit⟩
  · rintro ⟨hlt, rfl⟩
    exact nibble?_digit hlt

theorem byte?_eq_some {high low : Char} {b : UInt8} : byte? high low = some b ↔ [high, low] = byte b := by
  have hb := b.toNat_lt
  constructor
  · intro h
    obtain ⟨h₁, hhigh, hrest⟩ := Option.bind_eq_some_iff.mp h
    obtain ⟨l, hlow, hvalue⟩ := Option.bind_eq_some_iff.mp hrest
    obtain ⟨hh, rfl⟩ := nibble?_eq_some.mp hhigh
    obtain ⟨hl, rfl⟩ := nibble?_eq_some.mp hlow
    have hnat : b.toNat = 16 * h₁ + l := by
      cases hvalue
      exact UInt8.toNat_ofNat_of_lt' (by show _ < 256; omega)
    have hquotient : b.toNat / 16 = h₁ := by omega
    have hremainder : b.toNat % 16 = l := by omega
    rw [byte, hquotient, hremainder]
  · intro h
    cases h
    have hvalue : 16 * (b.toNat / 16) + b.toNat % 16 = b.toNat := Nat.div_add_mod _ _
    rw [byte?, nibble?_digit (by omega), nibble?_digit (by omega)]
    show some (UInt8.ofNat (16 * (b.toNat / 16) + b.toNat % 16)) = some b
    rw [hvalue, UInt8.ofNat_toNat]

theorem more?_eq_some {cs : List Char} {bytes : Bytes} :
    more? cs = some bytes ↔ cs = bytes.flatMap fun b => ' ' :: byte b := by
  constructor
  · intro h
    fun_induction more? cs generalizing bytes with
    | case1 =>
      cases h
      rfl
    | case2 high low rest ih =>
      obtain ⟨b, hbyte, hrest⟩ := Option.bind_eq_some_iff.mp h
      obtain ⟨more, hmore, hbytes⟩ := Option.bind_eq_some_iff.mp hrest
      cases hbytes
      rw [ih hmore, List.flatMap_cons, ← byte?_eq_some.mp hbyte]
      rfl
    | case3 => cases h
  · rintro rfl
    induction bytes with
    | nil => rfl
    | cons b bytes ih =>
      show (byte? _ _ >>= fun b => more? (bytes.flatMap fun b => ' ' :: byte b) >>= fun bytes => pure (b :: bytes)) = _
      rw [byte?_eq_some.mpr rfl, ih]
      rfl

theorem read?_eq_some {cs : List Char} {bytes : Bytes} : read? cs = some bytes ↔ cs = spacedChars bytes := by
  constructor
  · intro h
    unfold read? at h
    split at h
    · cases h
      rfl
    · obtain ⟨b, hbyte, hrest⟩ := Option.bind_eq_some_iff.mp h
      obtain ⟨more, hmore, hbytes⟩ := Option.bind_eq_some_iff.mp hrest
      cases hbytes
      rw [more?_eq_some.mp hmore, spacedChars, ← byte?_eq_some.mp hbyte]
      rfl
    · cases h
  · rintro rfl
    cases bytes with
    | nil => rfl
    | cons b bytes =>
      show (byte? _ _ >>= fun b => more? (bytes.flatMap fun b => ' ' :: byte b) >>= fun bytes => pure (b :: bytes)) = _
      rw [byte?_eq_some.mpr rfl, more?_eq_some.mpr rfl]
      rfl

end Hex

/-- A frame that passes an endpoint. -/
inductive Passage where
  | inbound (frame : Bytes)
  | outbound (frame : Bytes)
deriving DecidableEq, Repr

namespace Passage

/-- The report of a frame. -/
def notice : Passage → Notice
  | inbound frame => .frameIn frame
  | outbound frame => .frameOut frame

def text (p : Passage) : String :=
  p.notice.text

/-- The line starts like the report of a frame. -/
def marks (line : String) : Bool :=
  ['<', '-', ' '].isPrefixOf line.toList || ['-', '>', ' '].isPrefixOf line.toList

def ofText? (line : String) : Option Passage :=
  match line.toList with
  | '<' :: '-' :: ' ' :: rest => (Hex.read? rest).map inbound
  | '-' :: '>' :: ' ' :: rest => (Hex.read? rest).map outbound
  | _ => none

theorem toList_text (p : Passage) : p.text.toList =
    match p with
    | inbound frame => '<' :: '-' :: ' ' :: Hex.spacedChars frame
    | outbound frame => '-' :: '>' :: ' ' :: Hex.spacedChars frame := by
  have hspaced (frame : Bytes) : (Hex.spaced frame).toList = Hex.spacedChars frame := String.toList_ofList
  cases p with
  | inbound frame =>
    show ("<- " ++ Hex.spaced frame).toList = _
    rw [String.toList_append, hspaced]
    rfl
  | outbound frame =>
    show ("-> " ++ Hex.spaced frame).toList = _
    rw [String.toList_append, hspaced]
    rfl

/-- A line is read as the frame whose report it is, and as nothing if it is none. -/
theorem ofText?_eq_some {line : String} {p : Passage} : ofText? line = some p ↔ line = p.text := by
  constructor
  · intro h
    apply String.toList_inj.mp
    rw [toList_text]
    unfold ofText? at h
    split at h
    next rest hline =>
      obtain ⟨frame, hread, rfl⟩ := Option.map_eq_some_iff.mp h
      rw [hline, Hex.read?_eq_some.mp hread]
    next rest hline =>
      obtain ⟨frame, hread, rfl⟩ := Option.map_eq_some_iff.mp h
      rw [hline, Hex.read?_eq_some.mp hread]
    next => cases h
  · rintro rfl
    unfold ofText?
    rw [toList_text]
    cases p with
    | inbound frame => exact congrArg (Option.map inbound) (Hex.read?_eq_some.mpr rfl)
    | outbound frame => exact congrArg (Option.map outbound) (Hex.read?_eq_some.mpr rfl)

end Passage

/-- The frame that is reported. -/
def Notice.passage? : Notice → Option Passage
  | frameIn frame => some (.inbound frame)
  | frameOut frame => some (.outbound frame)
  | _ => none

namespace Passage

/-- No other notice looks like the report of a frame. -/
theorem marks_text (n : Notice) : marks n.text = n.passage?.isSome := by
  cases n
  case sendAbandoned | overrun | requestReplaced | requestWaits => rfl
  all_goals
    show marks (_ ++ _) = _
    simp only [marks, String.toList_append]
    rfl

theorem notice_of_passage? {n : Notice} {p : Passage} (h : n.passage? = some p) : n = p.notice := by
  unfold Notice.passage? at h
  split at h <;> cases h <;> rfl

theorem ofText?_text (n : Notice) : ofText? n.text = n.passage? := by
  cases hpassage : n.passage? with
  | some p => exact ofText?_eq_some.mpr (congrArg Notice.text (notice_of_passage? hpassage))
  | none =>
    apply Option.eq_none_iff_forall_ne_some.mpr
    intro p hread
    have hmarks : marks n.text = true := by
      rw [ofText?_eq_some.mp hread, text, marks_text]
      cases p <;> rfl
    rw [marks_text, hpassage] at hmarks
    cases hmarks

end Passage

namespace Event

/-- The line that an event leaves in the log. -/
def line? : Event → Option String
  | notice n => some n.text
  | _ => none

/-- The frame that is reported by an event. -/
def passage? : Event → Option Passage
  | notice n => n.passage?
  | _ => none

/-- The event is not the report of a frame. -/
def isOther (e : Event) : Bool :=
  e.passage?.isNone

/-- The lines of a log that start like the report of a frame are the reports of frames. -/
theorem marked_lines (events : List Event) :
    (events.filterMap line?).filter Passage.marks = (events.filterMap passage?).map Passage.text := by
  induction events with
  | nil => rfl
  | cons e events ih =>
    cases e with
    | notice n =>
      have hmarks := Passage.marks_text n
      cases hpassage : n.passage? with
      | none =>
        rw [hpassage] at hmarks
        simp only [List.filterMap_cons, line?, passage?, hpassage, List.filter_cons, hmarks]
        exact ih
      | some p =>
        rw [hpassage] at hmarks
        simp only [List.filterMap_cons, line?, passage?, hpassage, List.filter_cons, hmarks, List.map_cons]
        rw [ih, Passage.notice_of_passage? hpassage]
        rfl
    | _ => exact ih

/-- The frames can be read off the log. -/
theorem read_lines (events : List Event) :
    (events.filterMap line?).filterMap Passage.ofText? = events.filterMap passage? := by
  rw [List.filterMap_filterMap]
  refine congrArg (List.filterMap · events) ?_
  ext1 e
  cases e with
  | notice n => exact Passage.ofText?_text n
  | _ => rfl

end Event

end BusBridge
