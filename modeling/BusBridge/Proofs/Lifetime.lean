import Mathlib
import BusBridge.Bench.Timetable
import BusBridge.Proofs.Delivery
import BusBridge.Proofs.TimedCalls
/-!
# The life of a timed caller

A call over a stream in time may be cut off at every wait: while a frame is written or flushed, while the input that is
already there is dropped, and while a response is received. The caller counts the bytes of both armed blocks itself, and
the next call goes on from there. So nothing is lost over any number of calls, however they end
(`TimedCaller.cancellation_loses_nothing`): the bytes on the wire are the frames of the calls that started one, and the
messages that the slot was given are the frames that were read.

Sending and receiving are kept apart. Receiving leaves the emission as it is (`TimedCaller.Still`), and sending keeps
`TimedCaller.Writes`. The slot is watched through `Recorded`, and each piece of a call keeps `TimedCaller.Follows`.
-/

namespace BusBridge

open Framing

/-- No write accepts more than it is offered. -/
def TimedStream.Modest (τ : Type) [TimedStream τ] : Prop :=
  ∀ (s : τ) (deadline : Nat) (bytes : Bytes) {count : Nat} {s' : τ},
    TimedStream.write s deadline bytes = (some (.ok count), s') → count ≤ bytes.length

namespace Tap

variable {τ : Type} [TimedStream τ]

theorem modest (h : TimedStream.Modest τ) : TimedStream.Modest (Tap τ) := by
  intro t deadline bytes count t' hwrite
  simp only [TimedStream.write] at hwrite
  split at hwrite
  next count' stream hinner =>
    cases hwrite
    exact h _ _ _ hinner
  next result stream hother _ =>
    cases hwrite
    exact absurd rfl (hother count)

/-- A tap knows what was written to it. -/
theorem write_given (t : Tap τ) (deadline : Nat) (bytes : Bytes) :
    (TimedStream.write t deadline bytes).2.given =
      t.given ++ bytes.take (countOf (TimedStream.write t deadline bytes).1) := by
  simp only [TimedStream.write]
  split
  next count stream hinner => simp [given, countOf]
  next result stream hother hinner =>
    have hnone : countOf result = 0 := by
      rcases result with _ | _ | count
      · rfl
      · rfl
      · exact absurd rfl (hother count)
    rw [hnone, List.take_zero, List.append_nil]
    rfl

theorem read_given (t : Tap τ) (deadline want : Nat) : (TimedStream.read t deadline want).2.given = t.given := by
  simp only [TimedStream.read]
  split
  next => simp [given]
  next => rfl

theorem flush_given (t : Tap τ) (deadline : Nat) : (TimedStream.flush t deadline).value.2.given = t.given := by
  simp only [TimedStream.flush, Trace.value_bind]
  split
  next => simp [given]
  next => rfl

end Tap

/-- A scripted stream accepts the front of what it is offered. -/
theorem Bench.Timetable.modest : TimedStream.Modest Bench.Timetable := by
  have htake : ∀ (t : Bench.Timetable) (bytes : Bytes) (limit : Nat) {count : Nat} {t' : Bench.Timetable},
      t.take bytes limit = (some (.ok count), t') → count ≤ bytes.length := by
    intro t bytes limit count t' h
    cases h
    exact List.length_take_le' limit bytes
  intro t deadline bytes count t' hwrite
  simp only [TimedStream.write, Bench.Timetable.write] at hwrite
  split at hwrite
  · exact htake _ _ _ hwrite
  · split at hwrite
    · cases hwrite
    · split at hwrite
      · exact htake _ _ _ hwrite
      · exact htake _ _ _ hwrite
      · cases hwrite

/-! ## A slot under watch -/

namespace Recorded

variable {η : Type}

instance [KeepsSlot η] : KeepsSlot (Recorded η) where
  slot r := KeepsSlot.slot r.handler
  setSlot r s := { r with handler := KeepsSlot.setSlot r.handler s }
  slot_setSlot _ _ := KeepsSlot.slot_setSlot _ _
  setSlot_slot r := by rw [KeepsSlot.setSlot_slot]
  setSlot_setSlot r s t := by rw [KeepsSlot.setSlot_setSlot]

variable [Handler η] [ListensOnly η]

instance : ListensOnly (Recorded η) where
  hear r m := ⟨ListensOnly.hear r.handler m, r.messages ++ [m]⟩
  onMessage r m l := Run.result_bind_eq_ok.mpr ⟨_, ListensOnly.onMessage r.handler m l, rfl⟩
  onSent r l := Run.result_bind_eq_ok.mpr ⟨_, ListensOnly.onSent r.handler l, rfl⟩

theorem foldl_hear_messages (messages : List Message) (r : Recorded η) :
    (messages.foldl ListensOnly.hear r).messages = r.messages ++ messages := by
  induction messages generalizing r with
  | nil => exact (List.append_nil _).symm
  | cons m rest ih =>
    rw [List.foldl_cons, ih]
    exact List.append_assoc r.messages [m] rest

end Recorded

namespace TimedCaller

variable {n : Nat} {τ η : Type}

section

variable {c c' : TimedCaller n (Tap τ) (Recorded η)}

/-- The endpoint stands in its frame where the bytes end, and the handler was given the messages that they hold and that
fit. -/
structure Follows (c : TimedCaller n (Tap τ) (Recorded η)) : Prop where
  tracks : c.Tracks
  messages : c.endpoint.handler.messages = fitting (n - Header.size) c.taken

theorem Follows.listens [Handler η] [ListensOnly η] (h : c.Follows) (hlistens : c.Listens c') : c'.Follows := by
  obtain ⟨messages, htaken, hhandler⟩ := hlistens.heard.messages
  refine ⟨hlistens.tracks, ?_⟩
  rw [hhandler, Recorded.foldl_hear_messages, h.messages, htaken]

theorem Follows.quiet [Handler η] [ListensOnly η] (h : c.Follows) (hquiet : c.Quiet c') : c'.Follows :=
  h.listens (hquiet.listens h.tracks)

theorem Follows.setSlot [KeepsSlot η] (h : c.Follows) (slot : ResponseSlot) : (c.setSlot slot).Follows :=
  ⟨h.tracks.setSlot slot, h.messages⟩

end

/-! ## The wire -/

/-- The bytes written to the stream. -/
def given (c : TimedCaller n (Tap τ) η) : Bytes :=
  c.stream.given

/-- `frames` are on the wire one after the other, except for the one on the link, which is there as far as it is
counted and never as a whole. -/
structure Writes (c : TimedCaller n (Tap τ) η) (frames : List Bytes) : Prop where
  wire : ∃ done, frames = done ++ c.armed?.toList ∧ c.given = done.flatten ++ (c.armed?.getD []).take c.sent
  part : ∀ frame, c.armed? = some frame → c.sent < frame.length
  idle : c.armed? = none → c.sent = 0

/-- The second caller is the first one but for its reception. -/
structure Still (c c' : TimedCaller n (Tap τ) η) : Prop where
  armed : c'.armed? = c.armed?
  sent : c'.sent = c.sent
  given : c'.given = c.given

variable {c c₁ c' : TimedCaller n (Tap τ) η} {rounds deadline : Nat} {frames : List Bytes}

theorem Still.refl : c.Still c :=
  ⟨rfl, rfl, rfl⟩

theorem Still.trans (h₁ : c.Still c₁) (h₂ : c₁.Still c') : c.Still c' :=
  ⟨h₂.armed.trans h₁.armed, h₂.sent.trans h₁.sent, h₂.given.trans h₁.given⟩

theorem Writes.still (h : c.Writes frames) (hstill : c.Still c') : c'.Writes frames := by
  refine ⟨?_, ?_, ?_⟩
  · rw [hstill.armed, hstill.sent, hstill.given]
    exact h.wire
  · rw [hstill.armed, hstill.sent]
    exact h.part
  · rw [hstill.armed, hstill.sent]
    exact h.idle

/-- A reset, or any other change of the slot. -/
theorem Still.setSlot [KeepsSlot η] (slot : ResponseSlot) : c.Still (c.setSlot slot) :=
  ⟨rfl, rfl, rfl⟩

/-- The frames that were started, after another call was begun. -/
def begun (frames : List Bytes) (channel : UInt8) (r : Request) : Except Interruption Unit → List Bytes
  | .ok _ => frames ++ [(r.message channel).frame]
  | .error _ => frames

theorem begin_writes [KeepsSlot η] {channel : UInt8} {r : Request} {result : Except Interruption Unit}
    (hn : Header.size < n) (h : c.Writes frames) (hrun : (c.begin channel r).result = .ok (result, c')) :
    c'.Writes (begun frames channel r result) := by
  obtain ⟨⟨sent, link⟩, hsend, hrest⟩ := Run.result_bind_eq_ok.mp hrun
  have hsame : c'.armed? = link.armed? ∧ c'.sent = c.sent ∧ c'.given = c.given := by
    cases hrest
    exact ⟨rfl, rfl, rfl⟩
  obtain ⟨harmed, hsent, hgiven⟩ := hsame
  obtain ⟨rfl, hstarts⟩ | ⟨⟨error, rfl⟩, hdeclines⟩ := Link.sendRequest_cases hn hsend
  · cases hrest
    have hidle : c.armed? = none := Link.armed?_idle hstarts.idle
    obtain ⟨done, hframes, hwire⟩ := h.wire
    rw [hidle, Option.toList_none, List.append_nil] at hframes
    rw [hidle, Option.getD_none, List.take_nil, List.append_nil] at hwire
    rw [hstarts.armed] at harmed
    rw [h.idle hidle] at hsent
    refine ⟨⟨done, ?_, ?_⟩, ?_, ?_⟩
    · rw [harmed, hframes]
      rfl
    · rw [hgiven, hwire, hsent, List.take_zero, List.append_nil]
    · intro frame hframe
      cases harmed.symm.trans hframe
      rw [hsent]
      exact List.length_pos_iff.mpr (frame_ne_nil _)
    · intro hnone
      rw [harmed] at hnone
      cases hnone
  · cases hrest
    have hidle : c.armed? = none := Link.armed?_idle hdeclines.idle
    exact h.still ⟨(harmed.trans (Link.armed?_idle hdeclines.left)).trans hidle.symm, hsent, hgiven⟩

variable [TimedStream τ]

theorem fillTurn_still {turn : Turn (TimedCaller n (Tap τ) η) (Except Interruption Unit × TimedCaller n (Tap τ) η)}
    (h : (fillTurn deadline c).result = .ok turn) :
    match turn with
    | .again c' => c.Still c'
    | .done r => c.Still r.2 := by
  unfold fillTurn at h
  split at h
  · cases h
    exact .refl
  · have hgiven := Tap.read_given c.stream deadline (c.endpoint.armedSize - c.received)
    rcases hread : TimedStream.read c.stream deadline (c.endpoint.armedSize - c.received) with ⟨result, stream⟩
    simp only [hread] at h hgiven
    rcases result with _ | kind | bytes
    · cases h
      exact ⟨rfl, rfl, hgiven⟩
    · cases h
      exact ⟨rfl, rfl, hgiven⟩
    · simp only at h
      split at h
      · cases h
        exact ⟨rfl, rfl, hgiven⟩
      · cases h
        exact ⟨rfl, rfl, hgiven⟩

variable [Handler η] [ListensOnly η]

/-- Receiving leaves the emission as it is. -/
theorem receive_still {result : Except Interruption Unit} (h : (c.receive rounds deadline).result = .ok (result, c')) :
    c.Still c' := by
  obtain ⟨⟨filled, c₁⟩, hfill, hrest⟩ := Run.result_bind_eq_ok.mp h
  have hstill : c.Still c₁ := by
    refine Run.loop_induction (fun c₁ => c.Still c₁) (fun r => c.Still r.2) ?_ ?_ .refl hfill
    · intro c₁ c₂ h₁ hturn
      exact h₁.trans (fillTurn_still hturn)
    · intro c₁ r h₁ hturn
      exact h₁.trans (fillTurn_still hturn)
  cases filled with
  | error stop =>
    cases hrest
    exact hstill
  | ok _ =>
    obtain ⟨⟨report, e⟩, hreport, hlast⟩ := Run.result_bind_eq_ok.mp hrest
    have hreported : c₁.Still { c₁ with endpoint := e, received := 0 } :=
      ⟨Endpoint.blockReceived_armed hreport, rfl, rfl⟩
    cases report <;> cases hlast <;> exact hstill.trans hreported

/-- A turn of sending writes some more of the frame on the link. -/
theorem sendTurn_writes (hmodest : TimedStream.Modest τ) (h : c.Writes frames)
    {turn : Turn (TimedCaller n (Tap τ) η) (Except Interruption Unit × TimedCaller n (Tap τ) η)}
    (hturn : (sendTurn deadline c).result = .ok turn) :
    match turn with
    | .again c' => c'.Writes frames
    | .done r => r.2.Writes frames := by
  obtain ⟨done, hframes, hwire⟩ := h.wire
  have hgiven : ∀ {frame result stream},
      TimedStream.write c.stream deadline (List.drop c.sent frame) = (result, stream) →
      stream.given = c.given ++ (frame.drop c.sent).take (Tap.countOf result) := by
    intro frame result stream hwrite
    have hgiven := Tap.write_given c.stream deadline (frame.drop c.sent)
    rwa [hwrite] at hgiven
  cases sendTurn_cases hturn with
  | idle => exact h
  | @stops frame _ stream _ harmed hwrite hnone =>
    have hsame := hgiven hwrite
    rw [hnone, List.take_zero, List.append_nil] at hsame
    exact h.still ⟨rfl, rfl, hsame⟩
  | @more frame count stream harmed hwrite hpart =>
    have harmed : c.armed? = some frame := harmed
    have hlt := h.part frame harmed
    have hcount := Tap.modest hmodest _ _ _ hwrite
    rw [List.length_drop] at hcount
    have harmed' : ({ c with stream, sent := c.sent + count } : TimedCaller n (Tap τ) η).armed? = some frame := harmed
    refine ⟨⟨done, by rw [hframes, harmed, harmed'], ?_⟩, ?_, ?_⟩
    · show stream.given = _
      rw [hgiven hwrite, hwire, harmed, harmed', Option.getD_some, List.append_assoc, ← List.take_add]
      rfl
    · intro frame' hframe'
      cases harmed'.symm.trans hframe'
      show c.sent + count < frame.length
      omega
    · intro hnone
      rw [harmed'] at hnone
      cases hnone
  | @whole frame count stream flushed stream' _ harmed hwrite hfull hflush hturn =>
    have harmed : c.armed? = some frame := harmed
    have hall : (frame.drop c.sent).take count = frame.drop c.sent :=
      List.take_of_length_le (by rw [List.length_drop]; omega)
    have hflushed := Tap.flush_given stream deadline
    rw [hflush] at hflushed
    have hcomplete : (c.complete stream').Writes frames := by
      refine ⟨⟨done ++ [frame], ?_, ?_⟩, ?_, fun _ => rfl⟩
      · rw [hframes, harmed]
        exact (List.append_nil _).symm
      · show stream'.given = (done ++ [frame]).flatten ++ List.take 0 []
        rw [hflushed, hgiven hwrite, hwire, harmed, Option.getD_some, Tap.countOf, hall, List.append_assoc,
          List.take_append_drop, List.flatten_append, List.flatten_singleton, List.take_nil, List.append_nil]
      · intro frame' hframe'
        cases hframe'
    obtain rfl | ⟨stop, rfl⟩ := hturn
    · exact hcomplete
    · exact hcomplete

theorem sendFrame_writes {result : Except Interruption Unit} (hmodest : TimedStream.Modest τ) (h : c.Writes frames)
    (hrun : (c.sendFrame rounds deadline).result = .ok (result, c')) : c'.Writes frames := by
  refine Run.loop_induction (fun c₁ => c₁.Writes frames) (fun r => r.2.Writes frames) ?_ ?_ h hrun
  · intro c₁ c₂ h₁ hturn
    exact sendTurn_writes hmodest h₁ hturn
  · intro c₁ r h₁ hturn
    exact sendTurn_writes hmodest h₁ hturn

/-! ## Calls -/

variable [KeepsSlot η]

theorem dropInput_still {result : Except Interruption Unit}
    (h : (c.dropInput rounds deadline).result = .ok (result, c')) : c.Still c' := by
  refine Run.loop_induction (fun c₁ => c.Still c₁) (fun r => c.Still r.2) ?_ ?_ (.setSlot _) h
  · intro c₁ c₂ h₁ hturn
    exact h₁.trans (receive_still (dropTurn_cases hturn))
  · intro c₁ r h₁ hturn
    obtain ⟨stop, hreceive⟩ := dropTurn_cases hturn
    exact h₁.trans (receive_still hreceive)

theorem await_still {result : Except Interruption Message} (h : (c.await rounds deadline).result = .ok (result, c')) :
    c.Still c' := by
  refine Run.loop_induction (fun c₁ => c.Still c₁) (fun r => c.Still r.2) ?_ ?_ .refl h
  · intro c₁ c₂ h₁ hturn
    exact h₁.trans (receive_still (awaitTurn_cases hturn))
  · intro c₁ r h₁ hturn
    obtain ⟨m, _, rfl⟩ | ⟨stop, c₂, hreceive, rfl⟩ := awaitTurn_cases hturn
    · exact h₁.trans (.setSlot _)
    · exact h₁.trans (receive_still hreceive)

section Call

variable {channel : UInt8} {r : Request}

/-- The frame that a call starts if it is made now. -/
def started (rounds : Nat) (c : TimedCaller n (Tap τ) η) (channel : UInt8) (r : Request) : List Bytes :=
  match (c.prepare rounds channel r).result with
  | .ok (.ok _, _) => [(r.message channel).frame]
  | _ => []

theorem prepare_writes {result : Except Interruption Unit} (hmodest : TimedStream.Modest τ) (hn : Header.size < n)
    (h : c.Writes frames) (hrun : (c.prepare rounds channel r).result = .ok (result, c')) :
    c'.Writes (begun frames channel r result) := by
  cases prepare_cases hrun with
  | unsent hsend => exact sendFrame_writes hmodest h hsend
  | undropped hsend hdrop => exact (sendFrame_writes hmodest h hsend).still (dropInput_still hdrop)
  | begun hsend hdrop hbegin =>
    exact begin_writes hn ((sendFrame_writes hmodest h hsend).still (dropInput_still hdrop)) hbegin

/-- When a frame is started, those before it are on the wire as a whole, and nothing of it is. -/
theorem prepare_wire (hmodest : TimedStream.Modest τ) (h : c.Writes frames)
    (hrun : (c.prepare rounds channel r).result = .ok (.ok (), c')) : c'.given = frames.flatten := by
  cases prepare_cases hrun with
  | begun hsend hdrop hbegin =>
    have hstill := dropInput_still hdrop
    obtain ⟨done, hframes, hwire⟩ := ((sendFrame_writes hmodest h hsend).still hstill).wire
    rw [hstill.armed, sendFrame_idle hsend] at hframes hwire
    rw [Option.toList_none, List.append_nil] at hframes
    rw [Option.getD_none, List.take_nil, List.append_nil, ← hframes] at hwire
    obtain ⟨_, _, hrest⟩ := Run.result_bind_eq_ok.mp hbegin
    have hcaller := (Prod.mk.inj (Except.ok.inj hrest)).2
    rw [← hcaller]
    exact hwire

/-- A call adds its frame to those that were started, if it starts it. -/
theorem call_writes {result : Except CallError Message} (hmodest : TimedStream.Modest τ) (hn : Header.size < n)
    (h : c.Writes frames) (hrun : (c.call rounds channel r).result = .ok (result, c')) :
    c'.Writes (frames ++ c.started rounds channel r) := by
  obtain ⟨⟨exchanged, c₂⟩, hexchange, hrest⟩ := Run.result_bind_eq_ok.mp hrun
  have hstill : c₂.Still c' := by
    rcases exchanged with stop | m
    · cases stop <;> cases hrest <;> exact .setSlot _
    · cases hrest
      exact .refl
  refine Writes.still ?_ hstill
  cases exchange_cases hexchange with
  | unprepared hprepare =>
    have hwrites := prepare_writes hmodest hn h hprepare
    rw [started, hprepare]
    exact (List.append_nil frames).symm ▸ hwrites
  | unsent hprepare hsend =>
    have hwrites := prepare_writes hmodest hn h hprepare
    rw [started, hprepare]
    exact sendFrame_writes hmodest hwrites hsend
  | awaited hprepare hsend hawait =>
    have hwrites := prepare_writes hmodest hn h hprepare
    rw [started, hprepare]
    exact (sendFrame_writes hmodest hwrites hsend).still (await_still hawait)

end Call

section Watch

variable {c c' : TimedCaller n (Tap τ) (Recorded η)} {channel : UInt8} {r : Request}

theorem prepare_follows {result : Except Interruption Unit} (hn : Header.size < n) (h : c.Follows)
    (hrun : (c.prepare rounds channel r).result = .ok (result, c')) : c'.Follows := by
  cases prepare_cases hrun with
  | unsent hsend => exact h.quiet (sendFrame_quiet hsend)
  | undropped hsend hdrop =>
    have hsent := h.quiet (sendFrame_quiet hsend)
    exact (hsent.setSlot _).listens (dropInput_listens hn hsent.tracks hdrop)
  | begun hsend hdrop hbegin =>
    have hsent := h.quiet (sendFrame_quiet hsend)
    have hdropped := (hsent.setSlot _).listens (dropInput_listens hn hsent.tracks hdrop)
    exact (hdropped.setSlot _).quiet (begin_quiet hbegin)

/-- However a call ends, the messages that it read were given to the handler. -/
theorem call_follows {result : Except CallError Message} (hn : Header.size < n) (h : c.Follows)
    (hrun : (c.call rounds channel r).result = .ok (result, c')) : c'.Follows := by
  obtain ⟨⟨exchanged, c₂⟩, hexchange, hrest⟩ := Run.result_bind_eq_ok.mp hrun
  have hexchanged : c₂.Follows := by
    cases exchange_cases hexchange with
    | unprepared hprepare => exact prepare_follows hn h hprepare
    | unsent hprepare hsend => exact (prepare_follows hn h hprepare).quiet (sendFrame_quiet hsend)
    | awaited hprepare hsend hawait =>
      have hsent := (prepare_follows hn h hprepare).quiet (sendFrame_quiet hsend)
      obtain ⟨c₃, hlistens, hends⟩ := await_listens hn hsent.tracks hawait
      have hheard := hsent.listens hlistens
      cases hends with
      | response => exact hheard.setSlot _
      | failure => exact hheard
  rcases exchanged with stop | m
  · cases stop <;> cases hrest <;> exact hexchanged.setSlot _
  · cases hrest
    exact hexchanged

end Watch

end TimedCaller

/-! ## Whole lives -/

/-- What happens to a caller. -/
inductive Episode (τ : Type) where
  | call (rounds : Nat) (channel : UInt8) (r : Request)
  /-- time passes for the stream -/
  | pause (pass : τ → τ)

namespace TimedCaller

variable {n : Nat} {τ η : Type}

def pause (c : TimedCaller n (Tap τ) η) (pass : τ → τ) : TimedCaller n (Tap τ) η :=
  { c with stream := ⟨pass c.stream.stream, c.stream.log⟩ }

/-- A caller to which nothing has happened has written nothing. -/
theorem Fresh.writes {c : TimedCaller n (Tap τ) η} {stream : τ} {handler : η} (h : c.Fresh ⟨stream, []⟩ handler) :
    c.Writes [] := by
  refine ⟨⟨[], ?_, ?_⟩, ?_, fun _ => h.sent⟩
  · rw [armed?, h.idle]
    rfl
  · rw [armed?, h.idle, given, h.stream, h.sent]
    rfl
  · intro frame harmed
    rw [armed?, h.idle] at harmed
    cases harmed

variable [TimedStream τ] [Handler η] [KeepsSlot η]

/-- Let one thing happen after the other. The frames are those of the calls that started one. -/
def live (c : TimedCaller n (Tap τ) η) : List (Episode τ) → Run (List Bytes × TimedCaller n (Tap τ) η)
  | [] => pure ([], c)
  | .call rounds channel r :: rest => do
    let (_, c') ← c.call rounds channel r
    let (frames, c'') ← live c' rest
    pure (c.started rounds channel r ++ frames, c'')
  | .pause pass :: rest => live (c.pause pass) rest

/-- The life of a caller, with its stream and its slot under watch. -/
def life (n : Nat) (stream : τ) (settings : CallSettings) (episodes : List (Episode τ)) :
    Run (List Bytes × TimedCaller n (Tap τ) (Recorded ResponseSlot)) := do
  let c ← attachWith n ⟨stream, []⟩ settings ⟨{}, []⟩
  live c episodes

variable [ListensOnly η]

theorem live_returns (hn : Header.size < n) (c : TimedCaller n (Tap τ) η) (episodes : List (Episode τ)) :
    (c.live episodes).Returns := by
  induction episodes generalizing c with
  | nil => exact .inl ⟨_, rfl⟩
  | cons episode rest ih =>
    cases episode with
    | call rounds channel r =>
      refine (call_returns hn c channel r).bind ?_
      rintro ⟨result, c'⟩ _
      refine (ih c').bind ?_
      rintro ⟨frames, c''⟩ _
      exact .inl ⟨_, rfl⟩
    | pause pass => exact ih (c.pause pass)

/-- Over any part of its life a caller writes the frames that are started, and its handler is given the messages that
are read. -/
theorem live_keeps {c c' : TimedCaller n (Tap τ) (Recorded η)} {frames later : List Bytes} {episodes : List (Episode τ)}
    (hmodest : TimedStream.Modest τ) (hn : Header.size < n) (hfollows : c.Follows) (hwrites : c.Writes frames)
    (hrun : (c.live episodes).result = .ok (later, c')) : c'.Follows ∧ c'.Writes (frames ++ later) := by
  induction episodes generalizing c frames later with
  | nil =>
    cases hrun
    rw [List.append_nil]
    exact ⟨hfollows, hwrites⟩
  | cons episode rest ih =>
    cases episode with
    | call rounds channel r =>
      obtain ⟨⟨result, c₁⟩, hcall, hrest⟩ := Run.result_bind_eq_ok.mp hrun
      obtain ⟨⟨frames', c₂⟩, hlive, hlast⟩ := Run.result_bind_eq_ok.mp hrest
      cases hlast
      rw [← List.append_assoc]
      exact ih (call_follows hn hfollows hcall) (call_writes hmodest hn hwrites hcall) hlive
    | pause pass =>
      have hpassed : c.Still (c.pause pass) := ⟨rfl, rfl, rfl⟩
      exact @ih (c.pause pass) frames later ⟨hfollows.tracks, hfollows.messages⟩ (hwrites.still hpassed) hrun

/-- Nothing is lost over the life of a caller on a stream that accepts at most what it is offered, wherever its calls
are cut off. Whatever happened, the armed block for reception is open, and a frame is on the link only if a part of it
has not been written. The wire is made of the frames of the calls that started one, in order and as a whole, except for
the frame on the link, which is there as far as it is counted; and when the next one is started they are there as a
whole. The slot was given the messages of the frames that were read and that fit, in order. No call breaks a rule of
use. -/
theorem cancellation_loses_nothing (hmodest : TimedStream.Modest τ) (stream : τ) (settings : CallSettings)
    (episodes : List (Episode τ)) :
    (Header.size < n → (life n stream settings episodes).Returns) ∧
    ∀ frames c, (life n stream settings episodes).result = .ok (frames, c) →
      c.received < c.endpoint.armedSize ∧
      (∀ frame, c.armed? = some frame → c.sent < frame.length) ∧
      (c.armed? = none → c.sent = 0) ∧
      (∃ done, frames = done ++ c.armed?.toList ∧ c.given = done.flatten ++ (c.armed?.getD []).take c.sent) ∧
      (∀ rounds channel r begun, (c.prepare rounds channel r).result = .ok (.ok (), begun) →
        begun.given = frames.flatten) ∧
      c.endpoint.handler.messages = fitting (n - Header.size) c.taken := by
  refine ⟨?_, ?_⟩
  · intro hn
    refine Run.Returns.bind (.inl ?_) ?_
    · rw [attachWith, Run.result_bind, Endpoint.attach_fresh hn]
      exact ⟨_, rfl⟩
    · intro c _
      exact live_returns hn c episodes
  · intro frames c hrun
    obtain ⟨c₀, hattach, hlive⟩ := Run.result_bind_eq_ok.mp hrun
    obtain ⟨hn, hfresh⟩ := attachWith_ok hattach
    have hnone : c₀.taken = [] := congrArg Tap.taken hfresh.stream
    have hfollows : c₀.Follows := by
      refine ⟨hfresh.tracks hnone, ?_⟩
      rw [hfresh.handler, hnone, fitting_unfinished _ unfinished_nil]
    obtain ⟨hfollows', hwrites'⟩ := live_keeps hmodest hn hfollows hfresh.writes hlive
    rw [List.nil_append] at hwrites'
    refine ⟨hfollows'.tracks.received_lt, hwrites'.part, hwrites'.idle, hwrites'.wire, ?_, hfollows'.messages⟩
    intro rounds channel r begun hprepare
    exact prepare_wire hmodest hwrites' hprepare

/-- A line on which a write has to wait, a response comes in parts, and a later write fails. -/
def faltering : Bench.Timetable where
  writes :=
    [⟨0, .accept (some 2)⟩, ⟨15, .accept none⟩, ⟨15, .accept none⟩, ⟨50, .accept (some 1)⟩, ⟨50, .fail .brokenPipe⟩]
  onFlush :=
    [[⟨0, .bytes [0, 130, 0, 0, 1]⟩], [⟨3, .bytes [170]⟩, ⟨4, .bytes [0, 128, 1]⟩, ⟨20, .bytes [0, 2, 0, 1, 9]⟩]]

/-- A call that is cut off while it writes, one that is cut off while it receives, one whose request does not fit, and
one whose write fails. -/
def troubled : List (Episode Bench.Timetable) :=
  [.call 9 0 .firmwareVersion, .pause (·.sleep 10), .call 9 1 .protocolVersion, .pause (·.sleep 20),
    .call 9 0 (.spiWrite ⟨List.replicate 12 0⟩), .call 9 2 .hardwareInfo]

theorem cancellation_loses_nothing_faltering : TimedStream.Modest Bench.Timetable ∧
    ∃ frames c, (life 16 faltering { timeout := ⟨10⟩ } troubled).result = .ok (frames, c) ∧ frames.length = 3 ∧
      c.received = 1 ∧ c.sent = 1 ∧ c.armed? = some [0, 1, 2, 0, 0] ∧ c.received < c.endpoint.armedSize ∧
      (∃ done, frames = done ++ [[0, 1, 2, 0, 0]] ∧ [0, 2, 0, 0, 0, 0, 0, 1, 0, 0, 0] = done.flatten ++ [0]) ∧
      c.endpoint.handler.messages = [⟨0, 130, 0, [170]⟩, ⟨0, 128, 1, [0, 1]⟩] := by
  have hrun : (life 16 faltering { timeout := ⟨10⟩ } troubled).result.toOption.map
      (fun r => (r.1.length, r.2.received, r.2.sent, r.2.armed?, r.2.given, r.2.taken)) =
      some (3, 1, 1, some [0, 1, 2, 0, 0], [0, 2, 0, 0, 0, 0, 0, 1, 0, 0, 0],
        [0, 130, 0, 0, 1, 170, 0, 128, 1, 0, 2, 0, 1, 9]) := by cbv
  obtain ⟨⟨frames, c⟩, hok, hvalue⟩ := Option.map_eq_some_iff.mp hrun
  simp only [Prod.mk.injEq] at hvalue
  obtain ⟨hlength, hreceived, hsent, harmed, hgiven, htaken⟩ := hvalue
  have hresult := Outcomes.toOption_eq_some.mp hok
  obtain ⟨hopen, _, _, hwire, _, hmessages⟩ :=
    (cancellation_loses_nothing Bench.Timetable.modest _ _ _).2 frames c hresult
  have hframes : fitting 11 [0, 130, 0, 0, 1, 170, 0, 128, 1, 0, 2, 0, 1, 9] =
      [⟨0, 130, 0, [170]⟩, ⟨0, 128, 1, [0, 1]⟩] := by cbv
  rw [harmed, hsent, hgiven] at hwire
  rw [htaken] at hmessages
  exact ⟨Bench.Timetable.modest, frames, c, hresult, hlength, hreceived, hsent, harmed, hopen, hwire,
    hmessages.trans hframes⟩

end TimedCaller

end BusBridge
