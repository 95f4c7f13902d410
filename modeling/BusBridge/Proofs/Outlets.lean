import BusBridge.Proofs.Emission
import BusBridge.Proofs.PayloadTable
/-!
# Links without their buffers

A frame is put together in the buffer of a link, piece by piece, and checked on the way against the size of the buffer
and against the length field. An `Outlet` has no buffer: a frame is posted on it as a whole, or refused for a given
reason. Seen from outside a link is no more than that (`Link.outlet`), whichever way a frame takes into its buffer
(`Link.commit_outlet`, `Link.sendMessage_outlet`, `Link.sendRequest_outlet`, `Link.send_outlet`), and whatever was in
the buffer before. So two links with the same outlet go on alike (`Errand.runAll_outlet`).

The main statement is `Link.paths_agree`: all ways to send a request arm the same frame at both limits, and where it
does not fit they all refuse it without a trace.

What is not said here is what becomes of a payload that is written in place and never committed: the next commit
sends whatever stands in the buffer then.
-/

namespace BusBridge

namespace Run

variable {α β : Type}

theorem map_eq_ok {x : Run α} {f : α → β} {events : List Event} {b : β} (h : f <$> x = ⟨events, .ok b⟩) :
    ∃ a, x = ⟨events, .ok a⟩ ∧ f a = b := by
  obtain ⟨before, result⟩ := x
  cases result with
  | error e => cases congrArg Run.result h
  | ok a =>
    have hevents : before ++ [] = events := congrArg Run.events h
    have hvalue : (.ok (f a) : Except Fault β) = .ok b := congrArg Run.result h
    rw [List.append_nil] at hevents
    exact ⟨a, by rw [hevents], Except.ok.inj hvalue⟩

/-- Runs that look alike are followed by runs that look alike, if only what is seen of their values matters then. -/
theorem map_bind_alike {γ ε : Type} {x x' : Run α} {f : α → β} {k k' : α → Run γ} {g : γ → ε} (hx : f <$> x = f <$> x')
    (hk : ∀ a a', f a = f a' → g <$> k a = g <$> k' a') : g <$> (x >>= k) = g <$> (x' >>= k') := by
  rw [map_bind, map_bind]
  obtain ⟨events, result⟩ := x
  cases result with
  | error e =>
    obtain ⟨events', result'⟩ := x'
    cases result' with
    | error e' =>
      cases hx
      rfl
    | ok a' => cases congrArg Run.result hx
  | ok a =>
    obtain ⟨a', rfl, hvalue⟩ := map_eq_ok hx.symm
    show (⟨events, .ok a⟩ : Run α) >>= _ = (⟨events ++ [], .ok a'⟩ : Run α) >>= _
    rw [List.append_nil]
    show (⟨events ++ (g <$> k a).events, (g <$> k a).result⟩ : Run ε) =
      ⟨events ++ (g <$> k' a').events, (g <$> k' a').result⟩
    rw [hk a a' hvalue.symm]

/-- After the same first step it is enough to compare what comes next. -/
theorem map_bind_after {γ ε : Type} {x : Run α} {k k' : α → Run γ} {g : γ → ε} (hk : ∀ a, g <$> k a = g <$> k' a) :
    g <$> (x >>= k) = g <$> (x >>= k') := by
  rw [map_bind, map_bind]
  exact bind_congr hk

end Run

/-- What can be seen of a link: its medium, the frame being sent, and whether frames are reported. -/
structure Outlet (δ : Type) where
  medium : δ
  frame : Option Bytes
  dump : Bool

namespace Outlet

variable {δ ε φ : Type} [Medium δ φ]

/-- Start a frame: it is reported if frames are, and the medium is told its size. -/
def start (o : Outlet δ) (frame : Bytes) : Trace (Outlet δ) where
  events := (if o.dump then [.notice (.frameOut frame)] else []) ++ [.armSend frame.length]
  value := { o with medium := Medium.armSend o.medium frame.length, frame := some frame }

/-- Send a frame, unless there is a reason to refuse it. -/
def post (o : Outlet δ) (frame : Bytes) (refusal : Option ε) : Run (Except ε Unit × Outlet δ) :=
  match o.frame, refusal with
  | some _, _ => Run.stop .busy
  | none, some e => pure (.error e, o)
  | none, none => do
    let o ← o.start frame
    pure (.ok (), o)

/-- Give up the frame being sent. -/
def abandon (o : Outlet δ) : Trace (Outlet δ) := do
  match o.frame with
  | none => pure o
  | some _ =>
    note .sendAbandoned
    let medium ← Medium.giveUpSend o.medium
    pure { o with medium, frame := none }

variable {o : Outlet δ} {frame : Bytes}

theorem post_busy {before : Bytes} (h : o.frame = some before) (refusal : Option ε) :
    o.post frame refusal = Run.stop .busy := by
  simp only [post, h]

theorem post_refused (h : o.frame = none) (e : ε) : o.post frame (some e) = pure (.error e, o) := by
  simp only [post, h]

theorem post_started (h : o.frame = none) : o.post frame (none : Option ε) = (do
    let o ← o.start frame
    pure (.ok (), o)) := by
  simp only [post, h]

theorem post_mapError {ε' : Type} (o : Outlet δ) (frame : Bytes) (refusal : Option ε) (f : ε → ε') :
    (fun p => (p.1.mapError f, p.2)) <$> o.post frame refusal = o.post frame (refusal.map f) := by
  cases hframe : o.frame with
  | some before =>
    rw [post_busy hframe, post_busy hframe]
    rfl
  | none =>
    cases refusal with
    | some e =>
      rw [Option.map_some, post_refused hframe, post_refused hframe]
      rfl
    | none =>
      rw [Option.map_none, post_started hframe, post_started hframe, map_bind]
      rfl

end Outlet

namespace Link

variable {n : Nat} {δ α : Type}

def outlet (l : Link n δ) : Outlet δ :=
  ⟨l.medium, l.armed?, l.dump⟩

/-- The result of an operation on a link, with what can be seen of the link. -/
def onOutlet (r : α × Link n δ) : α × Outlet δ :=
  (r.1, r.2.outlet)

/-- Why a payload is refused: it does not fit the buffer or the length field. -/
def refusal (n length : Nat) : Option TooLarge :=
  if length ≤ min (n - Header.size) maxPayload then none else some ⟨Header.size + length, n⟩

theorem refusal_fits {length : Nat} (h : length ≤ min (n - Header.size) maxPayload) : refusal n length = none :=
  if_pos h

theorem refusal_full {length : Nat} (h : min (n - Header.size) maxPayload < length) :
    refusal n length = some ⟨Header.size + length, n⟩ :=
  if_neg (Nat.not_le_of_lt h)

variable {l : Link n δ}

theorem requireIdle_eq (hidle : l.sending = none) : l.requireIdle = pure () := by
  rw [requireIdle, isBusy, hidle]
  rfl

theorem outlet_idle (hidle : l.sending = none) : l.outlet.frame = none :=
  armed?_idle hidle

theorem idle_of_outlet (h : l.outlet.frame = none) : l.sending = none :=
  Option.map_eq_none_iff.mp h

theorem idle_of_same {l' : Link n δ} (h : l.outlet = l'.outlet) (hidle : l.sending = none) : l'.sending = none := by
  apply idle_of_outlet
  rw [← h]
  exact outlet_idle hidle

/-- Links that look alike do so after their frames are complete. -/
theorem outlet_complete {l' : Link n δ} (h : l.outlet = l'.outlet) :
    ({ l with sending := none } : Link n δ).outlet = ({ l' with sending := none } : Link n δ).outlet := by
  obtain ⟨hmedium, _, hdump⟩ := Outlet.mk.inj h
  simp only [outlet, armed?, Option.map_none, hmedium, hdump]

/-- Of an idle link nothing is seen of what stands in its buffer. -/
theorem outlet_writePayload (hidle : l.sending = none) (data : Bytes) : (l.writePayload data).outlet = l.outlet := by
  simp only [outlet, armed?, writePayload, hidle, Option.map_none]

/-! ## Ways into the buffer -/

/-- A request that fits in the buffer is written there as its message is. -/
theorem writePayload_draft {r : Request} {d : Draft} (hfits : r.layout.length ≤ n - Header.size) (hn : Header.size ≤ n)
    (hblock : d.block = r.layout ++ l.payload.drop r.layout.length) :
    l.writePayload d.block = l.writePayload r.layout := by
  have hoverlay : d.block = Bytes.overlay l.payload 0 r.layout := by
    rw [hblock, Bytes.overlay_eq, List.take_zero, List.nil_append, Nat.zero_add, Nat.sub_zero, length_payload,
      List.take_of_length_le hfits]
  have hbuffer : Bytes.overlay l.buffer.bytes Header.size d.block =
      Bytes.overlay l.buffer.bytes Header.size r.layout := by
    rw [hoverlay]
    refine Bytes.overlay_slice ?_ ?_
    · rw [l.buffer.length_bytes]
      omega
    · rw [Nat.zero_add]
      exact hfits
  unfold writePayload Buffer.overlay
  simp only [hbuffer]

variable {φ : Type} [Medium δ φ]

theorem post_busy {ε : Type} {size : Nat} (hbusy : l.sending = some size) (next : Unit → Run (Except ε Unit × Link n δ))
    (frame : Bytes) (refusal : Option ε) :
    onOutlet <$> (l.requireIdle >>= next) = l.outlet.post frame refusal := by
  have hframe : l.outlet.frame = some (l.buffer.slice 0 size) := by
    simp only [outlet, armed?, hbusy, Option.map_some]
  rw [requireIdle, isBusy, hbusy, Outlet.post_busy hframe]
  rfl

/-- What stands at the front of the buffer is the frame that is started. -/
theorem start_outlet {frame : Bytes} (hfront : l.buffer.slice 0 frame.length = frame) :
    outlet <$> l.start frame.length = l.outlet.start frame := by
  apply Trace.ext
  · show (l.start frame.length).events ++ [] = _
    rw [List.append_nil, start, hfront, Outlet.start]
    cases hdump : l.dump with
    | true =>
      simp only [outlet, hdump, if_true]
      rfl
    | false =>
      simp only [outlet, hdump]
      rfl
  · show (l.start frame.length).value.outlet = _
    rw [start_value]
    simp only [outlet, armed?, Option.map_some, hfront, Outlet.start]

/-- To put a frame at the front of the buffer of an idle link and to start it is to post it. -/
theorem post_start {ε : Type} {frame : Bytes} {size : Nat} {buffer : Buffer n} (hidle : l.sending = none)
    (hsize : frame.length = size) (hfront : buffer.slice 0 size = frame) :
    (onOutlet <$> do
        let l ← { l with buffer }.start size
        pure (.ok (), l) : Run (Except ε Unit × Outlet δ)) = l.outlet.post frame none := by
  subst hsize
  have hstart : outlet <$> ({ l with buffer } : Link n δ).start frame.length = l.outlet.start frame := by
    rw [start_outlet hfront]
    simp only [outlet, armed?, hidle, Option.map_none]
  rw [Outlet.post_started (outlet_idle hidle), ← hstart, liftM_map, bind_map_left, map_bind]
  rfl

/-- A payload in place is posted behind its header. -/
theorem commit_outlet (hn : Header.size < n) (l : Link n δ) (component operation channel : UInt8) (length : Nat) :
    onOutlet <$> l.commit component operation channel length =
      l.outlet.post (⟨component, operation, channel, l.payload.take length⟩ : Message).frame (refusal n length) := by
  cases hsending : l.sending with
  | some size => exact post_busy hsending _ _ _
  | none =>
    rw [commit, requireIdle_eq hsending, pure_bind, refusal]
    by_cases hfits : length ≤ min (n - Header.size) maxPayload
    · have hroom : ¬(length > n - Header.size ∨ length > maxPayload) := by omega
      have hsize : (⟨component, operation, channel, l.payload.take length⟩ : Message).frame.length =
          Header.size + length := by
        rw [Framing.length_frame, List.length_take, length_payload]
        omega
      rw [if_neg hroom, if_pos hfits]
      exact post_start hsending hsize (l.slice_header component operation channel hn (by omega) (by omega))
    · have hfull : length > n - Header.size ∨ length > maxPayload := by omega
      rw [if_pos hfull, if_neg hfits, Outlet.post_refused (outlet_idle hsending)]
      rfl

theorem commitPayload_outlet (hn : Header.size < n) (l : Link n δ) (m : Message) :
    onOutlet <$> l.commitPayload m m.payload.length = l.outlet.post m.frame (refusal n m.payload.length) := by
  cases hsending : l.sending with
  | some size => exact post_busy hsending _ _ _
  | none =>
    rw [commitPayload, requireIdle_eq hsending, pure_bind, commit_outlet hn, outlet_writePayload hsending,
      payload_writePayload]
    by_cases hfits : m.payload.length ≤ n - Header.size
    · rw [Bytes.take_overlay_zero (by rwa [length_payload]) (Nat.le_refl _), List.take_length]
    · rw [refusal_full (by omega), Outlet.post_refused (outlet_idle hsending),
        Outlet.post_refused (outlet_idle hsending)]

theorem sendMessage_full {m : Message} (hidle : l.sending = none) (hfull : n - Header.size < m.payload.length) :
    l.sendMessage m = pure (.error ⟨Header.size + m.payload.length, n⟩, l) := by
  simp only [sendMessage, requireIdle_eq hidle, pure_bind, gt_iff_lt, if_pos hfull]

/-- A message is posted as its frame. -/
theorem sendMessage_outlet (hn : Header.size < n) (l : Link n δ) (m : Message) :
    onOutlet <$> l.sendMessage m = l.outlet.post m.frame (refusal n m.payload.length) := by
  cases hsending : l.sending with
  | some size => exact post_busy hsending _ _ _
  | none =>
    by_cases hfits : m.payload.length ≤ n - Header.size
    · rw [← commitPayload_outlet hn, sendMessage, requireIdle_eq hsending, pure_bind, if_neg (Nat.not_lt_of_le hfits)]
    · rw [sendMessage_full hsending (Nat.lt_of_not_le hfits), refusal_full (by omega),
        Outlet.post_refused (outlet_idle hsending)]
      rfl

/-- A request that fits in the buffer is sent as its message is, or refused as that is. -/
theorem sendRequest_eq {r : Request} (hn : Header.size ≤ n) (hidle : l.sending = none) (channel : UInt8)
    (hfits : r.layout.length ≤ n - Header.size) :
    l.sendRequest channel r = (fun p => (p.1.mapError fun _ => {}, p.2)) <$> l.sendMessage (r.message channel) := by
  have hpayload : r.layout.length ≤ l.payload.length := by rwa [length_payload]
  obtain ⟨d, hencode, hlength, hblock⟩ := Draft.encode_start hpayload
  have hsmall : ¬(r.message channel).payload.length > n - Header.size := Nat.not_lt_of_le hfits
  simp only [sendRequest, sendMessage, commitPayload, requireIdle_eq hidle, pure_bind, hencode, if_neg hsmall, hlength,
    writePayload_draft hfits hn hblock]
  rfl

/-- A request that does not fit in the buffer is refused. Some of its bytes may have been written. -/
theorem sendRequest_full {r : Request} (hidle : l.sending = none) (channel : UInt8)
    (hfull : n - Header.size < r.layout.length) :
    ∃ data, l.sendRequest channel r = pure (.error {}, l.writePayload data) := by
  obtain ⟨hfits, _⟩ | ⟨_, d, hencode⟩ := (Draft.start l.payload).encode_cases r.pieces
  · rw [Draft.space_start, length_payload] at hfits
    exact absurd hfits (Nat.not_le_of_lt hfull)
  · refine ⟨d.block, ?_⟩
    simp only [sendRequest, requireIdle_eq hidle, pure_bind, hencode]

/-- A request is posted as the frame of its message. -/
theorem sendRequest_outlet (hn : Header.size < n) (l : Link n δ) (channel : UInt8) (r : Request) :
    onOutlet <$> l.sendRequest channel r =
      l.outlet.post (r.message channel).frame ((refusal n r.layout.length).map fun _ => ({} : CapacityError)) := by
  cases hsending : l.sending with
  | some size => exact post_busy hsending _ _ _
  | none =>
    by_cases hfits : r.layout.length ≤ n - Header.size
    · rw [sendRequest_eq (Nat.le_of_lt hn) hsending channel hfits, ← Outlet.post_mapError]
      show _ = _ <$> l.outlet.post _ (refusal n (r.message channel).payload.length)
      rw [← sendMessage_outlet hn, Functor.map_map, Functor.map_map]
      rfl
    · obtain ⟨data, hfull⟩ := sendRequest_full hsending channel (Nat.lt_of_not_le hfits)
      rw [hfull, refusal_full (by omega), Option.map_some, Outlet.post_refused (outlet_idle hsending),
        map_pure, onOutlet, outlet_writePayload hsending]

/-- Bytes are posted as they are. -/
theorem send_outlet (l : Link n δ) {frame : Bytes} (hheader : Header.size ≤ frame.length) :
    onOutlet <$> l.send frame = l.outlet.post frame (if frame.length ≤ n then none else some ⟨frame.length, n⟩) := by
  cases hsending : l.sending with
  | some size => exact post_busy hsending _ _ _
  | none =>
    rw [send, requireIdle_eq hsending, pure_bind, if_neg (Nat.not_lt_of_le hheader)]
    by_cases hfits : frame.length ≤ n
    · have hfront : (Bytes.overlay l.buffer.bytes 0 frame).take frame.length = frame := by
        rw [Bytes.take_overlay_zero (by rwa [l.buffer.length_bytes]) (Nat.le_refl _), List.take_length]
      rw [if_neg (Nat.not_lt_of_le hfits), if_pos hfits]
      exact post_start hsending rfl hfront
    · rw [if_pos (Nat.lt_of_not_le hfits), if_neg hfits, Outlet.post_refused (outlet_idle hsending)]
      rfl

/-- Bytes without a header are never sent. -/
theorem send_headless (l : Link n δ) {frame : Bytes} (hshort : frame.length < Header.size) :
    onOutlet <$> l.send frame =
      if l.outlet.frame = none then Run.stop .headless else l.outlet.post frame (none : Option TooLarge) := by
  cases hsending : l.sending with
  | some size =>
    have hbusy : ¬l.outlet.frame = none := by
      intro hnone
      cases hsending.symm.trans (idle_of_outlet hnone)
    rw [if_neg hbusy]
    exact post_busy hsending _ _ _
  | none =>
    rw [if_pos (outlet_idle hsending), send, requireIdle_eq hsending, pure_bind, if_pos hshort]
    rfl

theorem abandon_outlet (l : Link n δ) : outlet <$> l.abandon = l.outlet.abandon := by
  cases hsending : l.sending with
  | some size =>
    have hframe : l.outlet.frame = some (l.buffer.slice 0 size) := by
      simp only [outlet, armed?, hsending, Option.map_some]
    simp only [Outlet.abandon, hframe, abandon, isBusy, hsending, Option.isSome_some, if_true, map_bind]
    rfl
  | none =>
    rw [Outlet.abandon, outlet_idle hsending, abandon, isBusy, hsending]
    rfl

end Link

/-! ## What is done later on -/

/-- Something that is done with a link. -/
inductive Errand where
  | send (frame : Bytes)
  | sendMessage (m : Message)
  | sendRequest (channel : UInt8) (r : Request)
  /-- the frame being sent is complete -/
  | complete
  | abandon

namespace Errand

variable {n : Nat} {δ φ : Type} [Medium δ φ]

/-- Do something: whether it was accepted. -/
def run (l : Link n δ) : Errand → Run (Bool × Link n δ)
  | send frame => (fun p => (p.1.isOk, p.2)) <$> l.send frame
  | sendMessage m => (fun p => (p.1.isOk, p.2)) <$> l.sendMessage m
  | sendRequest channel r => (fun p => (p.1.isOk, p.2)) <$> l.sendRequest channel r
  | complete => pure (true, { l with sending := none })
  | abandon => do
    let l ← l.abandon
    pure (true, l)

def runAll (l : Link n δ) : List Errand → Run (List Bool × Link n δ)
  | [] => pure ([], l)
  | first :: rest => do
    let (accepted, l) ← first.run l
    let (later, l) ← runAll l rest
    pure (accepted :: later, l)

variable {l l' : Link n δ}

/-- What is done with a link shows as much of its buffer as the link does. -/
theorem run_outlet (hn : Header.size < n) (h : l.outlet = l'.outlet) (errand : Errand) :
    Link.onOutlet <$> errand.run l = Link.onOutlet <$> errand.run l' := by
  -- what was accepted can be told without the link
  have haccepted {ε : Type} {x x' : Run (Except ε Unit × Link n δ)} (hx : Link.onOutlet <$> x = Link.onOutlet <$> x') :
      Link.onOutlet <$> (fun p => (p.1.isOk, p.2)) <$> x = Link.onOutlet <$> (fun p => (p.1.isOk, p.2)) <$> x' := by
    have hmap := congrArg (fun y => (fun p : Except ε Unit × Outlet δ => (p.1.isOk, p.2)) <$> y) hx
    simp only [Functor.map_map] at hmap ⊢
    exact hmap
  cases errand with
  | send frame =>
    refine haccepted ?_
    by_cases hheader : Header.size ≤ frame.length
    · rw [Link.send_outlet l hheader, Link.send_outlet l' hheader, h]
    · have hshort := Nat.lt_of_not_le hheader
      rw [Link.send_headless l hshort, Link.send_headless l' hshort, h]
  | sendMessage m =>
    refine haccepted ?_
    rw [Link.sendMessage_outlet hn, Link.sendMessage_outlet hn, h]
  | sendRequest channel r =>
    refine haccepted ?_
    rw [Link.sendRequest_outlet hn, Link.sendRequest_outlet hn, h]
  | complete => simp only [run, map_pure, Link.onOutlet, Link.outlet_complete h]
  | abandon =>
    have habandon : Link.outlet <$> l.abandon = Link.outlet <$> l'.abandon := by
      rw [Link.abandon_outlet, Link.abandon_outlet, h]
    have hlift : ∀ t : Trace (Link n δ), (Link.onOutlet <$> do
        let l ← t
        pure (true, l) : Run (Bool × Outlet δ)) = (true, ·) <$> liftM (Link.outlet <$> t) := by
      intro t
      rw [map_bind, liftM_map, Functor.map_map, map_eq_pure_bind]
      rfl
    rw [run, run, hlift, hlift, habandon]

/-- Links that look alike go on alike. -/
theorem runAll_outlet (hn : Header.size < n) (h : l.outlet = l'.outlet) (errands : List Errand) :
    Link.onOutlet <$> runAll l errands = Link.onOutlet <$> runAll l' errands := by
  induction errands generalizing l l' with
  | nil => simp only [runAll, map_pure, Link.onOutlet, h]
  | cons first rest ih =>
    apply Run.map_bind_alike (run_outlet hn h first)
    rintro ⟨accepted, l₁⟩ ⟨accepted', l₁'⟩ hsame
    obtain ⟨rfl, hlinks⟩ := Prod.mk.inj hsame
    apply Run.map_bind_alike (ih hlinks)
    rintro ⟨later, l₂⟩ ⟨later', l₂'⟩ hlast
    obtain ⟨rfl, hlinks₂⟩ := Prod.mk.inj hlast
    simp only [map_pure, Link.onOutlet, hlinks₂]

end Errand

/-! ## One frame, whichever way it takes -/

namespace Request

theorem deferred_eq_ok {r : Request} {channel : UInt8} {m : Message} :
    r.deferred channel = .ok m ↔ r.layout.length ≤ maxDeferred ∧ r.message channel = m := by
  unfold deferred
  split
  next hshort => simp only [Except.ok.injEq, hshort, true_and]
  next hlong => simp only [reduceCtorEq, hlong, false_and]

/-- The bytes of a request, written into a block of zeros of the given size. -/
def packed (r : Request) (size : Nat) : Except CapacityError Bytes :=
  let (result, draft) := (Draft.start (List.replicate size 0)).encode r.pieces
  result.map fun _ => draft.written

/-- A request is kept as it is written into a block of the largest size that is kept. -/
theorem deferred_packed (r : Request) (channel : UInt8) : r.deferred channel =
    (r.packed maxDeferred).map fun payload => ⟨r.command.component, r.command.operation, channel, payload⟩ := by
  have hspace : (Draft.start (List.replicate maxDeferred 0)).space = maxDeferred := List.length_replicate
  obtain ⟨hfits, d, hencode, hwritten⟩ | ⟨hfull, d, hencode⟩ :=
    (Draft.start (List.replicate maxDeferred 0)).encode_cases r.pieces
  · rw [hspace] at hfits
    have hlayout : d.written = r.layout := hwritten
    simp only [deferred, if_pos (show r.layout.length ≤ maxDeferred from hfits), packed, hencode, hlayout]
    rfl
  · rw [hspace] at hfull
    simp only [deferred, if_neg (Nat.not_le_of_lt (show maxDeferred < r.layout.length from hfull)), packed, hencode]
    rfl

end Request

/-- A frame is its header, byte for byte, and its payload. -/
theorem Message.frame_bytes (m : Message) : m.frame =
    m.component :: m.operation :: m.channel :: (halfBytes m.header.length ++ m.payload) := by
  rw [← wire_half]
  rfl

namespace Link

variable {n : Nat} {δ ε φ : Type} [Medium δ φ]

/-- The work starts the frame on the link: the medium gets one call, with the size of the frame. -/
def Arms (l : Link n δ) (frame : Bytes) (x : Run (Except ε Unit × Link n δ)) : Prop :=
  ∃ l', x = ⟨(if l.dump then [.notice (.frameOut frame)] else []) ++ [.armSend frame.length], .ok (.ok (), l')⟩ ∧
    l'.armed? = some frame ∧ l'.medium = Medium.armSend l.medium frame.length

/-- The work fails and leaves no trace: nothing happens, the link stays idle, and whatever is done with it later goes as
if it had not been tried. -/
def Refuses (l : Link n δ) (x : Run (Except ε Unit × Link n δ)) : Prop :=
  ∃ e l', x = pure (.error e, l') ∧ l'.sending = none ∧ l'.medium = l.medium ∧
    ∀ errands, onOutlet <$> Errand.runAll l' errands = onOutlet <$> Errand.runAll l errands

variable {l : Link n δ} {frame : Bytes} {x : Run (Except ε Unit × Link n δ)}

theorem Arms.of_post (hidle : l.sending = none) (h : onOutlet <$> x = l.outlet.post frame none) : l.Arms frame x := by
  have hpost : l.outlet.post frame (none : Option ε) =
      ⟨(l.outlet.start frame).events, .ok (.ok (), (l.outlet.start frame).value)⟩ := by
    rw [Outlet.post_started (outlet_idle hidle)]
    exact Run.ext (List.append_nil _) rfl
  obtain ⟨⟨result, l'⟩, hrun, hseen⟩ := Run.map_eq_ok (h.trans hpost)
  obtain ⟨rfl, houtlet⟩ := Prod.mk.inj hseen
  obtain ⟨hmedium, hframe, _⟩ := Outlet.mk.inj houtlet
  exact ⟨l', hrun, hframe, hmedium⟩

theorem Refuses.of_post {e : ε} (hn : Header.size < n) (hidle : l.sending = none)
    (h : onOutlet <$> x = l.outlet.post frame (some e)) : l.Refuses x := by
  rw [Outlet.post_refused (outlet_idle hidle)] at h
  obtain ⟨⟨result, l'⟩, hrun, hseen⟩ := Run.map_eq_ok h
  obtain ⟨rfl, houtlet⟩ := Prod.mk.inj hseen
  exact ⟨e, l', hrun, idle_of_same houtlet.symm hidle, congrArg Outlet.medium houtlet, Errand.runAll_outlet hn houtlet⟩

/-- A request that fits the buffer and the length field is sent in one frame, and all ways to send it arm that frame:
as a request, as a message, written in place, as bytes, and as a message that was kept. A request can be kept if it
has at most 64 bytes. If it does not fit, it is refused without a trace. -/
theorem paths_agree (hn : Header.size < n) (hidle : l.sending = none) (channel : UInt8) (r : Request) :
    (r.layout.length ≤ min (n - Header.size) maxPayload → ∃ (length : UInt16) (frame : Bytes),
      length.toNat = r.layout.length ∧
      frame = r.command.component :: r.command.operation :: channel :: (halfBytes length ++ r.layout) ∧
      l.Arms frame (l.sendRequest channel r) ∧ l.Arms frame (l.sendMessage (r.message channel)) ∧
      l.Arms frame (l.commitPayload (r.message channel) r.layout.length) ∧ l.Arms frame (l.send frame) ∧
      ∀ m, r.deferred channel = .ok m → l.Arms frame (l.sendMessage m)) ∧
    (r.deferred channel = (r.packed 64).map fun payload =>
        ⟨r.command.component, r.command.operation, channel, payload⟩) ∧
    ((∃ m, r.deferred channel = .ok m) ↔ r.layout.length ≤ 64) ∧
    (min (n - Header.size) maxPayload < r.layout.length →
      l.Refuses (l.sendRequest channel r) ∧ l.Refuses (l.sendMessage (r.message channel)) ∧
      ∀ data, l.Refuses (l.commitPayload ⟨r.command.component, r.command.operation, channel, data⟩
        r.layout.length)) := by
  refine ⟨fun hfits => ?_, r.deferred_packed channel, ?_, fun hfull => ?_⟩
  · have hmax : r.layout.length ≤ maxPayload := by omega
    have hlength : (r.message channel).header.length.toNat = r.layout.length := Framing.toNat_header_length hmax
    have hnone : refusal n (r.message channel).payload.length = none := refusal_fits hfits
    have hmessage : l.Arms (r.message channel).frame (l.sendMessage (r.message channel)) := by
      apply Arms.of_post hidle
      rw [sendMessage_outlet hn, hnone]
    refine ⟨_, _, hlength, (r.message channel).frame_bytes, ?_, hmessage, ?_, ?_, ?_⟩
    · apply Arms.of_post hidle
      rw [sendRequest_outlet hn, refusal_fits hfits, Option.map_none]
    · apply Arms.of_post hidle
      rw [← hnone]
      exact commitPayload_outlet hn l (r.message channel)
    · have hsize := Framing.length_frame (r.message channel)
      have hroom : (r.message channel).frame.length ≤ n := by
        rw [hsize]
        show Header.size + r.layout.length ≤ n
        omega
      apply Arms.of_post hidle
      rw [send_outlet l (by omega), if_pos hroom]
    · intro m hkept
      obtain ⟨_, rfl⟩ := Request.deferred_eq_ok.mp hkept
      exact hmessage
  · constructor
    · rintro ⟨m, hkept⟩
      exact (Request.deferred_eq_ok.mp hkept).1
    · intro hshort
      exact ⟨_, Request.deferred_eq_ok.mpr ⟨hshort, rfl⟩⟩
  · refine ⟨?_, ?_, fun data => ?_⟩
    · apply Refuses.of_post hn hidle
      rw [sendRequest_outlet hn, refusal_full hfull, Option.map_some]
    · apply Refuses.of_post hn hidle
      rw [sendMessage_outlet hn]
      exact congrArg (l.outlet.post _) (refusal_full hfull)
    · apply Refuses.of_post hn hidle
      rw [commitPayload, requireIdle_eq hidle, pure_bind, commit_outlet hn, outlet_writePayload hidle,
        refusal_full hfull]

/-- A request behind a stale buffer, and one that fits its buffer but not the length field. -/
theorem paths_agree_limits :
    (let l : Link 16 Detached := ⟨⟨⟩, (Buffer.zeroed 16).overlay 4 [7, 7, 7, 7, 7], none, true⟩
      let r : Request := .i2cWrite ⟨0x23, [9]⟩
      let frame : Bytes := [1, 1, 2, 0, 3, 0, 0x23, 9]
      l.Arms frame (l.sendRequest 2 r) ∧ l.Arms frame (l.sendMessage (r.message 2)) ∧
      l.Arms frame (l.commitPayload (r.message 2) 3) ∧ l.Arms frame (l.send frame)) ∧
    (let l : Link 65541 Detached := idle ⟨⟩
      let r : Request := .spiWrite ⟨List.replicate 65536 7⟩
      l.Refuses (l.sendRequest 0 r) ∧ l.Refuses (l.sendMessage (r.message 0))) := by
  refine ⟨?_, ?_⟩
  · intro l r frame
    obtain ⟨length, sent, hlength, hsent, hrequest, hmessage, hplace, hbytes, _⟩ :=
      (paths_agree (l := l) (by decide) rfl 2 r).1 (by decide)
    have hthree : length = 3 := UInt16.toNat_inj.mp hlength
    have hframe : sent = frame := by
      rw [hsent, hthree]
      rfl
    rw [hframe] at hrequest hmessage hplace hbytes
    exact ⟨hrequest, hmessage, hplace, hbytes⟩
  · intro l r
    have hsize : r.layout.length = 65536 := by
      show ([List.replicate 65536 7].flatten : Bytes).length = 65536
      rw [List.flatten_singleton, List.length_replicate]
    have hlong : min (65541 - Header.size) maxPayload < r.layout.length := by
      rw [hsize]
      decide
    obtain ⟨hrequest, hmessage, _⟩ := (paths_agree (l := l) (by decide) rfl 0 r).2.2.2 hlong
    exact ⟨hrequest, hmessage⟩

end Link

end BusBridge
