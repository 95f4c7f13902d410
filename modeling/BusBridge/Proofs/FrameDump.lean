import BusBridge.Proofs.Contract
import BusBridge.Proofs.DumpLines
import BusBridge.Proofs.Forgetting
import BusBridge.Proofs.Routines
/-!
# The frame dump

An endpoint that reports its frames does what it would do without, and its log tells which frames passed.

Two runs are compared all along, one of an endpoint that reports nothing and one of the same endpoint that may report.
`Dumped` says how the events of the second differ: the report of a frame is put in right before the medium is told
of the frame, or right before its message reaches the handler. A call of a handler leaves no event of its own, so the
handler is `Attended`: someone says which message comes, right before the call, and notes down the frames
that pass, from what the handler is given and from the link before and after the call. `Dumps` adds that the two
runs come to the same.

What is proved of a link (`Link.Routine.dumps`) carries over to each way of moving an endpoint on, and from there to all
that an owner does with it, one thing after the other (`Job.attendAll_dumps`).
-/

namespace BusBridge

/-! ## Reports that are put in -/

/-- The second events are the first ones with the reports of some frames put in. The report of an outgoing frame stands
right before the medium is told of it, and the report of an incoming one right before its message is heralded. -/
inductive Dumped (herald : Message → List Event) : List Passage → List Event → List Event → Prop where
  | nil : Dumped herald [] [] []
  | cons {ps : List Passage} {xs ys : List Event} (event : Event) : Dumped herald ps xs ys →
      Dumped herald ps (event :: xs) (event :: ys)
  | outbound {ps : List Passage} {xs ys : List Event} (frame : Bytes) : Dumped herald ps xs ys →
      Dumped herald (.outbound frame :: ps) (.armSend frame.length :: xs)
        (.notice (.frameOut frame) :: .armSend frame.length :: ys)
  | inbound {ps : List Passage} {xs ys : List Event} (m : Message) : Dumped herald ps xs ys →
      Dumped herald (.inbound m.frame :: ps) (herald m ++ xs) (.notice (.frameIn m.frame) :: (herald m ++ ys))

namespace Dumped

variable {herald : Message → List Event} {ps qs : List Passage} {xs ys xs' ys' : List Event}

theorem refl (xs : List Event) : Dumped herald [] xs xs := by
  induction xs with
  | nil => exact .nil
  | cons event xs ih => exact .cons event ih

theorem append (h : Dumped herald ps xs ys) (h' : Dumped herald qs xs' ys') :
    Dumped herald (ps ++ qs) (xs ++ xs') (ys ++ ys') := by
  induction h with
  | nil => exact h'
  | cons event _ ih => exact .cons event ih
  | outbound frame _ ih => exact .outbound frame ih
  | inbound m _ ih =>
    rw [List.cons_append, List.cons_append, List.append_assoc, List.append_assoc]
    exact .inbound m ih

/-- Nothing else is put in, and nothing is left out. -/
theorem others (h : Dumped herald ps xs ys) : ys.filter Event.isOther = xs.filter Event.isOther := by
  induction h with
  | nil => rfl
  | cons event _ ih => rw [List.filter_cons, List.filter_cons, ih]
  | @outbound _ xs ys frame _ ih =>
    show (Event.armSend frame.length :: ys).filter Event.isOther = _
    rw [List.filter_cons, List.filter_cons, ih]
  | @inbound _ xs ys m _ ih =>
    show (herald m ++ ys).filter Event.isOther = _
    rw [List.filter_append, List.filter_append, ih]

/-- If there was no report before, the reports are those that were put in. -/
theorem passages (h : Dumped herald ps xs ys) (hnone : xs.filterMap Event.passage? = []) :
    ys.filterMap Event.passage? = ps := by
  induction h with
  | nil => rfl
  | cons event _ ih =>
    cases hpassage : event.passage? with
    | none =>
      rw [List.filterMap_cons_none hpassage] at hnone ⊢
      exact ih hnone
    | some p =>
      rw [List.filterMap_cons_some hpassage] at hnone
      cases hnone
  | outbound frame _ ih => exact congrArg (.outbound frame :: ·) (ih hnone)
  | inbound m _ ih =>
    rw [List.filterMap_append, List.append_eq_nil_iff] at hnone
    show Passage.inbound m.frame :: List.filterMap _ (herald m ++ _) = _
    rw [List.filterMap_append, hnone.1, ih hnone.2]
    rfl

/-- If there was no report before, the frames can be read off the log. -/
theorem log (h : Dumped herald ps xs ys) (hnone : xs.filterMap Event.passage? = []) :
    (ys.filterMap Event.line?).filter Passage.marks = ps.map Passage.text ∧
      (ys.filterMap Event.line?).filterMap Passage.ofText? = ps := by
  rw [Event.marked_lines, Event.read_lines, h.passages hnone]
  exact ⟨rfl, rfl⟩

end Dumped

/-- The second run is the first one with the reports of some frames put in, and it comes to the same, seen through `f`.
If that is a value, `frames` tells which frames they are. -/
structure Dumps {α β : Type} (herald : Message → List Event) (f : α → β) (frames : List Passage → α → Prop) (x : Run α)
    (y : Run β) : Prop where
  result : y.result = x.result.map f
  events : ∃ ps, Dumped herald ps x.events y.events ∧ ∀ a, x.result = .ok a → frames ps a

namespace Dumps

variable {α β γ ε : Type} {herald : Message → List Event} {f : α → β} {g : γ → ε} {P : List Passage → α → Prop}
  {Q : List Passage → γ → Prop} {x : Run α} {y : Run β} {k : α → Run γ} {k' : β → Run ε}

theorem pure {a : α} (h : P [] a) : Dumps herald f P (Pure.pure a) (Pure.pure (f a)) where
  result := rfl
  events := by
    refine ⟨[], .nil, ?_⟩
    intro _ ha
    cases ha
    exact h

theorem stop (fault : Fault) : Dumps herald f P (Run.stop fault) (Run.stop fault) where
  result := rfl
  events := by
    refine ⟨[], .nil, ?_⟩
    intro _ ha
    cases ha

/-- Work that reports nothing. -/
theorem trace {t : Trace α} {t' : Trace β} (hevents : t'.events = t.events) (hvalue : t'.value = f t.value)
    (h : P [] t.value) : Dumps herald f P (Run.ofTrace t) (Run.ofTrace t') where
  result := congrArg Except.ok hvalue
  events := by
    refine ⟨[], ?_, ?_⟩
    · show Dumped herald [] t.events t'.events
      rw [hevents]
      exact .refl _
    · intro _ ha
      cases ha
      exact h

theorem bind (h : Dumps herald f P x y)
    (hk : ∀ ps a, P ps a → Dumps herald g (fun qs c => Q (ps ++ qs) c) (k a) (k' (f a))) :
    Dumps herald g Q (x >>= k) (y >>= k') := by
  obtain ⟨ps, hdumped, hframes⟩ := h.events
  have hresult := h.result
  obtain ⟨xs, xresult⟩ := x
  obtain ⟨ys, yresult⟩ := y
  cases xresult with
  | error fault =>
    cases hresult
    refine ⟨rfl, ps, hdumped, ?_⟩
    intro _ hok
    cases hok
  | ok a =>
    cases hresult
    have hrest := hk ps a (hframes a rfl)
    obtain ⟨qs, hdumped', hframes'⟩ := hrest.events
    exact ⟨hrest.result, ps ++ qs, hdumped.append hdumped', hframes'⟩

/-- The same work comes first. -/
theorem after {t : Trace α} {k' : α → Run ε} (h : Dumps herald g Q (k t.value) (k' t.value)) :
    Dumps herald g Q (Run.ofTrace t >>= k) (Run.ofTrace t >>= k') := by
  refine bind (trace (f := id) (P := fun ps a => ps = [] ∧ a = t.value) rfl rfl ⟨rfl, rfl⟩) ?_
  rintro _ _ ⟨rfl, rfl⟩
  exact h

theorem mono {P' : List Passage → α → Prop} (h : Dumps herald f P x y) (hP : ∀ ps a, P ps a → P' ps a) :
    Dumps herald f P' x y := by
  obtain ⟨ps, hdumped, hframes⟩ := h.events
  exact ⟨h.result, ps, hdumped, fun a ha => hP ps a (hframes a ha)⟩

/-- What is done with the value in the end. -/
theorem map {c : α → γ} {c' : β → ε} (h : Dumps herald f P x y) (hc : ∀ a, c' (f a) = g (c a))
    (hQ : ∀ ps a, P ps a → Q ps (c a)) : Dumps herald g Q (c <$> x) (c' <$> y) := by
  rw [← bind_pure_comp, ← bind_pure_comp]
  refine h.bind fun ps a ha => ?_
  rw [hc]
  exact .pure (by rw [List.append_nil]; exact hQ ps a ha)

/-- Apart from the reports, the two runs are one. -/
theorem keeping {c : α → γ} {c' : β → γ} (h : Dumps herald f P x y) (hc : ∀ ps a, P ps a → c' (f a) = c a) :
    (c' <$> y).keeping Event.isOther = (c <$> x).keeping Event.isOther := by
  obtain ⟨ps, hdumped, hframes⟩ := h.events
  have hothers := hdumped.others
  have hresult := h.result
  obtain ⟨xs, xresult⟩ := x
  obtain ⟨ys, yresult⟩ := y
  cases xresult with
  | error fault =>
    cases hresult
    exact Run.ext hothers rfl
  | ok a =>
    cases hresult
    refine Run.ext ?_ (congrArg Except.ok (hc ps a (hframes a rfl)))
    show (ys ++ []).filter _ = (xs ++ []).filter _
    rw [List.append_nil, List.append_nil, hothers]

/-- Turn by turn. -/
theorem loop {σ σ' : Type} {body : σ → Run (Turn σ α)} {body' : σ' → Run (Turn σ' β)} (view : σ → σ')
    (Inv : List Passage → σ → Prop)
    (hbody : ∀ ps s, Inv ps s → Dumps herald (Turn.map view f)
      (fun qs t => match t with | .again s => Inv (ps ++ qs) s | .done a => P (ps ++ qs) a) (body s) (body' (view s)))
    (limit : Nat) {ps : List Passage} {s : σ} (h : Inv ps s) :
    Dumps herald f (fun qs a => P (ps ++ qs) a) (Run.loop body limit s) (Run.loop body' limit (view s)) := by
  induction limit generalizing ps s with
  | zero => exact .stop _
  | succ limit ih =>
    rw [Run.loop_succ, Run.loop_succ]
    refine (hbody ps s h).bind ?_
    intro qs t ht
    cases t with
    | again s₁ =>
      refine (ih ht).mono ?_
      intro rs a ha
      rwa [← List.append_assoc]
    | done a => exact .pure (by rw [List.append_nil]; exact ht)

/-- The report of a message stands right before its herald. -/
theorem heralded {m : Message} (h : Dumps herald f (fun ps a => P (.inbound m.frame :: ps) a) x y) :
    Dumps herald f P (Run.ofTrace ⟨herald m, ()⟩ >>= fun _ => x)
      (Run.ofTrace (note (.frameIn m.frame)) >>= fun _ => Run.ofTrace ⟨herald m, ()⟩ >>= fun _ => y) := by
  obtain ⟨ps, hdumped, hframes⟩ := h.events
  exact ⟨h.result, _, .inbound m hdumped, hframes⟩

end Dumps

/-! ## Frames that are started -/

namespace Link

variable {n : Nat} {δ α : Type}

/-- The frame that was started in between, which is one on a link that was idle before. -/
def passed (l l' : Link n δ) : List Passage :=
  match l.armed? with
  | none => l'.armed?.toList.map .outbound
  | some _ => []

/-- What an operation of a link comes to, with the link reporting its frames or not. -/
def withReports {β : Type} (on : Bool) (r : β × Link n δ) : β × Link n δ :=
  (r.1, r.2.reporting on)

/-- The second link is the first one after these frames were started, if they are reported. A frame that was on the link
is there still. -/
structure Goes (on : Bool) (l : Link n δ) (ps : List Passage) (l' : Link n δ) : Prop where
  quiet : l'.dump = false
  keeps : ∀ frame, l.armed? = some frame → l'.armed? = some frame
  passed : on = true → ps = l.passed l'

namespace Goes

variable {on : Bool} {ps qs : List Passage} {l l₁ l' : Link n δ}

theorem refl (h : l.dump = false) : l.Goes on [] l where
  quiet := h
  keeps _ hframe := hframe
  passed _ := by
    unfold Link.passed
    cases harmed : l.armed? <;> rfl

theorem trans (h : l.Goes on ps l₁) (h₁ : l₁.Goes on qs l') : l.Goes on (ps ++ qs) l' where
  quiet := h₁.quiet
  keeps frame hframe := h₁.keeps frame (h.keeps frame hframe)
  passed hon := by
    rw [h.passed hon, h₁.passed hon]
    unfold Link.passed
    cases harmed : l.armed? with
    | some frame => rw [h.keeps frame harmed]; rfl
    | none =>
      cases harmed₁ : l₁.armed? with
      | some frame => rw [h₁.keeps frame harmed₁]; rfl
      | none => rfl

/-- On an idle link nothing counts but the frame. -/
theorem idle (h : l₁.Goes on ps l') (harmed : l.armed? = none) (harmed₁ : l₁.armed? = none) : l.Goes on ps l' where
  quiet := h.quiet
  keeps frame hframe := by
    rw [harmed] at hframe
    cases hframe
  passed hon := by
    rw [h.passed hon, Link.passed, Link.passed, harmed, harmed₁]

end Goes

variable {herald : Message → List Event} {on : Bool} {l : Link n δ}

/-- A link that is busy stops the work, whether it reports its frames or not. -/
theorem requireIdle_dumps {β : Type} {f : α → β} {P : List Passage → α → Prop} {x : Unit → Run α} {y : Unit → Run β}
    (h : l.sending = none → Dumps herald f P (x ()) (y ())) :
    Dumps herald f P (l.requireIdle >>= x) ((l.reporting on).requireIdle >>= y) := by
  have hsame : (l.reporting on).requireIdle = l.requireIdle := rfl
  rw [hsame]
  unfold requireIdle isBusy
  cases hsending : l.sending with
  | none => exact h hsending
  | some size => exact .stop .busy

variable {φ : Type} [Medium δ φ]

theorem start_dumps (hquiet : l.dump = false) (hidle : l.armed? = none) {size : Nat} (hsize : size ≤ n) :
    Dumps herald (reporting on) (fun ps l' => l.Goes on ps l') (Run.ofTrace (l.start size))
      (Run.ofTrace ((l.reporting on).start size)) := by
  obtain ⟨medium, buffer, sending, dump⟩ := l
  cases hquiet
  have hkeeps (l' : Link n δ) (frame : Bytes) (hframe : armed? ⟨medium, buffer, sending, false⟩ = some frame) :
      l'.armed? = some frame := by
    rw [hidle] at hframe
    cases hframe
  cases on with
  | false =>
    refine .trace rfl rfl ⟨rfl, hkeeps _, ?_⟩
    intro hon
    cases hon
  | true =>
    refine ⟨rfl, [.outbound (buffer.slice 0 size)], ?_, ?_⟩
    · have hlength : (buffer.slice 0 size).length = size := by
        have hbuffer := buffer.length_bytes
        rw [Buffer.slice, Bytes.length_slice]
        omega
      have hdumped : Dumped herald _ _ _ := .outbound (buffer.slice 0 size) .nil
      rw [hlength] at hdumped
      exact hdumped
    · intro l' hl'
      cases hl'
      refine ⟨rfl, hkeeps _, ?_⟩
      intro _
      rw [Link.passed, hidle]
      rfl

/-- The buffer is filled, then the frame is started. -/
theorem fill_dumps (hquiet : l.dump = false) (hidle : l.sending = none) (buffer : Buffer n) {size : Nat}
    (hsize : size ≤ n) :
    Dumps herald (withReports (β := Except TooLarge Unit) on) (fun ps r => l.Goes on ps r.2)
      (Run.ofTrace ({ l with buffer }.start size) >>= fun l => pure (.ok (), l))
      (Run.ofTrace ({ l.reporting on with buffer }.start size) >>= fun l => pure (.ok (), l)) := by
  have harmed : armed? { l with buffer } = none := armed?_idle hidle
  refine Dumps.bind (start_dumps (l := { l with buffer }) hquiet harmed hsize) ?_
  intro ps l' hgoes
  refine .pure ?_
  rw [List.append_nil]
  exact hgoes.idle (armed?_idle hidle) harmed

theorem send_dumps (hquiet : l.dump = false) (frame : Bytes) :
    Dumps herald (withReports on) (fun ps r => l.Goes on ps r.2) (l.send frame) ((l.reporting on).send frame) := by
  refine requireIdle_dumps fun hidle => ?_
  by_cases hshort : frame.length < Header.size
  · simp only [if_pos hshort]
    exact .stop .headless
  · simp only [if_neg hshort]
    by_cases hlong : frame.length > n
    · simp only [if_pos hlong]
      exact .pure (.refl hquiet)
    · simp only [if_neg hlong]
      exact fill_dumps hquiet hidle _ (Nat.le_of_not_lt hlong)

theorem commit_dumps (hn : Header.size < n) (hquiet : l.dump = false) (component operation channel : UInt8)
    (length : Nat) :
    Dumps herald (withReports on) (fun ps r => l.Goes on ps r.2)
      (l.commit component operation channel length) ((l.reporting on).commit component operation channel length) := by
  refine requireIdle_dumps fun hidle => ?_
  by_cases hlong : length > n - Header.size ∨ length > maxPayload
  · simp only [if_pos hlong]
    exact .pure (.refl hquiet)
  · simp only [if_neg hlong]
    exact fill_dumps hquiet hidle _ (by omega)

/-- A routine does the same on a link that reports its frames. -/
theorem Routine.dumps (hn : Header.size < n) (p : Routine n δ α) (hquiet : l.dump = false) :
    Dumps herald (withReports on) (fun ps r => l.Goes on ps r.2) (p.run l) (p.run (l.reporting on)) := by
  induction p generalizing l with
  | done a => exact .pure (.refl hquiet)
  | stop fault => exact .stop fault
  | say events next ih => exact .after (ih hquiet)
  | look next ih => exact ih l.quiet hquiet
  | touch medium next ih =>
    refine (ih (l := { l with medium }) hquiet).mono ?_
    intro ps r hgoes
    exact ⟨hgoes.quiet, hgoes.keeps, hgoes.passed⟩
  | write data next ih =>
    refine requireIdle_dumps fun hidle => ?_
    refine (ih (l := l.writePayload data) hquiet).mono ?_
    intro ps r hgoes
    exact hgoes.idle (armed?_idle hidle) (armed?_idle hidle)
  | send frame next ih =>
    refine Dumps.bind (send_dumps hquiet frame) ?_
    intro ps r hgoes
    refine (ih r.1 hgoes.quiet).mono ?_
    intro qs r' hgoes'
    exact hgoes.trans hgoes'
  | commit component operation channel length next ih =>
    refine Dumps.bind (commit_dumps hn hquiet component operation channel length) ?_
    intro ps r hgoes
    refine (ih r.1 hgoes.quiet).mono ?_
    intro qs r' hgoes'
    exact hgoes.trans hgoes'

end Link

namespace Start

variable {n : Nat} {δ : Type}

/-- Each way to start a frame is a routine. -/
def routine : Start → Link.Routine n δ Bool
  | bytes frame => .send frame fun result => .done result.isOk
  | message m => .message m fun result => .done result.isOk
  | request channel r => .request channel r fun result => .done result.isOk
  | commit component operation channel length =>
    .commit component operation channel length fun result => .done result.isOk

theorem run_routine {φ : Type} [Medium δ φ] (s : Start) (l : Link n δ) : s.run l = s.routine.run l := by
  cases s with
  | bytes frame => rfl
  | message m =>
    rw [routine, Link.Routine.run_message]
    rfl
  | request channel r =>
    rw [routine, Link.Routine.run_request]
    rfl
  | commit component operation channel length => rfl

end Start

/-! ## Attended endpoints -/

/-- A handler that is attended: each message is heralded before the handler takes it, and the frames that pass are noted
down. -/
structure Attended (herald : Message → List Event) (η : Type) where
  handler : η
  passages : List Passage := []

instance {herald : Message → List Event} {η : Type} [Handler η] : Handler (Attended herald η) where
  onMessage a m link := do
    Run.ofTrace ⟨herald m, ()⟩
    let (handler, link') ← Handler.onMessage a.handler m link
    pure (⟨handler, a.passages ++ .inbound m.frame :: link.passed link'⟩, link')
  onSent a link := do
    let (handler, link') ← Handler.onSent a.handler link
    pure (⟨handler, a.passages ++ link.passed link'⟩, link')

namespace Endpoint

variable {n : Nat} {δ η : Type}

/-- The endpoint, reporting its frames or not. -/
def reporting (on : Bool) (e : Endpoint n δ η) : Endpoint n δ η :=
  { e with link := e.link.reporting on }

/-- What an operation of an endpoint comes to, with the endpoint reporting its frames or not. -/
def withReports {β : Type} (on : Bool) (r : β × Endpoint n δ η) : β × Endpoint n δ η :=
  (r.1, r.2.reporting on)

/-- The bytes of the frame in the receive buffer. -/
def arrivedBytes (e : Endpoint n δ η) : Bytes :=
  e.inbox.slice 0 (Header.size + e.header.length.toNat)

/-- The message in the receive buffer. -/
def arrived (e : Endpoint n δ η) : Message :=
  ⟨e.header.component, e.header.operation, e.header.channel, e.arrivedBytes.drop Header.size⟩

/-- What is in the receive buffer is the frame of the message. -/
theorem arrivedBytes_eq (e : Endpoint n δ η) (hfits : Header.size + e.header.length.toNat ≤ n) :
    e.arrivedBytes = e.arrived.frame := by
  have hlength := e.inbox.length_bytes
  obtain ⟨length, hdeclared⟩ : ∃ length, Framing.declared? e.inbox.bytes = some length := by
    apply Option.ne_none_iff_exists'.mp
    intro hnone
    have hshort := Framing.declared?_eq_none.mp hnone
    omega
  obtain ⟨component, operation, channel, high, low, rest, hbytes, rfl⟩ := Framing.declared?_eq_some.mp hdeclared
  have hheader : e.header = ⟨component, operation, channel, UInt16.ofNat (256 * high.toNat + low.toNat)⟩ := by
    rw [header, hbytes, Framing.read?_cons]
    rfl
  have hdeclares : e.header.length.toNat = 256 * high.toNat + low.toNat := by
    rw [hheader]
    exact Framing.toNat_length high low
  have hrest : (rest.take (256 * high.toNat + low.toNat)).length = 256 * high.toNat + low.toNat := by
    rw [hbytes] at hlength
    simp only [List.length_cons, List.length_take, Header.size] at hlength hfits ⊢
    omega
  have harrived : e.arrivedBytes =
      component :: operation :: channel :: high :: low :: rest.take (256 * high.toNat + low.toNat) := by
    rw [arrivedBytes, Buffer.slice, Bytes.slice, hbytes, hdeclares, Nat.add_comm]
    rfl
  rw [arrived, harrived, hheader]
  exact (Framing.frame_eq component operation channel high low hrest).symm

variable {herald : Message → List Event} {on : Bool}

/-- The endpoint reports no frames, and what it waits for is what the header in its receive buffer declares. -/
structure Calm (e : Endpoint n δ η) : Prop where
  quiet : e.link.dump = false
  valid : e.reception.Valid n e.header

/-- The second endpoint is the first one after these frames passed it, if they are reported. -/
structure Goes (on : Bool) (e : Endpoint n δ (Attended herald η)) (ps : List Passage)
    (e' : Endpoint n δ (Attended herald η)) : Prop where
  calm : e'.Calm
  passages : on = true → e'.handler.passages = e.handler.passages ++ ps

variable {e e₁ : Endpoint n δ (Attended herald η)} {ps : List Passage}

/-- No frame has passed. -/
theorem Goes.still {e' : Endpoint n δ (Attended herald η)} (h : e'.Calm) (hhandler : e'.handler = e.handler) :
    e.Goes on [] e' where
  calm := h
  passages _ := by rw [hhandler, List.append_nil]

theorem Goes.trans {qs : List Passage} {e' : Endpoint n δ (Attended herald η)} (h : e.Goes on ps e₁)
    (h₁ : e₁.Goes on qs e') : e.Goes on (ps ++ qs) e' where
  calm := h₁.calm
  passages hon := by rw [h₁.passages hon, h.passages hon, List.append_assoc]

variable {φ : Type} [Medium δ φ]

theorem arm_dumps {β : Type} (h : e.Goes on ps e₁) (reception : Reception) (hvalid : reception.Valid n e₁.header)
    (report : β) :
    Dumps herald (withReports on) (fun qs r => e.Goes on (ps ++ qs) r.2)
      (Run.ofTrace (e₁.arm reception) >>= fun e => pure (report, e))
      (Run.ofTrace ((e₁.reporting on).arm reception) >>= fun e => pure (report, e)) := by
  refine Dumps.bind (Dumps.trace (f := reporting on) (P := fun qs e' => qs = [] ∧ e' = (e₁.arm reception).value) rfl rfl
    ⟨rfl, rfl⟩) ?_
  rintro _ _ ⟨rfl, rfl⟩
  refine .pure ?_
  show e.Goes on (ps ++ []) _
  rw [List.append_nil]
  exact ⟨⟨h.calm.quiet, hvalid⟩, h.passages⟩

theorem abandonSend_dumps (h : e.Calm) :
    Dumps herald (reporting on) (fun ps e' => e.Goes on ps e') (Run.ofTrace e.abandonSend)
      (Run.ofTrace (e.reporting on).abandonSend) := by
  have hbusy : (e.reporting on).link.isBusy = e.link.isBusy := rfl
  unfold abandonSend Link.abandon
  rw [hbusy]
  cases e.link.isBusy with
  | true => exact .trace rfl rfl (.still ⟨h.quiet, h.valid⟩ rfl)
  | false => exact .trace rfl rfl (.still h rfl)

variable [Handler η]

/-- The handler takes a message, and what passes is noted down. -/
def hand (e : Endpoint n δ (Attended herald η)) (m : Message) : Run (Endpoint n δ (Attended herald η)) := do
  let (handler, link) ← Handler.onMessage e.handler.handler m e.link
  pure { e with handler := ⟨handler, e.handler.passages ++ .inbound m.frame :: e.link.passed link⟩, link }

/-- A delivery is the report, if there is one, then the herald, then the call of the handler. -/
theorem deliver_attended (e : Endpoint n δ (Attended herald η)) : e.deliver e.header =
    if e.link.dump then
      Run.ofTrace (note (.frameIn e.arrivedBytes)) >>= fun _ => Run.ofTrace ⟨herald e.arrived, ()⟩ >>= fun _ =>
        e.hand e.arrived
    else Run.ofTrace ⟨herald e.arrived, ()⟩ >>= fun _ => e.hand e.arrived := by
  unfold deliver hand
  cases e.link.dump <;> simp only [Handler.onMessage, bind_assoc, pure_bind] <;> rfl

variable [Scripted η]

theorem hand_dumps (hn : Header.size < n) (h : e.Calm)
    (m : Message) :
    Dumps herald (reporting on) (fun ps e' => e.Goes on (.inbound m.frame :: ps) e') (e.hand m)
      ((e.reporting on).hand m) := by
  have hcall : Dumps herald (Link.withReports on) (fun ps r => e.link.Goes on ps r.2)
      (Handler.onMessage e.handler.handler m e.link) (Handler.onMessage e.handler.handler m (e.link.reporting on)) := by
    rw [Scripted.onMessage, Scripted.onMessage]
    exact (Scripted.message e.handler.handler m).dumps hn h.quiet
  refine hcall.bind ?_
  intro ps r hgoes
  refine .pure ⟨⟨hgoes.quiet, h.valid⟩, ?_⟩
  intro hon
  rw [List.append_nil, hgoes.passed hon]

theorem deliver_dumps (hn : Header.size < n) (h : e.Calm)
    (hfits : Header.size + e.header.length.toNat ≤ n) :
    Dumps herald (reporting on) (fun ps e' => e.Goes on ps e') (e.deliver e.header)
      ((e.reporting on).deliver e.header) := by
  have hreporting : (e.reporting on).deliver e.header =
      if on then
        Run.ofTrace (note (.frameIn e.arrivedBytes)) >>= fun _ =>
          Run.ofTrace ⟨herald e.arrived, ()⟩ >>= fun _ => (e.reporting on).hand e.arrived
      else Run.ofTrace ⟨herald e.arrived, ()⟩ >>= fun _ => (e.reporting on).hand e.arrived :=
    (e.reporting on).deliver_attended
  rw [deliver_attended e, h.quiet, hreporting]
  cases on with
  | false =>
    refine Dumps.after ((hand_dumps hn h e.arrived).mono ?_)
    intro ps e' hgoes
    refine ⟨hgoes.calm, ?_⟩
    intro hon
    cases hon
  | true =>
    rw [e.arrivedBytes_eq hfits]
    exact .heralded (hand_dumps hn h e.arrived)

theorem blockReceived_dumps (hn : Header.size < n) (h : e.Calm) :
    Dumps herald (withReports on) (fun ps r => e.Goes on ps r.2) e.blockReceived (e.reporting on).blockReceived := by
  have hstays : e.Goes on [] e := .still h rfl
  have hhandover (hfits : Header.size + e.header.length.toNat ≤ n) :
      Dumps herald (withReports (β := Except Oversized Unit) on) (fun ps r => e.Goes on ps r.2)
        (e.deliver e.header >>= fun e => Run.ofTrace (e.arm .header) >>= fun e => pure (.ok (), e))
        ((e.reporting on).deliver e.header >>= fun e => Run.ofTrace (e.arm .header) >>= fun e => pure (.ok (), e)) := by
    refine (deliver_dumps hn h hfits).bind ?_
    intro ps e₁ hgoes
    exact arm_dumps hgoes .header trivial _
  have hnext := valid_verdict hn h.valid
  have hreception : (e.reporting on).reception = e.reception := rfl
  have hheader : (e.reporting on).header = e.header := rfl
  have hcapacity : (e.reporting on).capacity = e.capacity := rfl
  unfold blockReceived
  unfold verdict at hnext
  rw [hreception]
  cases hstate : e.reception with
  | header =>
    rw [hstate] at hnext
    simp only [hheader, hcapacity] at hnext ⊢
    refine Dumps.after ?_
    by_cases hzero : e.header.length.toNat = 0
    · rw [if_pos hzero] at hnext
      rw [if_pos hzero, if_pos hzero]
      exact hhandover hnext
    · rw [if_neg hzero] at hnext
      rw [if_neg hzero, if_neg hzero]
      by_cases hlong : e.header.length.toNat > e.capacity
      · rw [if_pos hlong] at hnext
        rw [if_pos hlong, if_pos hlong]
        refine Dumps.after ?_
        have hcounts : e.Goes on [] { e with oversized := e.oversized.plus 1 } := .still ⟨h.quiet, h.valid⟩ rfl
        exact arm_dumps hcounts (.skipping _) hnext _
      · rw [if_neg hlong] at hnext
        rw [if_neg hlong, if_neg hlong]
        exact arm_dumps hstays (.payload _) hnext _
  | payload length =>
    rw [hstate] at hnext
    exact hhandover hnext
  | skipping left =>
    rw [hstate] at hnext
    exact arm_dumps hstays _ hnext _

theorem blockSent_dumps (hn : Header.size < n) (h : e.Calm) :
    Dumps herald (reporting on) (fun ps e' => e.Goes on ps e') e.blockSent (e.reporting on).blockSent := by
  have hsending : (e.reporting on).link.sending = e.link.sending := rfl
  unfold blockSent
  rw [hsending]
  cases e.link.sending with
  | none => exact .pure (.still h rfl)
  | some size =>
    have hcall : Dumps herald (Link.withReports on)
        (fun ps r => Link.Goes on { e.link with sending := none } ps r.2)
        (Handler.onSent e.handler.handler { e.link with sending := none })
        (Handler.onSent e.handler.handler ({ e.link with sending := none }.reporting on)) := by
      rw [Scripted.onSent, Scripted.onSent]
      exact (Scripted.report e.handler.handler).dumps hn h.quiet
    refine Dumps.after ?_
    simp only [Handler.onSent, bind_assoc, pure_bind]
    refine hcall.bind ?_
    intro ps r hgoes
    refine .pure ⟨⟨hgoes.quiet, h.valid⟩, ?_⟩
    intro hon
    rw [List.append_nil, hgoes.passed hon]

theorem pollReceive_dumps (hn : Header.size < n) (h : e.Calm) :
    Dumps herald (withReports on) (fun ps r => e.Goes on ps r.2) e.pollReceive (e.reporting on).pollReceive := by
  have harmed : (e.reporting on).armed = e.armed := rfl
  have hmedium : (e.reporting on).link.medium = e.link.medium := rfl
  unfold pollReceive
  rw [harmed, hmedium]
  rcases Medium.pollReceive e.link.medium e.armed with ⟨result, block, medium⟩
  have hstored : e.Goes on [] { e.store 0 block with link.medium := medium } :=
    .still ⟨h.quiet, valid_store hn h.valid 0 block⟩ rfl
  rcases result with kind | _ | _
  · exact .pure hstored
  · exact .pure hstored
  · refine (blockReceived_dumps hn hstored.calm).bind ?_
    rintro ps ⟨report, e₁⟩ hgoes
    have hdone := hstored.trans hgoes
    cases report <;> exact .pure (by rw [List.append_nil]; exact hdone)

theorem pollSend_dumps (hn : Header.size < n) (h : e.Calm) :
    Dumps herald (withReports on) (fun ps r => e.Goes on ps r.2) e.pollSend (e.reporting on).pollSend := by
  have harmed : (e.reporting on).link.armed? = e.link.armed? := rfl
  have hmedium : (e.reporting on).link.medium = e.link.medium := rfl
  unfold pollSend
  rw [harmed, hmedium]
  cases e.link.armed? with
  | none => exact .pure (.still h rfl)
  | some frame =>
    refine Dumps.after ?_
    rcases (Medium.pollSend e.link.medium frame).value with ⟨kind | _ | _, medium⟩
    · exact .pure (.still ⟨h.quiet, h.valid⟩ rfl)
    · exact .pure (.still ⟨h.quiet, h.valid⟩ rfl)
    · refine (blockSent_dumps (e := { e with link.medium := medium }) hn ⟨h.quiet, h.valid⟩).bind ?_
      intro ps e₁ hgoes
      refine .pure ?_
      rw [List.append_nil]
      exact ⟨hgoes.calm, hgoes.passages⟩

theorem pollOnce_dumps (hn : Header.size < n) (h : e.Calm) :
    Dumps herald (withReports on) (fun ps r => e.Goes on ps r.2) e.pollOnce (e.reporting on).pollOnce := by
  refine (pollSend_dumps hn h).bind ?_
  rintro ps ⟨error | sent, e₁⟩ hsend
  · exact .pure (by rw [List.append_nil]; exact hsend)
  · refine (pollReceive_dumps hn hsend.calm).bind ?_
    rintro qs ⟨error | received, e₂⟩ hreceive
    · exact .pure (by rw [List.append_nil]; exact hsend.trans hreceive)
    · exact .pure (by rw [List.append_nil]; exact hsend.trans hreceive)

theorem poll_dumps (hn : Header.size < n) (h : e.Calm) (rounds : Nat) :
    Dumps herald (withReports on) (fun ps r => e.Goes on ps r.2) (e.poll rounds) ((e.reporting on).poll rounds) := by
  refine Dumps.loop (P := fun ps (r : Except (PollError φ) Bool × _) => e.Goes on ps r.2) (withReports on)
    (fun ps s => e.Goes on ps s.2) ?_ rounds (s := (false, e)) (.still h rfl)
  rintro ps ⟨any, e₁⟩ hgoes
  refine (pollOnce_dumps hn hgoes.calm).bind ?_
  rintro qs ⟨error | _ | _, e₂⟩ honce
  all_goals exact .pure (by rw [List.append_nil]; exact hgoes.trans honce)

end Endpoint

/-! ## What the owner does -/

/-- What the owner of an endpoint gets to know. -/
inductive Answer (φ α : Type) where
  | polled (result : Except (PollError φ) Bool)
  | received (result : Except Oversized Unit)
  | started (accepted : Bool)
  | dealt (a : α)

def Drive.answer {n : Nat} {δ η α φ : Type} [Medium δ φ] [Handler η] (e : Endpoint n δ η) :
    Drive → Run (List (Answer φ α) × Endpoint n δ η)
  | receive => (fun r => ([.polled r.1], r.2)) <$> e.pollReceive
  | send => (fun r => ([.polled r.1], r.2)) <$> e.pollSend
  | both rounds => (fun r => ([.polled r.1], r.2)) <$> e.poll rounds
  | accept data => (fun r => ([.received r.1], r.2)) <$> e.accept data
  | sent => (fun e => ([], e)) <$> e.blockSent
  | abandon => (fun e => ([], e)) <$> (liftM e.abandonSend : Run _)

/-- Something that the owner of an endpoint does. -/
inductive Job (n : Nat) (δ η α : Type) where
  | drive (d : Drive)
  /-- write into the block that is armed for reception -/
  | store (offset : Nat) (data : Bytes)
  /-- report all frames from now on -/
  | dump
  | start (s : Start)
  /-- something with the handler and the link -/
  | deal (routine : η → Link.Routine n δ (α × η))

namespace Job

variable {n : Nat} {δ η α : Type}

def isDump : Job n δ η α → Bool
  | dump => true
  | _ => false

/-- The same, and the dump is never switched on. -/
def silent (jobs : List (Job n δ η α)) : List (Job n δ η α) :=
  jobs.filter fun d => !d.isDump

variable {φ : Type} [Medium δ φ] [Handler η]

def run (e : Endpoint n δ η) : Job n δ η α → Run (List (Answer φ α) × Endpoint n δ η)
  | drive d => d.answer e
  | store offset data => pure ([], e.store offset data)
  | dump => pure ([], e.enableDump)
  | start s => do
    let (accepted, link) ← s.run e.link
    pure ([.started accepted], { e with link })
  | deal routine => do
    let ((a, handler), link) ← (routine e.handler).run e.link
    pure ([.dealt a], { e with handler, link })

variable {herald : Message → List Event}

/-- The same with an endpoint that is attended: the frames that the owner starts are noted down, too. -/
def attend (e : Endpoint n δ (Attended herald η)) :
    Job n δ η α → Run (List (Answer φ α) × Endpoint n δ (Attended herald η))
  | drive d => d.answer e
  | store offset data => pure ([], e.store offset data)
  | dump => pure ([], e.enableDump)
  | start s => do
    let (accepted, link) ← s.run e.link
    pure ([.started accepted], { e with handler.passages := e.handler.passages ++ e.link.passed link, link })
  | deal routine => do
    let ((a, handler), link) ← (routine e.handler.handler).run e.link
    pure ([.dealt a], { e with handler := ⟨handler, e.handler.passages ++ e.link.passed link⟩, link })

/-- The frames pass an attended endpoint that reports them as they pass one that does not. -/
theorem attend_dumps [Scripted η] {on : Bool} {e : Endpoint n δ (Attended herald η)} (hn : Header.size < n) (h : e.Calm)
    {d : Job n δ η α} (hd : d.isDump = false) :
    Dumps herald (Endpoint.withReports on) (fun ps r => e.Goes on ps r.2) (d.attend e) (d.attend (e.reporting on)) := by
  cases d with
  | dump => cases hd
  | store offset data => exact .pure (.still ⟨h.quiet, Endpoint.valid_store hn h.valid offset data⟩ rfl)
  | start s =>
    have hstart : Dumps herald (Link.withReports on) (fun ps r => e.link.Goes on ps r.2) (s.run e.link)
        (s.run (e.link.reporting on)) := by
      rw [s.run_routine, s.run_routine]
      exact s.routine.dumps hn h.quiet
    refine hstart.bind ?_
    rintro ps ⟨accepted, link⟩ hgoes
    refine .pure ⟨⟨hgoes.quiet, h.valid⟩, ?_⟩
    intro hon
    rw [List.append_nil, hgoes.passed hon]
  | deal routine =>
    refine ((routine e.handler.handler).dumps hn h.quiet).bind ?_
    rintro ps ⟨⟨a, handler⟩, link⟩ hgoes
    refine .pure ⟨⟨hgoes.quiet, h.valid⟩, ?_⟩
    intro hon
    rw [List.append_nil, hgoes.passed hon]
  | drive d =>
    cases d with
    | receive => exact (Endpoint.pollReceive_dumps hn h).map (fun _ => rfl) (fun _ _ hgoes => hgoes)
    | send => exact (Endpoint.pollSend_dumps hn h).map (fun _ => rfl) (fun _ _ hgoes => hgoes)
    | both rounds => exact (Endpoint.poll_dumps hn h rounds).map (fun _ => rfl) (fun _ _ hgoes => hgoes)
    | accept data =>
      have hstored : (e.store 0 data).Calm := ⟨h.quiet, Endpoint.valid_store hn h.valid 0 data⟩
      refine (Endpoint.blockReceived_dumps hn hstored).map (fun _ => rfl) ?_
      intro ps r hgoes
      exact ⟨hgoes.calm, hgoes.passages⟩
    | sent => exact (Endpoint.blockSent_dumps hn h).map (fun _ => rfl) (fun _ _ hgoes => hgoes)
    | abandon => exact (Endpoint.abandonSend_dumps h).map (fun _ => rfl) (fun _ _ hgoes => hgoes)

end Job

/-! ## One thing after the other -/

/-- Do one thing after the other, and collect the answers. -/
def Run.each {σ κ β : Type} (step : σ → κ → Run (List β × σ)) (s : σ) : List κ → Run (List β × σ)
  | [] => pure ([], s)
  | k :: rest => do
    let (answers, s) ← step s k
    let (more, s) ← each step s rest
    pure (answers ++ more, s)

theorem Run.each_map {σ σ' κ β : Type} {step : σ → κ → Run (List β × σ)} {step' : σ' → κ → Run (List β × σ')}
    {f : σ → σ'} (h : ∀ s k, step' (f s) k = (fun r => (r.1, f r.2)) <$> step s k) (s : σ) (ks : List κ) :
    each step' (f s) ks = (fun r => (r.1, f r.2)) <$> each step s ks := by
  induction ks generalizing s with
  | nil => rfl
  | cons k rest ih =>
    refine bind_map_congr (h s k) ?_
    rintro ⟨answers, s₁⟩
    refine bind_map_congr (ih s₁) ?_
    rintro ⟨more, s₂⟩
    rfl

namespace Job

variable {n : Nat} {δ η α φ : Type} [Medium δ φ] [Handler η] {herald : Message → List Event}

def runAll (e : Endpoint n δ η) (jobs : List (Job n δ η α)) : Run (List (Answer φ α) × Endpoint n δ η) :=
  Run.each run e jobs

def attendAll (e : Endpoint n δ (Attended herald η)) (jobs : List (Job n δ η α)) :
    Run (List (Answer φ α) × Endpoint n δ (Attended herald η)) :=
  Run.each attend e jobs

variable {e : Endpoint n δ (Attended herald η)}

/-- Whether and when frames are reported does not matter to anything else. -/
theorem attendAll_dumps [Scripted η] (hn : Header.size < n) (h : e.Calm) (on : Bool) (jobs : List (Job n δ η α)) :
    Dumps herald (Endpoint.withReports (on || jobs.any isDump)) (fun ps r => e.Goes on ps r.2)
      (attendAll e (silent jobs)) (attendAll (e.reporting on) jobs) := by
  induction jobs generalizing e on with
  | nil =>
    rw [List.any_nil, Bool.or_false]
    exact .pure (.still h rfl)
  | cons job rest ih =>
    cases hd : job.isDump with
    | true =>
      obtain rfl : job = dump := by cases job <;> first | rfl | cases hd
      have hfull : attendAll (e.reporting on) (dump :: rest) = attendAll (e.reporting true) rest :=
        bind_pure (attendAll (e.reporting true) rest)
      have hon : (on || (dump :: rest).any isDump) = (true || rest.any isDump) := Bool.or_true on
      rw [hfull, hon]
      refine (ih h true).mono ?_
      intro ps r hgoes
      exact ⟨hgoes.calm, fun _ => hgoes.passages rfl⟩
    | false =>
      have hsilent : silent (job :: rest) = job :: silent rest := List.filter_cons_of_pos (by rw [hd]; rfl)
      rw [hsilent, List.any_cons, hd, Bool.false_or]
      refine (attend_dumps hn h hd).bind ?_
      rintro ps ⟨answers, e₁⟩ hgoes
      refine (ih hgoes.calm on).bind ?_
      rintro qs ⟨more, e₂⟩ hrest
      exact .pure (by rw [List.append_nil]; exact hgoes.trans hrest)

/-- A handler does the same if it is attended and nothing is heralded. -/
theorem forgets_attended : Forgets (Attended.handler : Attended (fun _ => []) η → η) where
  onMessage a m l := by
    show _ =
      (fun r : Attended _ η × Link _ _ => (r.1.handler, r.2)) <$> (Handler.onMessage a.handler m l >>= fun r => pure _)
    simp only [map_bind, map_pure]
    exact (bind_pure _).symm
  onSent a l := by
    show _ =
      (fun r : Attended _ η × Link _ _ => (r.1.handler, r.2)) <$> (Handler.onSent a.handler l >>= fun r => pure _)
    simp only [map_bind, map_pure]
    exact (bind_pure _).symm

theorem run_attend (e : Endpoint n δ (Attended (fun _ => []) η)) (job : Job n δ η α) :
    job.run (e.swap Attended.handler) = Endpoint.swapped Attended.handler <$> job.attend e := by
  have hforgets := forgets_attended (η := η)
  cases job with
  | store offset data => rfl
  | dump => rfl
  | start s => exact Run.bind_map_same fun _ => rfl
  | deal routine => exact Run.bind_map_same fun _ => rfl
  | drive d =>
    show d.answer (e.swap Attended.handler) = Endpoint.swapped Attended.handler <$> d.answer e
    cases d with
    | receive => exact Run.bind_map_congr (hforgets.pollReceive e) fun _ => rfl
    | send => exact Run.bind_map_congr (hforgets.pollSend e) fun _ => rfl
    | both rounds => exact Run.bind_map_congr (hforgets.poll rounds e) fun _ => rfl
    | accept data => exact Run.bind_map_congr (hforgets.blockReceived (e.store 0 data)) fun _ => rfl
    | sent => exact Run.bind_map_congr (hforgets.blockSent e) fun _ => rfl
    | abandon => exact Run.bind_map_congr (hforgets.drive .abandon e) fun _ => rfl

theorem runAll_attendAll (e : Endpoint n δ (Attended (fun _ => []) η)) (jobs : List (Job n δ η α)) :
    runAll (e.swap Attended.handler) jobs = Endpoint.swapped Attended.handler <$> attendAll e jobs :=
  Run.each_map run_attend e jobs

end Job

namespace Endpoint

variable {n : Nat} {δ η : Type}

theorem reporting_quiet {e : Endpoint n δ η} (h : e.link.dump = false) : e.reporting false = e := by
  obtain ⟨⟨medium, buffer, sending, dump⟩, inbox, reception, handler, oversized⟩ := e
  cases h
  rfl

theorem calm_attach {φ : Type} [Medium δ φ] {medium : δ} {handler : η} {e : Endpoint n δ η}
    (hattach : (attach n medium handler).result = .ok e) : Header.size < n ∧ e.Calm := by
  obtain ⟨hn, rfl⟩ := attach_ok hattach
  exact ⟨hn, rfl, trivial⟩

/-- An endpoint that is attended from now on. -/
def attended (herald : Message → List Event) (e : Endpoint n δ η) : Endpoint n δ (Attended herald η) :=
  ⟨e.link, e.inbox, e.reception, ⟨e.handler, []⟩, e.oversized⟩

end Endpoint

namespace Job

variable {n : Nat} {δ η α φ : Type} [Medium δ φ] [Handler η] [Scripted η] {e : Endpoint n δ η}

theorem runAll_silent (hn : Header.size < n) (h : e.Calm) (jobs : List (Job n δ η α)) :
    (Endpoint.withReports false <$> runAll e jobs).keeping Event.isOther =
      (runAll e (silent jobs)).keeping Event.isOther := by
  have hall (jobs : List (Job n δ η α)) : runAll e jobs = Endpoint.swapped Attended.handler <$> attendAll _ jobs :=
    runAll_attendAll (e.attended fun _ => []) jobs
  have hdumps := attendAll_dumps (e := e.attended fun _ => []) hn ⟨h.quiet, h.valid⟩ false jobs
  rw [Endpoint.reporting_quiet (e := e.attended fun _ => []) h.quiet] at hdumps
  rw [hall, hall, ← comp_map]
  refine hdumps.keeping ?_
  intro ps r hgoes
  have hquiet := Endpoint.reporting_quiet hgoes.calm.quiet
  show (r.1, (r.2.reporting false).swap Attended.handler) = (r.1, r.2.swap Attended.handler)
  rw [hquiet]

theorem attendAll_reports (hn : Header.size < n) (h : e.Calm) (herald : Message → List Event)
    (jobs : List (Job n δ η α)) :
    Dumps herald (Endpoint.withReports true) (fun frames r => r.2.handler.passages = frames)
      (attendAll (e.attended herald) (silent jobs)) (attendAll (e.attended herald).enableDump jobs) := by
  have hdumps := attendAll_dumps (e := e.attended herald) hn ⟨h.quiet, h.valid⟩ true jobs
  rw [Bool.true_or] at hdumps
  refine hdumps.mono ?_
  intro ps r hgoes
  exact hgoes.passages rfl

end Job

/-- Whatever is done with a new endpoint whose handler uses the link by its operations, and whenever the dump is
switched on: without its reports, the run is the one in which the dump is never switched on, with all answers, states
and faults.

With the dump on from the start, the report of each frame stands right before the medium is told of it or right before
its message reaches the handler. The frames that are reported are those that passed. If nobody else writes
such lines, the lines that start with an arrow are the texts of these frames, in order, and the frames can be read off
the log, since each text is the text of one frame only. -/
theorem dump_faithful {n : Nat} {δ η α φ : Type} [Medium δ φ] [Handler η] [Scripted η] {medium : δ} {handler : η}
    {e : Endpoint n δ η} (hattach : (Endpoint.attach n medium handler).result = .ok e) (jobs : List (Job n δ η α)) :
    (Endpoint.withReports false <$> Job.runAll e jobs).keeping Event.isOther =
        (Job.runAll e (Job.silent jobs)).keeping Event.isOther ∧
      (∀ herald,
        let quiet := Job.attendAll (e.attended herald) (Job.silent jobs)
        let dumped := Job.attendAll (e.attended herald).enableDump jobs
        let log := dumped.events.filterMap Event.line?
        dumped.result = quiet.result.map (Endpoint.withReports true) ∧
          ∃ frames, Dumped herald frames quiet.events dumped.events ∧
            (∀ r, quiet.result = .ok r → r.2.handler.passages = frames) ∧
            (quiet.events.filterMap Event.passage? = [] →
              log.filter Passage.marks = frames.map Passage.text ∧ log.filterMap Passage.ofText? = frames)) ∧
      ∀ line p, Passage.ofText? line = some p ↔ line = p.text := by
  obtain ⟨hn, hcalm⟩ := Endpoint.calm_attach hattach
  refine ⟨Job.runAll_silent hn hcalm jobs, ?_, fun _ _ => Passage.ofText?_eq_some⟩
  intro herald quiet dumped log
  have hreports : Dumps herald _ _ quiet dumped := Job.attendAll_reports hn hcalm herald jobs
  obtain ⟨frames, hdumped, hframes⟩ := hreports.events
  exact ⟨hreports.result, frames, hdumped, hframes, hdumped.log⟩

/-- A bridge with a service that replies once. -/
def replyOnce : Router Bench.Device :=
  { capacity := 1
    services := [(7, .scripted [⟨[.setOperation 9, .draft (.put [0, 65])], .replied⟩])] }

/-- A request in two blocks, the end of the response, a header that declares too much, then a message of the owner that
does not fit and one that does. -/
def traffic : List (Job 8 Detached (Router Bench.Device) Unit) :=
  [.drive (.accept [7, 1, 0, 0, 2]), .drive (.accept [4, 5]), .drive .sent, .drive (.accept [7, 1, 0, 1, 0]),
    .start (.message ⟨9, 1, 0, [1, 2, 3, 4]⟩), .start (.message ⟨9, 1, 0, []⟩)]

theorem dump_faithful_bridge : ∃ e answers e',
    (Endpoint.attach 8 (⟨⟩ : Detached) replyOnce).result = .ok e ∧
      (Job.attendAll (e.attended fun _ => [.remark "message"]) (Job.silent traffic)).result = .ok (answers, e') ∧
      ((Job.attendAll (e.attended fun _ => [.remark "message"]).enableDump traffic).events.filterMap Event.line?).filter
          Passage.marks =
        ["<- 07 01 00 00 02 04 05", "-> 07 09 00 00 02 00 41", "-> 09 01 00 00 00"] := by
  obtain ⟨e, hattach⟩ : ∃ e, (Endpoint.attach 8 (⟨⟩ : Detached) replyOnce).result = .ok e := ⟨_, rfl⟩
  have hpassages : (Job.attendAll (e.attended fun _ => [.remark "message"]) (Job.silent traffic)).result.toOption.map
      (fun r => r.2.handler.passages) =
        some [.inbound [7, 1, 0, 0, 2, 4, 5], .outbound [7, 9, 0, 0, 2, 0, 65], .outbound [9, 1, 0, 0, 0]] := by
    cases hattach
    cbv
  have hnone : (Job.attendAll (e.attended fun _ => [.remark "message"]) (Job.silent traffic)).events.filterMap
      Event.passage? = [] := by
    cases hattach
    cbv
  obtain ⟨⟨answers, e'⟩, hrun, hframes⟩ := Option.map_eq_some_iff.mp hpassages
  have hrun := Outcomes.toOption_eq_some.mp hrun
  obtain ⟨_, hattended, _⟩ := dump_faithful hattach traffic
  obtain ⟨_, frames, _, hpassed, hlog⟩ := hattended fun _ => [.remark "message"]
  refine ⟨e, answers, e', hattach, hrun, ?_⟩
  rw [(hlog hnone).1, ← hpassed _ hrun, hframes]
  rfl

end BusBridge
