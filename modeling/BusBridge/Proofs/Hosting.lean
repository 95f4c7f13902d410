import Mathlib
import BusBridge.Proofs.Delivery
import BusBridge.Proofs.Detaching
import BusBridge.Proofs.Sequential
/-!
# Polled and served bridges agree

A bridge can be polled, on a stream that hands its bytes over in pieces and with pauses, or served, on a bus that is
read block by block. Both do the same with the same bytes (`Hosting.polled_as_served`).

Neither loop is compared with the other. Both are compared with a third one, which has no line at all: a `Digest` is a
detached endpoint with a byte string, and its turn sends the frame on the link or else takes the next block out of the
string. Digesting has one outcome (`Digest.outcome_unique`). A turn of serving is one or two turns of it. A polled
endpoint mirrors a digest that has got as far as the last complete block (`Endpoint.Mirrors`): the bytes of the
open block are in its receive buffer already, and they are still in the string that the digest has left.

**What it does not establish.** The handler may start a frame only for a message, as a router does; with a frame that is
started when another one was sent, the two loops take different orders.
-/

namespace BusBridge

open Transfer

/-! ## Digesting a byte string -/

/-- A detached endpoint with what it gave so far and the bytes that are left for it. -/
structure Digest (n : Nat) (η : Type) where
  endpoint : Endpoint n Detached η
  given : Bytes
  left : Bytes

namespace Digest

variable {n : Nat} {η : Type} [Handler η]

/-- Send the frame on the link. Without one, take the next block, or stop if there are too few bytes for it. -/
def turn (d : Digest n η) : Run (Turn (Digest n η) (Digest n η)) := do
  match d.endpoint.link.armed? with
  | some frame =>
    let endpoint ← d.endpoint.blockSent
    pure (.again { d with endpoint, given := d.given ++ frame })
  | none =>
    if d.left.length < d.endpoint.armedSize then
      pure (.done d)
    else
      let (_, endpoint) ← d.endpoint.accept (d.left.take d.endpoint.armedSize)
      pure (.again { d with endpoint, left := d.left.drop d.endpoint.armedSize })

variable {d : Digest n η} {e : Endpoint n Detached η}

theorem turn_sent {frame : Bytes} (hframe : d.endpoint.link.armed? = some frame)
    (hsent : d.endpoint.blockSent.result = .ok e) : d.turn.result = .ok (.again ⟨e, d.given ++ frame, d.left⟩) := by
  simp only [turn, hframe, Run.result_bind, hsent, Outcomes.ok_bind, Run.result_pure]

theorem turn_block {data rest : Bytes} {report : Except Oversized Unit} (hidle : d.endpoint.link.armed? = none)
    (hleft : d.left = data ++ rest) (hfull : data.length = d.endpoint.armedSize)
    (hreport : (d.endpoint.store 0 data).blockReceived.result = .ok (report, e)) :
    d.turn.result = .ok (.again ⟨e, d.given, rest⟩) := by
  have henough : ¬d.left.length < d.endpoint.armedSize := by
    rw [hleft, List.length_append]
    omega
  have htake : d.left.take d.endpoint.armedSize = data := by rw [hleft, ← hfull, List.take_left]
  have hdrop : d.left.drop d.endpoint.armedSize = rest := by rw [hleft, ← hfull, List.drop_left]
  have haccept : (d.endpoint.accept data).result = .ok (report, e) := hreport
  simp only [turn, hidle, if_neg henough, htake, hdrop, Run.result_bind, haccept, Outcomes.ok_bind, Run.result_pure]

theorem turn_done (hidle : d.endpoint.link.armed? = none) (hshort : d.left.length < d.endpoint.armedSize) :
    d.turn.result = .ok (.done d) := by
  simp only [turn, hidle, if_pos hshort, Run.result_pure]

/-- The digest came of a new endpoint, the given bytes, and nothing else. -/
def Of (start : Endpoint n Detached η) (bytes : Bytes) (d : Digest n η) : Prop :=
  ∃ count, Run.Turns turn ⟨start, [], bytes⟩ count d

theorem Of.again {start : Endpoint n Detached η} {bytes : Bytes} {d' : Digest n η} (h : d.Of start bytes)
    (hturn : d.turn.result = .ok (.again d')) : d'.Of start bytes := by
  obtain ⟨count, hturns⟩ := h
  exact ⟨count + 1, .again hturns hturn⟩

/-- Digesting has one outcome. -/
theorem outcome_unique {start : Endpoint n Detached η} {bytes : Bytes} {d' : Digest n η} (h : d.Of start bytes)
    (h' : d'.Of start bytes) (hdone : d.turn.result = .ok (.done d)) (hdone' : d'.turn.result = .ok (.done d')) :
    d = d' := by
  obtain ⟨count, hturns⟩ := h
  obtain ⟨count', hturns'⟩ := h'
  -- a loop that is long enough for both ends with either of them
  have hend := hturns.loop_done hdone (show count < count + count' + 1 by omega)
  have hend' := hturns'.loop_done hdone' (show count' < count + count' + 1 by omega)
  exact Except.ok.inj (hend.symm.trans hend')

end Digest

/-! ## Serving is digesting -/

namespace Serving

variable {σ η : Type} {n : Nat} [Stream σ] [Handler η] {left : σ → Bytes} {start : Endpoint n Detached η}
    {bytes : Bytes}

/-- An emission sends the frame on the link, if there is one, and the link is idle after it. -/
theorem emission_digests [AnswersOnly η] {bus bus' : Tap σ} {e e' : Endpoint n Detached η} {rest : Bytes}
    (h : (⟨e, bus.given, rest⟩ : Digest n η).Of start bytes)
    (hrun : (emission bus e).result = .ok (.ok (), bus', e')) :
    (⟨e', bus'.given, rest⟩ : Digest n η).Of start bytes ∧ e'.link.armed? = none ∧ e'.reception = e.reception ∧
      bus'.taken = bus.taken := by
  cases emits_of_emission hrun with
  | idle harmed => exact ⟨h, harmed, rfl, rfl⟩
  | @frame _ pieces handler link harmed hhistory honSent =>
    obtain ⟨htaken, hgiven, _⟩ := Tap.history_given hhistory
    have hsent : e.blockSent.result = .ok { e with handler, link } := by
      rw [Endpoint.blockSent_result harmed, honSent]
      rfl
    have hlink := AnswersOnly.onSent honSent
    refine ⟨?_, ?_, rfl, htaken⟩
    · rw [hgiven]
      exact h.again (Digest.turn_sent harmed hsent)
    · rw [hlink]
      rfl

/-- Serving has digested what was taken from the bus. -/
structure Digests (start : Endpoint n Detached η) (bytes : Bytes) (left : σ → Bytes)
    (s : Tap σ × Endpoint n Detached η) :
    Prop where
  waits : s.2.Waits
  taken : s.1.taken ++ left s.1.stream = bytes
  digest : (⟨s.2, s.1.given, left s.1.stream⟩ : Digest n η).Of start bytes

/-- Serving has ended as digesting does, with the rest of the bytes in the open block. -/
structure Closes (start : Endpoint n Detached η) (bytes : Bytes) (d : Digest n η)
    (r : ServingEnd × Tap σ × Endpoint n Detached η) : Prop where
  closed : r.1 = .closed
  taken : r.2.1.taken = bytes
  given : r.2.1.given = d.given
  endpoint : r.2.2 = d.endpoint.store 0 d.left
  digest : d.Of start bytes
  done : d.turn.result = .ok (.done d)

/-- A turn takes a block, or finds too few bytes for one. -/
theorem Digests.turn [AnswersOnly η] (hbus : Stream.Supplies left) (hreturns : HandlerReturns η) (hn : Header.size < n)
    {s : Tap σ × Endpoint n Detached η} (h : Digests start bytes left s) :
    (∃ s', (turn s).result = .ok (.again s') ∧ Digests start bytes left s' ∧
        (left s'.1.stream).length < (left s.1.stream).length) ∨
      ∃ r, (turn s).result = .ok (.done r) ∧ ∃ d, Closes start bytes d r := by
  obtain ⟨bus, e⟩ := s
  obtain ⟨bus₁, e₁, hemission, hleft₁⟩ := emission_supplied hbus bus (Endpoint.blockSent_returns hreturns hn e)
  obtain ⟨hdigest, hidle, hreception₁, htaken₁⟩ := emission_digests h.digest hemission
  have hwaits : e₁.Waits := h.waits.congr hreception₁
  have hpos := hwaits.pos
  have htaken : bus₁.taken ++ left bus₁.stream = bytes := by
    rw [htaken₁, hleft₁]
    exact h.taken
  rw [← hleft₁] at hdigest
  obtain ⟨bus₂, e₂, hreception, htaken₂, hleft₂⟩ := reception_supplied hbus bus₁
    (fun data => Endpoint.blockReceived_returns hreturns hn (e₁.store 0 data))
  obtain ⟨pieces, hhistory, _, htakes⟩ := takes_of_reception hreception
  obtain ⟨hpieces, hgiven₂, _⟩ := Tap.history_taken hhistory
  have hpieces : pieces.flatten = (left bus₁.stream).take e₁.armedSize :=
    List.append_cancel_left (hpieces.symm.trans htaken₂)
  have hall : bus₂.taken ++ left bus₂.stream = bytes := by
    rw [htaken₂, hleft₂, List.append_assoc, List.take_append_drop]
    exact htaken
  by_cases henough : e₁.armedSize ≤ (left bus₁.stream).length
  · rw [if_pos henough] at hreception htakes
    have hturn : (Serving.turn (bus, e)).result = .ok (.again (bus₂, e₂)) := by
      simp only [Serving.turn, Run.result_bind, hemission, hreception, Outcomes.ok_bind, Run.result_pure]
    refine .inl ⟨(bus₂, e₂), hturn, ?_, ?_⟩
    · cases htakes with
      | @block report _ hfull hreport =>
        have hwaits₂ := (Endpoint.waits_of_blockReceived hn hreport).1
        have hsplit : left bus₁.stream = pieces.flatten ++ left bus₂.stream := by
          rw [hpieces, hleft₂, List.take_append_drop]
        refine ⟨hwaits₂, hall, ?_⟩
        rw [hgiven₂]
        exact hdigest.again (Digest.turn_block hidle hsplit hfull hreport)
    · change (left bus₂.stream).length < (left bus.stream).length
      rw [hleft₂, List.length_drop, ← hleft₁]
      omega
  · rw [if_neg henough] at hreception htakes
    have hturn : (Serving.turn (bus, e)).result = .ok (.done (.closed, bus₂, e₂)) := by
      simp only [Serving.turn, Run.result_bind, hemission, hreception, Outcomes.ok_bind, Run.result_pure]
    have hrest : pieces.flatten = left bus₁.stream := by
      rw [hpieces, List.take_of_length_le (Nat.le_of_not_le henough)]
    have hempty : left bus₂.stream = [] := by
      rw [hleft₂, List.drop_of_length_le (Nat.le_of_not_le henough)]
    refine .inr ⟨(.closed, bus₂, e₂), hturn, ⟨e₁, bus₁.given, left bus₁.stream⟩, ?_⟩
    cases htakes with
    | stop hshort =>
      rw [hempty, List.append_nil] at hall
      rw [hrest] at hshort ⊢
      exact ⟨rfl, hall, hgiven₂, rfl, hdigest, Digest.turn_done hidle hshort⟩

/-- On a bus that does not fail, serving ends as digesting does. -/
theorem serve_closes [AnswersOnly η] (hbus : Stream.Supplies left) (hreturns : HandlerReturns η) (hn : Header.size < n)
    (start : Endpoint n Detached η) (hheader : start.reception = .header) (bus : σ) {turns : Nat}
    (hturns : (left bus).length < turns) :
    ∃ r, (serve turns (⟨bus, []⟩ : Tap σ) start).result = .ok r ∧ ∃ d, Closes start (left bus) d r :=
  Run.loop_total (Digests start (left bus) left) (fun r => ∃ d, Closes start (left bus) d r)
    (fun s => (left s.1.stream).length) (fun _ h => h.turn hbus hreturns hn)
    ⟨Endpoint.waits_of_header hn hheader, rfl, 0, .start⟩ hturns

end Serving

/-! ## Polling is digesting -/

namespace Endpoint

variable {n : Nat} {σ η : Type}

theorem store_nil {δ : Type} (e : Endpoint n δ η) : e.store 0 [] = e := by
  have hinbox : e.inbox.overlay (e.reception.offset + 0) [] = e.inbox := Buffer.ext (Bytes.overlay_nil _ _)
  simp only [store, List.take_nil, hinbox]

/-- A block that is stored piece by piece is stored as a whole. -/
theorem store_append {δ : Type} (e : Endpoint n δ η) {data more : Bytes}
    (hfit : data.length + more.length ≤ e.armedSize) :
    (e.store 0 data).store data.length more = e.store 0 (data ++ more) := by
  have hdata : data.take (e.armedSize - 0) = data := List.take_of_length_le (by omega)
  have hmore : more.take (e.armedSize - data.length) = more := List.take_of_length_le (by omega)
  have hboth : (data ++ more).take (e.armedSize - 0) = data ++ more :=
    List.take_of_length_le (by rw [List.length_append]; omega)
  have hsize : (e.store 0 data).armedSize = e.armedSize := rfl
  have hinbox : (e.inbox.overlay (e.reception.offset + 0) data).overlay (e.reception.offset + data.length) more =
      e.inbox.overlay (e.reception.offset + 0) (data ++ more) := Buffer.ext (Bytes.overlay_append _ _ _ _)
  rw [store, hsize, hmore]
  simp only [store, hdata, hboth, hinbox]

section Mirroring

variable [Handler η]

/-- A report on an idle link leaves the stream alone, and nothing of the next block or of a frame has passed yet. -/
theorem blockReceived_medium [Stream σ] [UsesLink η] {e e' : Endpoint n (StreamMedium σ) η}
    {report : Except Oversized Unit} (hn : Header.size < n) (hidle : e.link.armed? = none)
    (hrun : e.blockReceived.result = .ok (report, e')) :
    e'.link.medium.stream = e.link.medium.stream ∧ e'.link.medium.received = 0 ∧
      ∀ frame, e'.link.armed? = some frame → e'.link.medium.sent = 0 := by
  obtain ⟨delivered, hhands⟩ := handsOver_of_blockReceived hrun
  cases hhands with
  | nothing _ hlink =>
    rw [hlink]
    refine ⟨rfl, rfl, ?_⟩
    intro frame harmed
    cases hidle.symm.trans harmed
  | @message m _ link size honMessage _ hlink =>
    obtain ⟨hsending, hmedium⟩ | ⟨started, hstarts⟩ :=
      (UsesLink.onMessage honMessage).starts hn (Option.map_eq_none_iff.mp hidle)
    · rw [hlink, hmedium]
      refine ⟨rfl, rfl, ?_⟩
      intro frame harmed
      have harmed : link.armed? = some frame := harmed
      cases (Link.armed?_idle hsending).symm.trans harmed
    · rw [hlink, hstarts.medium]
      exact ⟨rfl, rfl, fun _ _ => rfl⟩

/-- A polled endpoint mirrors a digest whose endpoint is `base`: `got` has arrived of the open block, and whatever the
`rest` of the bytes will be, the digest has `got` and `rest` left. A frame on the link is still to be given. -/
structure Mirrors (e : Endpoint n (StreamMedium (Tap σ)) η) (start base : Endpoint n Detached η) (got : Bytes) :
    Prop where
  digest : ∀ rest, (⟨base, e.link.medium.stream.given, got ++ rest⟩ : Digest n η).Of start
    (e.link.medium.stream.taken ++ rest)
  endpoint : e.detach = base.store 0 got
  received : e.link.medium.received = got.length
  short : got.length < base.armedSize
  waits : base.Waits
  unsent : ∀ frame, e.link.armed? = some frame → e.link.medium.sent = 0

namespace Mirrors

variable {start base : Endpoint n Detached η} {e e' : Endpoint n (StreamMedium (Tap σ)) η} {got : Bytes}
  {result : Except PollError Bool} {α : Type} {view : σ → α}

theorem reception (h : e.Mirrors start base got) : e.reception = base.reception :=
  congrArg Endpoint.reception h.endpoint

theorem armedSize (h : e.Mirrors start base got) : e.armedSize = base.armedSize := by
  rw [Endpoint.armedSize, h.reception]
  rfl

theorem armed (h : e.Mirrors start base got) : base.link.armed? = e.link.armed? :=
  (congrArg (fun e : Endpoint n Detached η => e.link.armed?) h.endpoint).symm

theorem handler (h : e.Mirrors start base got) : base.handler = e.handler :=
  (congrArg Endpoint.handler h.endpoint).symm

theorem link (h : e.Mirrors start base got) : base.link = e.link.detach :=
  (congrArg Endpoint.link h.endpoint).symm

/-- With the frame on the link gone and too few bytes for the next block, digesting is over. -/
theorem done (h : e.Mirrors start base got) (hidle : e.link.armed? = none) :
    (⟨base, e.link.medium.stream.given, got⟩ : Digest n η).Of start e.link.medium.stream.taken ∧
      (⟨base, e.link.medium.stream.given, got⟩ : Digest n η).turn.result =
        .ok (.done ⟨base, e.link.medium.stream.given, got⟩) := by
  have hdigest := h.digest []
  rw [List.append_nil, List.append_nil] at hdigest
  exact ⟨hdigest, Digest.turn_done (h.armed.trans hidle) h.short⟩

variable [Stream σ] [Portable η]

/-- On a stream that accepts frames, sending gets rid of the frame on the link. -/
theorem pollSend [AnswersOnly η] (hline : Stream.Accepts view) (h : e.Mirrors start base got)
    (hrun : e.pollSend.result = .ok (result, e')) :
    (∃ base', e'.Mirrors start base' got) ∧ e'.link.armed? = none ∧ result = .ok e.isSending := by
  cases hframe : e.link.armed? with
  | none =>
    have hquiet : e.isSending = false := by
      rw [Endpoint.isSending, Link.isBusy, Option.map_eq_none_iff.mp hframe]
      rfl
    unfold Endpoint.pollSend at hrun
    simp only [hframe] at hrun
    cases hrun
    exact ⟨⟨base, h⟩, hframe, by rw [hquiet]⟩
  | some frame =>
    obtain ⟨size, hsize, _⟩ := Option.map_eq_some_iff.mp hframe
    have hbusy : e.isSending = true := by
      rw [Endpoint.isSending, Link.isBusy, hsize]
      rfl
    have hsent := h.unsent frame hframe
    obtain ⟨pieces, hgives⟩ := gives_of_pollSend hframe hrun
    generalize (Medium.pollSend e.link.medium frame).value.2.stream = stream at hgives
    cases hgives with
    | wait hopen => exact absurd (hline.tap.pollSend_ok hframe hrun) hopen
    | @report handler link hwhole hhistory honSent =>
      obtain ⟨htaken, hgiven, _⟩ := Tap.history_given hhistory
      rw [hwhole, hsent, List.drop_zero] at hgiven
      cases AnswersOnly.onSent honSent
      refine ⟨⟨{ base with handler, link.sending := none }, ?_, ?_, h.received, h.short,
        ⟨h.waits.room, h.waits.pos⟩, ?_⟩, rfl, by rw [hbusy]⟩
      · intro rest
        change (⟨_, stream.given, got ++ rest⟩ : Digest n η).Of start (stream.taken ++ rest)
        rw [htaken, hgiven]
        refine (h.digest rest).again (Digest.turn_sent (h.armed.trans hframe) ?_)
        have hportable := Portable.onSent e.handler { (e.release pieces.flatten stream).link with sending := none }
        rw [honSent] at hportable
        rw [blockSent_result (h.armed.trans hframe), h.handler, h.link]
        exact congrArg (· >>= _) hportable
      · have hdetach := h.endpoint
        exact congrArg (fun e : Endpoint n Detached η => { e with handler, link.sending := none }) hdetach
      · intro frame' harmed
        cases harmed

variable [UsesLink η]

/-- On an idle link, receiving goes on with the open block, and completes it or not. -/
theorem pollReceive (hn : Header.size < n) (h : e.Mirrors start base got) (hidle : e.link.armed? = none)
    (hrun : e.pollReceive.result = .ok (result, e')) :
    (∃ base' got', e'.Mirrors start base' got') ∧ (result ≠ .ok true → e'.link.armed? = none) := by
  have hwaits : e.Waits := h.waits.congr h.reception
  have hopen : e.link.medium.received < e.armedSize := by
    rw [h.received, h.armedSize]
    exact h.short
  obtain ⟨pieces, stream, hhistory, hcases⟩ := pollReceive_tapped hwaits.room hopen hrun
  obtain ⟨htaken, hgiven, _⟩ := Tap.history_taken hhistory
  rw [h.received, h.armedSize] at hcases
  have hstored : got.length + pieces.flatten.length ≤ base.armedSize →
      (e.absorb pieces.flatten stream).detach = base.store 0 (got ++ pieces.flatten) := by
    intro hfit
    rw [← base.store_append hfit, ← h.endpoint, ← h.received]
    rfl
  have hdigest :
      ∀ rest, (⟨base, stream.given, (got ++ pieces.flatten) ++ rest⟩ : Digest n η).Of start (stream.taken ++ rest) := by
    intro rest
    rw [htaken, hgiven, List.append_assoc, List.append_assoc]
    exact h.digest (pieces.flatten ++ rest)
  obtain ⟨hshort, _, rfl⟩ | ⟨hfull, report, hreport, rfl⟩ := hcases
  · refine ⟨⟨base, got ++ pieces.flatten, hdigest, hstored (Nat.le_of_lt hshort), ?_, ?_, h.waits, ?_⟩, fun _ => hidle⟩
    · rw [List.length_append, ← h.received]
      rfl
    · rw [List.length_append]
      exact hshort
    · intro frame harmed
      cases hidle.symm.trans harmed
  · obtain ⟨hwaits', hrefused⟩ := waits_of_blockReceived hn hreport
    have hidle' : (e.absorb pieces.flatten stream).link.armed? = none := hidle
    obtain ⟨hstream, hreceived, hunsent⟩ := blockReceived_medium hn hidle' hreport
    have hdetach := (e.absorb pieces.flatten stream).blockReceived_detach
    rw [hreport, hstored (Nat.le_of_eq hfull)] at hdetach
    have hsame : e'.link.medium.stream = stream := hstream
    refine ⟨⟨e'.detach, [], ?_, e'.detach.store_nil.symm, hreceived, hwaits'.pos, hwaits'.congr rfl, hunsent⟩, ?_⟩
    · intro rest
      rw [hsame, List.nil_append]
      refine (hdigest rest).again (Digest.turn_block (h.armed.trans hidle) rfl ?_ hdetach)
      rw [List.length_append]
      exact hfull
    · intro hresult
      cases report with
      | ok _ => exact absurd rfl hresult
      | error oversized => exact (hrefused oversized rfl).trans hidle

/-- A round of both, after which the link is idle unless the round completed something. -/
theorem pollOnce [AnswersOnly η] (hline : Stream.Accepts view) (hn : Header.size < n) (h : e.Mirrors start base got)
    (hrun : e.pollOnce.result = .ok (result, e')) :
    (∃ base' got', e'.Mirrors start base' got') ∧ (result ≠ .ok true → e'.link.armed? = none) := by
  obtain ⟨⟨sent, e₁⟩, hsent, hrest⟩ := Run.result_bind_eq_ok.mp hrun
  obtain ⟨⟨base₁, h₁⟩, hidle, rfl⟩ := h.pollSend hline hsent
  obtain ⟨⟨received, e₂⟩, hreceived, hlast⟩ := Run.result_bind_eq_ok.mp hrest
  obtain ⟨h₂, hidle₂⟩ := h₁.pollReceive hn hidle hreceived
  cases received with
  | error error =>
    cases hlast
    exact ⟨h₂, hidle₂⟩
  | ok done =>
    cases hlast
    refine ⟨h₂, fun hresult => hidle₂ ?_⟩
    intro hdone
    cases hdone
    exact hresult (by rw [Bool.or_true])

/-- Whatever the stream does about reading, a poll leaves the link idle. -/
theorem poll [AnswersOnly η] {rounds : Nat} (hline : Stream.Accepts view) (hn : Header.size < n)
    (h : e.Mirrors start base got) (hrun : (e.poll rounds).result = .ok (result, e')) :
    (∃ base' got', e'.Mirrors start base' got') ∧ e'.link.armed? = none := by
  refine Run.loop_induction (fun s => ∃ base got, s.2.Mirrors start base got)
    (fun r => (∃ base got, r.2.Mirrors start base got) ∧ r.2.link.armed? = none) ?_ ?_ ⟨base, got, h⟩ hrun
  · intro s s' ⟨base, got, hs⟩ hturn
    obtain ⟨⟨round, e₁⟩, hround, hrest⟩ := Run.result_bind_eq_ok.mp hturn
    have h₁ := (hs.pollOnce hline hn hround).1
    rcases round with error | done
    · cases hrest
    · cases done <;> cases hrest
      exact h₁
  · intro s r ⟨base, got, hs⟩ hturn
    obtain ⟨⟨round, e₁⟩, hround, hrest⟩ := Run.result_bind_eq_ok.mp hturn
    obtain ⟨h₁, hidle⟩ := hs.pollOnce hline hn hround
    rcases round with error | done
    · cases hrest
      exact ⟨h₁, hidle (by simp)⟩
    · cases done <;> cases hrest
      exact ⟨h₁, hidle (by simp)⟩

theorem polls [AnswersOnly η] {rounds : List Nat} {results : List (Except PollError Bool)} (hline : Stream.Accepts view)
    (hn : Header.size < n) (h : e.Mirrors start base got) (hidle : e.link.armed? = none)
    (hrun : (PollCall.runAll e (rounds.map .both)).result = .ok (results, e')) :
    (∃ base' got', e'.Mirrors start base' got') ∧ e'.link.armed? = none := by
  induction rounds generalizing e base got results with
  | nil =>
    cases hrun
    exact ⟨⟨base, got, h⟩, hidle⟩
  | cons first rest ih =>
    obtain ⟨⟨result, e₁⟩, hfirst, hrest⟩ := Run.result_bind_eq_ok.mp hrun
    obtain ⟨⟨results, e₂⟩, hall, hlast⟩ := Run.result_bind_eq_ok.mp hrest
    cases hlast
    obtain ⟨⟨base₁, got₁, h₁⟩, hidle₁⟩ := h.poll hline hn hfirst
    exact ih h₁ hidle₁ hall

end Mirrors

end Mirroring

/-! ## Polls take all there is -/

section Progress

variable {left : σ → Bytes} {pauses : σ → Nat} {start base : Endpoint n Detached η}
  {e e' e'' : Endpoint n (StreamMedium (Tap σ)) η} {got : Bytes} {result : Except PollError Bool}

/-- What a poll can still do: each block that it may complete, and the frame that it may send before and after that. -/
def work (left : σ → Bytes) (e : Endpoint n (StreamMedium (Tap σ)) η) : Nat :=
  2 * (left e.line).length + if e.isSending then 1 else 0

theorem work_idle (h : e.link.armed? = none) : e.work left = 2 * (left e.line).length := by
  rw [work, isSending, Link.isBusy, Option.map_eq_none_iff.mp h]
  rfl

variable [Handler η] [Stream σ]

theorem consumes_pollSend [AnswersOnly η] (hwrites : Stream.Accepts fun s => (left s, pauses s))
    (hrun : e.pollSend.result = .ok (result, e')) : Consumes left pauses e e' := by
  cases hframe : e.link.armed? with
  | none =>
    unfold Endpoint.pollSend at hrun
    simp only [hframe] at hrun
    cases hrun
    exact .refl e
  | some frame =>
    obtain ⟨pieces, hgives⟩ := gives_of_pollSend hframe hrun
    have hview := (hwrites.tap.pollSend e.link.medium frame).2
    generalize (Medium.pollSend e.link.medium frame).value.2.stream = stream at hgives hview
    obtain ⟨hleft, hpauses⟩ := Prod.mk.inj hview
    cases hgives with
    | wait hopen => exact absurd (hwrites.tap.pollSend_ok hframe hrun) hopen
    | report hwhole hhistory honSent =>
      cases AnswersOnly.onSent honSent
      refine ⟨?_, Nat.le_of_eq (congrArg List.length hleft), Nat.le_of_eq hpauses⟩
      change stream.taken ++ left stream.stream = _
      rw [(Tap.history_given hhistory).1, hleft]
      rfl

theorem Mirrors.consumes_pollReceive [UsesLink η] (hline : Stream.Dribbles left pauses) (hn : Header.size < n)
    (h : e.Mirrors start base got) (hidle : e.link.armed? = none) (hrun : e.pollReceive.result = .ok (result, e')) :
    Consumes left pauses e e' ∧
      ((result = .ok false ∧ (left e'.line = [] ∨ pauses e'.line < pauses e.line)) ∨
        ((∃ report, result = reportOf report) ∧ (left e'.line).length < (left e.line).length)) := by
  have hwaits : e.Waits := h.waits.congr h.reception
  have hopen : e.link.medium.received < e.armedSize := by
    rw [h.received, h.armedSize]
    exact h.short
  refine pollReceive_consumes hline hwaits hopen ?_ hrun
  intro e₁ report harmed hreport
  exact (blockReceived_medium hn (harmed.trans hidle) hreport).1

variable [Portable η] [AnswersOnly η] [UsesLink η]

/-- A round does some of the work, or it ends the poll. Then the link is idle, and the stream has nothing left, has
made a pause, or has handed something over. -/
theorem Mirrors.round (hline : Stream.Dribbles left pauses) (hwrites : Stream.Accepts fun s => (left s, pauses s))
    (hreturns : HandlerReturns η) (hn : Header.size < n) (h : e.Mirrors start base got) :
    ∃ result e', e.pollOnce.result = .ok (result, e') ∧ (∃ base' got', e'.Mirrors start base' got') ∧
      Consumes left pauses e e' ∧
      ((result = .ok true ∧ e'.work left < e.work left) ∨
        ((result = .ok false ∨ ∃ oversized, result = .error (.oversized oversized)) ∧ e'.link.armed? = none ∧
          (left e'.line = [] ∨ (left e'.line).length + pauses e'.line < (left e.line).length + pauses e.line))) := by
  obtain ⟨⟨sent, e₁⟩, hsent⟩ := pollSend_returns hreturns hn e
  obtain ⟨⟨base₁, h₁⟩, hidle, rfl⟩ := h.pollSend hwrites hsent
  have hconsumes₁ := consumes_pollSend hwrites hsent
  obtain ⟨⟨received, e₂⟩, hreceived⟩ := pollReceive_returns hreturns hn e₁
  obtain ⟨h₂, hidle₂⟩ := h₁.pollReceive hn hidle hreceived
  obtain ⟨hconsumes₂, hcases⟩ := h₁.consumes_pollReceive hline hn hidle hreceived
  have hconsumes := hconsumes₁.trans hconsumes₂
  have hwork₂ : e₂.work left ≤ 2 * (left e₂.line).length + 1 := by
    unfold work
    split <;> omega
  have hwork : 2 * (left e.line).length ≤ e.work left := Nat.le_add_right _ _
  have hleft₁ := hconsumes₁.left
  have hpauses₁ := hconsumes₁.pauses
  have hleft₂ := hconsumes₂.left
  have hpauses₂ := hconsumes₂.pauses
  obtain ⟨rfl, hpause⟩ | ⟨⟨report, rfl⟩, hless⟩ := hcases
  · have hidle₂ := hidle₂ (by simp)
    refine ⟨.ok (e.isSending || false), e₂, ?_, h₂, hconsumes, ?_⟩
    · simp only [Endpoint.pollOnce, Run.result_bind, hsent, hreceived, Outcomes.ok_bind, Run.result_pure]
    · cases hsending : e.isSending with
      | true =>
        refine .inl ⟨rfl, ?_⟩
        rw [work_idle hidle₂, work, hsending, if_pos rfl]
        omega
      | false => exact .inr ⟨.inl rfl, hidle₂, hpause.imp_right fun h => by omega⟩
  · cases report with
    | ok _ =>
      refine ⟨.ok (e.isSending || true), e₂, ?_, h₂, hconsumes, .inl ⟨by rw [Bool.or_true], by omega⟩⟩
      simp only [Endpoint.pollOnce, Run.result_bind, hsent, hreceived, Outcomes.ok_bind]
      rfl
    | error oversized =>
      have hidle₂ := hidle₂ (by simp [reportOf])
      refine ⟨.error (.oversized oversized), e₂, ?_, h₂, hconsumes,
        .inr ⟨.inr ⟨oversized, rfl⟩, hidle₂, .inr (by omega)⟩⟩
      simp only [Endpoint.pollOnce, Run.result_bind, hsent, hreceived, Outcomes.ok_bind]
      rfl

/-- How a poll ends that has rounds enough. -/
structure PollEnds (left : σ → Bytes) (pauses : σ → Nat) (start : Endpoint n Detached η)
    (e : Endpoint n (StreamMedium (Tap σ)) η) (result : Except PollError Bool)
    (e' : Endpoint n (StreamMedium (Tap σ)) η) :
    Prop where
  mirrors : ∃ base got, e'.Mirrors start base got
  idle : e'.link.armed? = none
  consumes : Consumes left pauses e e'
  sound : ∀ kind, result ≠ .error (.medium kind)
  progress : left e'.line = [] ∨ (left e'.line).length + pauses e'.line < (left e.line).length + pauses e.line

theorem Mirrors.poll_ends {rounds : Nat} (hline : Stream.Dribbles left pauses)
    (hwrites : Stream.Accepts fun s => (left s, pauses s)) (hreturns : HandlerReturns η) (hn : Header.size < n)
    (h : e.Mirrors start base got) (hrounds : e.work left < rounds) :
    ∃ r, (e.poll rounds).result = .ok r ∧ PollEnds left pauses start e r.1 r.2 := by
  refine Run.loop_total
    (fun s : Bool × Endpoint n _ η => (∃ base got, s.2.Mirrors start base got) ∧ Consumes left pauses e s.2)
    (fun r : Except PollError Bool × Endpoint n _ η => PollEnds left pauses start e r.1 r.2)
    (fun s => s.2.work left) ?_ ⟨⟨base, got, h⟩, .refl e⟩ hrounds
  intro s ⟨⟨base, got, hs⟩, hconsumes⟩
  obtain ⟨result, e', hround, h', hconsumes', hcases⟩ := hs.round hline hwrites hreturns hn
  have hall := hconsumes.trans hconsumes'
  have hleft := hconsumes.left
  have hpauses := hconsumes.pauses
  obtain ⟨rfl, hless⟩ | ⟨hresult, hidle, hprogress⟩ := hcases
  · refine .inl ⟨(true, e'), ?_, ⟨h', hall⟩, hless⟩
    simp only [pollTurn, Run.result_bind, hround, Outcomes.ok_bind, Run.result_pure]
  · have hprogress : left e'.line = [] ∨
        (left e'.line).length + pauses e'.line < (left e.line).length + pauses e.line :=
      hprogress.imp_right fun h => by omega
    obtain rfl | ⟨oversized, rfl⟩ := hresult
    · refine .inr ⟨(.ok s.1, e'), ?_, h', hidle, hall, (fun _ hkind => by cases hkind), hprogress⟩
      simp only [pollTurn, Run.result_bind, hround, Outcomes.ok_bind, Run.result_pure]
    · refine .inr ⟨(.error (.oversized oversized), e'), ?_, h', hidle, hall, (fun _ hkind => by cases hkind), hprogress⟩
      simp only [pollTurn, Run.result_bind, hround, Outcomes.ok_bind, Run.result_pure]

/-- Polls that are enough take all there is. -/
theorem Mirrors.polls_dribble {rounds : List Nat} (hline : Stream.Dribbles left pauses)
    (hwrites : Stream.Accepts fun s => (left s, pauses s)) (hreturns : HandlerReturns η) (hn : Header.size < n)
    (h : e.Mirrors start base got) (hidle : e.link.armed? = none) (hrounds : ∀ r ∈ rounds, 2 * (left e.line).length < r)
    (henough : left e.line = [] ∨ (left e.line).length + pauses e.line ≤ rounds.length) :
    ∃ results e', (PollCall.runAll e (rounds.map .both)).result = .ok (results, e') ∧
      e'.link.medium.stream.taken = e.link.medium.stream.taken ++ left e.line ∧
      ∀ result ∈ results, ∀ kind, result ≠ .error (.medium kind) := by
  induction rounds generalizing e base got with
  | nil =>
    refine ⟨[], e, rfl, ?_, by simp⟩
    have hempty : left e.line = [] := henough.elim id fun h => by
      rw [List.length_nil] at h
      exact List.eq_nil_of_length_eq_zero (by omega)
    rw [hempty, List.append_nil]
  | cons first rest ih =>
    have hfirst : e.work left < first := by
      rw [work_idle hidle]
      exact hrounds first List.mem_cons_self
    obtain ⟨⟨result, e₁⟩, hpoll, hends⟩ := h.poll_ends hline hwrites hreturns hn hfirst
    have hends : PollEnds left pauses start e result e₁ := hends
    obtain ⟨base₁, got₁, h₁⟩ := hends.mirrors
    have hleft := hends.consumes.left
    have hrest : ∀ r ∈ rest, 2 * (left e₁.line).length < r := by
      intro r hr
      have hlarge := hrounds r (List.mem_cons_of_mem first hr)
      omega
    have henough₁ : left e₁.line = [] ∨ (left e₁.line).length + pauses e₁.line ≤ rest.length := by
      obtain hempty | hless := hends.progress
      · exact .inl hempty
      · obtain hempty | hle := henough
        · refine .inl (List.eq_nil_of_length_eq_zero ?_)
          rw [hempty, List.length_nil] at hleft
          omega
        · rw [List.length_cons] at hle
          exact .inr (by omega)
    obtain ⟨results, e₂, hall, htaken, hresults⟩ := ih h₁ hends.idle hrest henough₁
    refine ⟨result :: results, e₂, ?_, ?_, ?_⟩
    · have hcall : ((PollCall.both first).run e).result = .ok (result, e₁) := hpoll
      simp only [List.map_cons, PollCall.runAll, Run.result_bind, hcall, hall, Outcomes.ok_bind, Run.result_pure]
    · rw [htaken]
      exact hends.consumes.taken
    · intro r hr
      obtain rfl | hr := List.mem_cons.mp hr
      · exact hends.sound
      · exact hresults r hr

end Progress

end Endpoint

/-! ## Two ways to host a bridge -/

namespace Hosting

variable {n : Nat} {σ τ η κ : Type} [Stream σ] [Stream τ]

/-- A new endpoint on a stream under watch, polled again and again, each time with at most so many rounds. -/
def polled [Handler η] (n : Nat) (handler : η) (rounds : List Nat) (line : σ) :
    Run (List (Except PollError Bool) × Endpoint n (StreamMedium (Tap σ)) η) := do
  let e ← Endpoint.attach n { stream := ⟨line, []⟩ } handler
  PollCall.runAll e (rounds.map .both)

/-- An endpoint that was just attached mirrors a digest that has not begun. -/
theorem attach_mirrors [Handler η] (hn : Header.size < n) (handler : η) (line : σ) :
    ∃ e : Endpoint n (StreamMedium (Tap σ)) η, (Endpoint.attach n { stream := ⟨line, []⟩ } handler).result = .ok e ∧
      e.line = line ∧ e.link.medium.stream.taken = [] ∧ e.link.armed? = none ∧
      e.Mirrors ⟨.idle ⟨⟩, .zeroed n, .header, handler, 0⟩ ⟨.idle ⟨⟩, .zeroed n, .header, handler, 0⟩ [] := by
  refine ⟨_, Endpoint.attach_fresh hn _ _, rfl, rfl, rfl, fun rest => ⟨0, .start⟩, (Endpoint.store_nil _).symm, rfl,
    show 0 < Header.size by decide, Endpoint.waits_of_header hn rfl, ?_⟩
  intro frame harmed
  cases harmed

variable [Service κ]

/-- A bridge that is polled does what a bridge does that is served. Whatever the polls of a stream that accepts frames
have taken from it, in pieces, with pauses, and with retries after frames that are too long: a bridge that serves these
bytes takes all of them and ends with the same router, called on the same occasions, with the same count of skipped
frames and the same bytes given. Polls that are enough, with rounds enough, take all that the stream has left. Neither
bridge can be made without room for a payload. -/
theorem polled_as_served {α : Type} {view : σ → α} (hline : Stream.Accepts view) {supply : τ → Bytes}
    (hbus : Stream.Supplies supply) (router : Router κ) (line : σ) :
    (∀ rounds results e, (polled n (⟨router, []⟩ : Watched (Router κ)) rounds line).result = .ok (results, e) →
      ∀ bus turns, supply bus = e.link.medium.stream.taken → (supply bus).length < turns →
      ∃ bus', (Serving.serveWatched n (⟨router, []⟩ : Watched (Router κ)) turns bus).result =
        .ok (.closed, bus', e.detach) ∧
        bus'.taken = e.link.medium.stream.taken ∧ bus'.given = e.link.medium.stream.given) ∧
    (∀ left pauses, Stream.Dribbles left pauses → Stream.Accepts (fun s : σ => (left s, pauses s)) → Header.size < n →
      ∀ rounds : List Nat,
      (∀ r ∈ rounds, 2 * (left line).length < r) → (left line).length + pauses line ≤ rounds.length →
      ∃ results e, (polled n (⟨router, []⟩ : Watched (Router κ)) rounds line).result = .ok (results, e) ∧
        e.link.medium.stream.taken = left line ∧ ∀ result ∈ results, ∀ kind, result ≠ .error (.medium kind)) ∧
    (n ≤ Header.size → ∀ rounds turns (bus : τ),
      (polled n (⟨router, []⟩ : Watched (Router κ)) rounds line).result = .error .noRoom ∧
      (Serving.serveWatched n (⟨router, []⟩ : Watched (Router κ)) turns bus).result = .error .noRoom) := by
  refine ⟨?_, ?_, ?_⟩
  · intro rounds results e hrun bus turns hsupply hturns
    obtain ⟨e₀, hattach, hpolls⟩ := Run.result_bind_eq_ok.mp hrun
    have hn := (Endpoint.attach_ok hattach).1
    obtain ⟨e₁, hattach₁, _, _, hidle₁, h₁⟩ := attach_mirrors hn (⟨router, []⟩ : Watched (Router κ)) line
    cases hattach₁.symm.trans hattach
    obtain ⟨⟨base, got, h⟩, hidle⟩ := h₁.polls hline hn hidle₁ hpolls
    obtain ⟨hdigest, hdone⟩ := h.done hidle
    obtain ⟨⟨stop, bus', e'⟩, hserve, d, hcloses⟩ := Serving.serve_closes hbus (Watched.returns Router.returns) hn
      ⟨.idle ⟨⟩, .zeroed n, .header, ⟨router, []⟩, 0⟩ rfl bus hturns
    obtain ⟨rfl, htaken, hgiven, hendpoint, hdigest', hdone'⟩ := hcloses
    rw [hsupply] at htaken hdigest'
    cases Digest.outcome_unique hdigest hdigest' hdone hdone'
    have hendpoint : e' = base.store 0 got := hendpoint
    subst hendpoint
    refine ⟨bus', ?_, htaken, hgiven⟩
    rw [Serving.serveWatched, Run.result_bind, Endpoint.attach_fresh hn, h.endpoint]
    exact hserve
  · intro left pauses hdribbles hwrites hn rounds hrounds henough
    obtain ⟨e, hattach, rfl, htaken, hidle, h⟩ := attach_mirrors hn (⟨router, []⟩ : Watched (Router κ)) line
    obtain ⟨results, e', hrun, htaken', hresults⟩ :=
      h.polls_dribble hdribbles hwrites (Watched.returns Router.returns) hn hidle hrounds (.inr henough)
    refine ⟨results, e', ?_, ?_, hresults⟩
    · rw [polled, Run.result_bind, hattach]
      exact hrun
    · rw [htaken', htaken, List.nil_append]
  · intro hsmall rounds turns bus
    constructor
    · rw [polled, Run.result_bind, Endpoint.attach, if_pos hsmall]
      rfl
    · rw [Serving.serveWatched, Run.result_bind, Endpoint.attach, if_pos hsmall]
      rfl

/-- The frames of `Serving.mixedFrames`, with a pause before each byte. -/
def slowFrames : Drip :=
  ⟨Serving.mixedFrames.flatMap fun b => [none, some b]⟩

theorem polled_as_served_slowFrames : Stream.Dribbles Drip.left Drip.pauses ∧
    Stream.Accepts (fun d : Drip => (d.left, d.pauses)) ∧ Stream.Supplies SlowBus.bytes ∧
    slowFrames.left = Serving.mixedFrames ∧
    ∃ results e bus', (polled 8 (⟨Serving.mixedReplies, []⟩ : Watched (Router Bench.Device)) (List.replicate 64 65)
        slowFrames).result = .ok (results, e) ∧
      (Serving.serveWatched 8 (⟨Serving.mixedReplies, []⟩ : Watched (Router Bench.Device)) 33
        (⟨Serving.mixedFrames, 1⟩ : SlowBus)).result = .ok (.closed, bus', e.detach) ∧
      e.link.medium.stream.given = [7, 129, 0, 0, 2, 0, 65, 7, 130, 6, 0, 1, 1] ∧
      e.handler.handler.tally = ⟨2, 1, 1, 0⟩ ∧ e.handler.log.length = 6 ∧ e.oversized = 1 := by
  have hframes : slowFrames.left = Serving.mixedFrames := by decide
  have hvalue : (Serving.serveWatched 8 (⟨Serving.mixedReplies, []⟩ : Watched (Router Bench.Device)) 33
      (⟨Serving.mixedFrames, 1⟩ : SlowBus)).result.toOption.map
      (fun r => (r.2.1.given, r.2.2.handler.handler.tally, r.2.2.handler.log.length, r.2.2.oversized)) =
      some ([7, 129, 0, 0, 2, 0, 65, 7, 130, 6, 0, 1, 1], ⟨2, 1, 1, 0⟩, 6, 1) := by cbv
  obtain ⟨hagree, hall, _⟩ := @polled_as_served 8 Drip SlowBus Bench.Device _ _ _ _ _ (Drip.accepts Drip.left) _
    SlowBus.supplies Serving.mixedReplies slowFrames
  obtain ⟨results, e, hrun, htaken, _⟩ := hall Drip.left Drip.pauses Drip.dribbles (Drip.accepts _) (by decide)
    (List.replicate 64 65) (by decide) (by decide)
  obtain ⟨bus', hserve, _, hgiven⟩ := hagree _ results e hrun (⟨Serving.mixedFrames, 1⟩ : SlowBus) 33
    (hframes.symm.trans htaken.symm) (by decide)
  rw [hserve] at hvalue
  simp only [Except.toOption, Option.map_some, Option.some.injEq, Prod.mk.injEq] at hvalue
  exact ⟨Drip.dribbles, Drip.accepts _, SlowBus.supplies, hframes, results, e, bus', hrun, hserve,
    hgiven.symm.trans hvalue.1, hvalue.2.1, hvalue.2.2.1, hvalue.2.2.2⟩

end Hosting

end BusBridge
