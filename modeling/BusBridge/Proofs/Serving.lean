import BusBridge.Proofs.Polling
import BusBridge.Proofs.Transfers
import BusBridge.Service.Serving
/-!
# What a turn of serving does

A turn of serving is an emission and then a reception, and each is said here once for every handler, over a
bus that is watched. An emission that lets the turn go on found nothing to write, or wrote the whole frame,
flushed it and reported it (`Serving.Emits`). A reception takes pieces from the bus; they fill the armed
block, which is then reported, or the serving ends in the middle of the block (`Serving.Takes`).

On a bus that `Supplies` bytes every turn goes on, except for the one that finds too few of them
(`Serving.emission_supplied`, `Serving.reception_supplied`).
-/

namespace BusBridge.Serving

variable {σ η : Type} {n : Nat}

/-- What an emission did after which the turn goes on. -/
inductive Emits [Handler η] (bus : Tap σ) (e : Endpoint n Detached η) : Tap σ → Endpoint n Detached η → Prop where
  /-- there was nothing to write -/
  | idle : e.link.armed? = none → Emits bus e bus e
  /-- the frame was written, flushed and reported -/
  | frame {bus' : Tap σ} {pieces : List Bytes} {handler : η} {link : Link n Detached} :
      e.link.armed? = some pieces.flatten →
      bus'.history = bus.history ++ pieces.map .given ++ [.flushed] →
      (Handler.onSent e.handler { e.link with sending := none }).result = .ok (handler, link) →
      Emits bus e bus' { e with handler, link }

/-- What a reception did with the pieces that it took from the bus. -/
inductive Takes [Handler η] (e : Endpoint n Detached η) (pieces : List Bytes) :
    Except ServingEnd Unit → Endpoint n Detached η → Prop where
  /-- they fill the block, which was reported -/
  | block {report : Except Oversized Unit} {e' : Endpoint n Detached η} : pieces.flatten.length = e.armedSize →
      (e.store 0 pieces.flatten).blockReceived.result = .ok (report, e') → Takes e pieces (.ok ()) e'
  /-- the bus ended or failed before that -/
  | stop {stop : ServingEnd} : pieces.flatten.length < e.armedSize →
      Takes e pieces (.error stop) (e.store 0 pieces.flatten)

section Watched

variable [Stream σ] [Handler η] {bus bus' : Tap σ} {e e' : Endpoint n Detached η}

theorem emits_of_emission (h : (emission bus e).result = .ok (.ok (), bus', e')) : Emits bus e bus' e' := by
  unfold emission at h
  cases harmed : e.link.armed? with
  | none =>
    simp only [harmed] at h
    cases h
    exact .idle harmed
  | some frame =>
    obtain ⟨pieces, hlog, _, _, hwhole⟩ := Tap.drain_log frame bus []
    rcases hdrain : Stream.drain frame bus [] with ⟨halt, given, bus₁⟩
    rw [hdrain] at hlog hwhole
    simp only [harmed, hdrain, Run.result_bind, Run.result_lift, Outcomes.ok_bind] at h
    cases halt with
    | nothing => cases h
    | failed kind => cases h
    | complete =>
      simp only [Run.result_bind, Run.result_lift, Outcomes.ok_bind] at h
      rcases hflush : (Stream.flush bus₁).value with ⟨result, bus₂⟩
      have hflushed := @Tap.flush_ok σ _ bus₁
      rw [hflush] at h hflushed
      cases result with
      | error kind => cases h
      | ok _ =>
        simp only [Endpoint.blockSent_result harmed, Run.result_bind] at h
        obtain ⟨e₁, hsent, hlast⟩ := Outcomes.bind_eq_ok.mp h
        obtain ⟨⟨handler, link⟩, honSent, hrest⟩ := Outcomes.bind_eq_ok.mp hsent
        cases hrest
        cases hlast
        rw [← hwhole rfl] at harmed
        refine .frame harmed ?_ honSent
        rw [hflushed rfl, hlog]

theorem takes_of_reception {result : Except ServingEnd Unit} (h : (reception bus e).result = .ok (result, bus', e')) :
    ∃ pieces : List Bytes, bus'.history = bus.history ++ pieces.map .taken ∧
      (∀ early piece late, pieces = early ++ piece :: late → early.flatten.length < e.armedSize) ∧
      Takes e pieces result e' := by
  unfold reception at h
  obtain ⟨pieces, hlog, hgot, hle, hcomplete, hopen⟩ := Tap.gather_log e.armedSize bus []
  rcases hgather : Stream.gather e.armedSize bus [] with ⟨halt, got, bus₁⟩
  rw [hgather] at hlog hgot hcomplete
  simp only [List.append_nil] at hgot
  simp only [hgather, hgot, List.reverse_reverse] at h
  have hshort : halt ≠ .complete → pieces.flatten.length < e.armedSize := by
    intro hhalt
    exact Nat.lt_of_le_of_ne hle fun hfull => hhalt (hcomplete.mpr hfull)
  cases halt with
  | nothing =>
    cases h
    exact ⟨pieces, hlog, hopen, .stop (hshort (by simp))⟩
  | failed kind =>
    cases h
    exact ⟨pieces, hlog, hopen, .stop (hshort (by simp))⟩
  | complete =>
    obtain ⟨⟨report, e₁⟩, hreport, hrest⟩ := Run.result_bind_eq_ok.mp h
    cases report with
    | ok _ =>
      cases hrest
      exact ⟨pieces, hlog, hopen, .block (hcomplete.mp rfl) hreport⟩
    | error oversized =>
      cases hrest
      exact ⟨pieces, hlog, hopen, .block (hcomplete.mp rfl) hreport⟩

/-- A turn that is not the last one is an emission and a block. -/
theorem turn_again {s s' : Tap σ × Endpoint n Detached η} (h : (turn s).result = .ok (.again s')) :
    ∃ bus e, (emission s.1 s.2).result = .ok (.ok (), bus, e) ∧
      (reception bus e).result = .ok (.ok (), s'.1, s'.2) := by
  obtain ⟨⟨sent, bus, e⟩, hemission, hrest⟩ := Run.result_bind_eq_ok.mp h
  cases sent with
  | error stop => cases hrest
  | ok _ =>
    obtain ⟨⟨received, bus', e'⟩, hreception, hlast⟩ := Run.result_bind_eq_ok.mp hrest
    cases received with
    | error stop => cases hlast
    | ok _ =>
      cases hlast
      exact ⟨bus, e, hemission, hreception⟩

end Watched

section Supplied

variable [Stream σ] [Handler η] {left : σ → Bytes}

/-- On a bus that does not fail the emission succeeds, if the handler lets it. -/
theorem emission_supplied (hbus : Stream.Supplies left) (bus : Tap σ) {e : Endpoint n Detached η}
    (hsent : ∃ e', e.blockSent.result = .ok e') :
    ∃ bus' e', (emission bus e).result = .ok (.ok (), bus', e') ∧ left bus'.stream = left bus.stream := by
  unfold emission
  cases harmed : e.link.armed? with
  | none => exact ⟨bus, e, rfl, rfl⟩
  | some frame =>
    obtain ⟨given, bus₁, hdrain, hleft⟩ := hbus.accepts.tap.drain frame bus []
    obtain ⟨hok, hflush⟩ := hbus.tap.flush bus₁
    obtain ⟨e', hsent⟩ := hsent
    rcases hvalue : (Stream.flush bus₁).value with ⟨result, bus₂⟩
    rw [hvalue] at hok hflush
    cases hok
    refine ⟨bus₂, e', ?_, hflush.trans hleft⟩
    simp only [hdrain, hvalue, hsent, Run.result_bind, Run.result_lift, Outcomes.ok_bind, Run.result_pure]

/-- On a bus that does not fail the reception gets its block, or closes when there are too few bytes left. -/
theorem reception_supplied (hbus : Stream.Supplies left) (bus : Tap σ) {e : Endpoint n Detached η}
    (hreport : ∀ data, ∃ r, (e.store 0 data).blockReceived.result = .ok r) :
    ∃ bus' e', (reception bus e).result =
        .ok (if e.armedSize ≤ (left bus.stream).length then .ok () else .error .closed, bus', e') ∧
      bus'.taken = bus.taken ++ (left bus.stream).take e.armedSize ∧
      left bus'.stream = (left bus.stream).drop e.armedSize := by
  obtain ⟨bus', hgather, hleft⟩ := hbus.tap.gather e.armedSize bus []
  obtain ⟨pieces, hlog, hgot, _⟩ := Tap.gather_log e.armedSize bus []
  rw [hgather, List.append_nil, List.append_nil, List.reverse_inj] at hgot
  rw [hgather] at hlog
  have htaken : bus'.taken = bus.taken ++ (left bus.stream).take e.armedSize := by
    rw [hgot]
    exact (Tap.history_taken hlog).1
  unfold reception
  by_cases henough : e.armedSize ≤ (left bus.stream).length
  · rw [if_pos henough] at hgather
    obtain ⟨⟨report, e'⟩, hreport⟩ := hreport (((left bus.stream).take e.armedSize).reverse ++ []).reverse
    refine ⟨bus', e', ?_, htaken, hleft⟩
    simp only [if_pos henough, hgather, Run.result_bind, hreport, Outcomes.ok_bind]
    cases report <;> rfl
  · rw [if_neg henough] at hgather
    refine ⟨bus', e.store 0 (((left bus.stream).take e.armedSize).reverse ++ []).reverse, ?_, htaken, hleft⟩
    simp only [if_neg henough, hgather, Run.result_pure]

end Supplied

end BusBridge.Serving
