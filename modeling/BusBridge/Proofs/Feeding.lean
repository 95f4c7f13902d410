import BusBridge.Line.Feed
import BusBridge.Proofs.Emission
import BusBridge.Proofs.Reception
/-!
# Feeding a frame

An endpoint that waits for a header and is fed the frame of a message that fits takes it in one block or
in two, hands the message over once, and waits for a header again with nothing left over
(`Endpoint.feed_frame`). The link that the handler is given is the endpoint's own, except that the
payload was armed on its medium if there is one.
-/

namespace BusBridge

namespace Endpoint

open Framing

variable {n : Nat} {δ η φ : Type} [Medium δ φ] [Handler η] {e : Endpoint n δ η} {m : Message}

/-- The medium of an endpoint after the header of a message was fed to it. -/
def armedFor (medium : δ) (m : Message) : δ :=
  if m.payload = [] then medium else Medium.armReceive medium m.payload.length

/-- A block that is there as a whole is accepted, and feeding goes on behind it. -/
theorem feedTurn_accept {results : List (Except Oversized Unit)} {left : Bytes}
    (h : e.armedSize ≤ left.length) :
    (feedTurn ⟨results, left, e⟩).result =
      (e.accept (left.take e.armedSize)).result >>= fun r =>
        .ok (.again ⟨r.1 :: results, left.drop e.armedSize, r.2⟩) := by
  have hfull : ¬(left.take e.armedSize).length < e.armedSize := by
    rw [List.length_take, Nat.min_eq_left h]
    exact Nat.lt_irrefl _
  simp only [feedTurn, if_neg hfull, Run.result_bind, Run.result_pure]

/-- Feeding stops when nothing is left. -/
theorem feedTurn_stop {results : List (Except Oversized Unit)} (h : 0 < e.armedSize) :
    (feedTurn ⟨results, [], e⟩).result = .ok (.done ⟨results, [], e⟩) := by
  simp only [feedTurn, List.take_nil, List.length_nil, if_pos h, Run.result_pure]

/-- A block that completes a frame hands its message over, and the endpoint waits for a header. -/
theorem accept_last {bytes data : Bytes} {h : η} {l : Link n δ} (hn : Header.size < n) (hholds : e.Holds 0 bytes)
    (hframe : bytes ++ data = m.frame) (hfull : data.length = e.armedSize) (hmax : m.payload.length ≤ maxPayload)
    (hfit : m.payload.length ≤ e.capacity) (hrun : (Handler.onMessage e.handler m e.link).result = .ok (h, l)) :
    ∃ e', (e.accept data).result = .ok (.ok (), e') ∧ e'.reception = .header ∧ e'.handler = h ∧
      e'.link = { l with medium := Medium.armReceive l.medium Header.size } := by
  have hsize : 0 + data.length = e.armedSize := by rw [Nat.zero_add, hfull]
  have hfilled : (e.store 0 data).Filled m.frame :=
    hframe ▸ hholds.fill (arrives_store (hholds.room hn) (Nat.le_of_eq hsize)) hsize
  have hreport := blockReceived_deliver hfilled hmax hfit
  have hstored : (Handler.onMessage (e.store 0 data).handler m (e.store 0 data).link).result = .ok (h, l) := hrun
  rw [hstored, Outcomes.ok_bind] at hreport
  exact ⟨_, hreport, rfl, rfl, rfl⟩

/-- The header of a message with a payload makes the endpoint wait for the payload. -/
theorem accept_header (hn : Header.size < n) (hheader : e.reception = .header) (hmax : m.payload.length ≤ maxPayload)
    (hfit : m.payload.length ≤ e.capacity) (hpayload : m.payload ≠ []) :
    ∃ e₁, (e.accept (wire m.header)).result = .ok (.ok (), e₁) ∧ e₁.Holds 0 (wire m.header) ∧
      e₁.armedSize = m.payload.length ∧ e₁.handler = e.handler ∧
      e₁.link = { e.link with medium := armedFor e.link.medium m } := by
  have hpos := List.length_pos_iff.mpr hpayload
  have hdeclared := declared?_wire hmax
  have hsize := Link.length_wire_header m.header
  have harmed : 0 + (wire m.header).length = e.armedSize := by
    rw [hsize, armedSize, hheader, Reception.size, Nat.zero_add]
  have hfresh := Holds.fresh hheader
  have hfilled : (e.store 0 (wire m.header)).Filled (wire m.header) :=
    hfresh.fill (arrives_store (hfresh.room hn) (Nat.le_of_eq harmed)) harmed
  have hopen : Unfinished (wire m.header) := by
    intro length hlength
    cases hdeclared.symm.trans hlength
    omega
  obtain ⟨reception, hreport, hholds⟩ := blockReceived_proceed hfilled hn hopen hdeclared fun _ => hfit
  have hwaits : reception = .payload m.payload.length := hholds.waits hdeclared hfit hsize
  subst hwaits
  refine ⟨_, hreport, hholds, rfl, rfl, ?_⟩
  rw [armedFor, if_neg hpayload]
  rfl

/-- A frame that fits is taken as a whole, and its message is handed over once. -/
theorem feed_frame {h : η} {l : Link n δ} (hn : Header.size < n) (hheader : e.reception = .header)
    (hmax : m.payload.length ≤ maxPayload) (hfit : m.payload.length ≤ e.capacity)
    (hrun : (Handler.onMessage e.handler m { e.link with medium := armedFor e.link.medium m }).result = .ok (h, l)) :
    ∃ results e', (e.feed m.frame).result = .ok (results, [], e') ∧ (∀ r ∈ results, r = .ok ()) ∧
      e'.reception = .header ∧ e'.handler = h ∧
        e'.link = { l with medium := Medium.armReceive l.medium Header.size } := by
  have hsize : e.armedSize = Header.size := by rw [armedSize, hheader, Reception.size]
  have hwire := Link.length_wire_header m.header
  have hlength : m.frame.length = 5 + m.payload.length := length_frame m
  have htake : m.frame.take e.armedSize = wire m.header := hsize ▸ List.take_left' hwire
  have hdrop : m.frame.drop e.armedSize = m.payload := hsize ▸ List.drop_left' hwire
  have hfirst := @feedTurn_accept n δ η _ _ _ e [] m.frame (by rw [hsize, hlength]; exact Nat.le_add_right _ _)
  rw [htake, hdrop] at hfirst
  by_cases hpayload : m.payload = []
  · rw [armedFor, if_pos hpayload] at hrun
    obtain ⟨e', haccept, hr, hhandler, hlink⟩ := accept_last hn (Holds.fresh hheader)
      (show [] ++ wire m.header = m.frame by rw [Message.frame, hpayload, List.append_nil, List.nil_append])
      (hwire.trans hsize.symm) hmax hfit hrun
    rw [haccept, Outcomes.ok_bind, hpayload] at hfirst
    have hstop := @feedTurn_stop n δ η _ _ _ e' [.ok ()] (by rw [armedSize, hr, Reception.size]; decide)
    obtain ⟨limit, hlimit⟩ : ∃ limit, m.frame.length + 1 = limit + 2 := ⟨4, by rw [hlength, hpayload]; rfl⟩
    refine ⟨[.ok ()], e', ?_, by simp, hr, hhandler, hlink⟩
    simp only [feed, hlimit, Run.loop_succ, Run.result_bind, hfirst, Outcomes.ok_bind, hstop, Run.result_pure]
    rfl
  · obtain ⟨e₁, haccept, hholds, hsize₁, hhandler₁, hlink₁⟩ := accept_header hn hheader hmax hfit hpayload
    rw [haccept, Outcomes.ok_bind] at hfirst
    rw [← hhandler₁, ← hlink₁] at hrun
    obtain ⟨e', haccept', hr, hhandler, hlink⟩ := accept_last hn hholds rfl hsize₁.symm hmax hfit hrun
    have hsecond := @feedTurn_accept n δ η _ _ _ e₁ [.ok ()] m.payload (Nat.le_of_eq hsize₁)
    rw [hsize₁, List.take_length, List.drop_length, haccept', Outcomes.ok_bind] at hsecond
    have hstop := @feedTurn_stop n δ η _ _ _ e' [.ok (), .ok ()] (by rw [armedSize, hr, Reception.size]; decide)
    obtain ⟨limit, hlimit⟩ : ∃ limit, m.frame.length + 1 = limit + 3 := ⟨m.payload.length + 3, by omega⟩
    refine ⟨[.ok (), .ok ()], e', ?_, by simp, hr, hhandler, hlink⟩
    simp only [feed, hlimit, Run.loop_succ, Run.result_bind, hfirst, Outcomes.ok_bind, hsecond, hstop, Run.result_pure]
    rfl

end Endpoint

end BusBridge
