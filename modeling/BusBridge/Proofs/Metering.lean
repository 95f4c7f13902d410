import BusBridge.Proofs.Hearing
import BusBridge.Proofs.Polling
/-!
# Media under a meter

A medium is metered if it is known which bytes it has received (`Metered`). There are two ways to know.
A stream that is read through a `Tap` knows every byte that was read, also those of a block that is not
complete. Of any other medium only the complete blocks are known, and `Meter` keeps them.

An endpoint over a metered medium tracks its bytes: what is armed, and how much of it is there, is what the
parse of these bytes leaves open (`Endpoint.Tracks`). Polls keep it so, and its slot hears the frames that they
complete (`Endpoint.poll_listens`).
-/

namespace BusBridge

open Framing

/-- A medium of which it is known what it received. -/
class Metered (δ : Type) (φ : outParam Type) [Medium δ φ] where
  /-- the bytes received so far -/
  taken : δ → Bytes
  /-- how many of them are in the armed block, as long as that is not complete -/
  received : δ → Nat
  armReceive : ∀ (m : δ) (size : Nat), taken (Medium.armReceive m size) = taken m ∧
    received (Medium.armReceive m size) = 0
  armSend : ∀ (m : δ) (size : Nat), taken (Medium.armSend m size) = taken m ∧
    received (Medium.armSend m size) = received m
  cancelSend : ∀ m : δ, taken (Medium.cancelSend m).value = taken m ∧ received (Medium.cancelSend m).value = received m
  pollSend : ∀ (m : δ) (block : Bytes), taken (Medium.pollSend m block).value.2 = taken m ∧
    received (Medium.pollSend m block).value.2 = received m
  /-- a poll puts new bytes where the reception had got to -/
  pollReceive : ∀ (m : δ) (block : Bytes), received m < block.length → ∃ result content m' new,
    Medium.pollReceive m block = (result, content, m') ∧ taken m' = taken m ++ new ∧
      (Bytes.overlay block 0 content).take (received m + new.length) = block.take (received m) ++ new ∧
      (result = .ok true ∧ received m + new.length = block.length ∨
        result ≠ .ok true ∧ received m' = received m + new.length ∧ received m + new.length < block.length)

namespace Metered

/-- Emissions receive nothing. -/
theorem emits {δ φ : Type} [Medium δ φ] [Metered δ φ] {m m' : δ} (h : Medium.Emits m m') :
    taken m' = taken m ∧ received m' = received m := by
  induction h with
  | refl => exact ⟨rfl, rfl⟩
  | armSend size _ ih => exact ⟨(armSend _ size).1.trans ih.1, (armSend _ size).2.trans ih.2⟩
  | cancelSend _ ih => exact ⟨(cancelSend _).1.trans ih.1, (cancelSend _).2.trans ih.2⟩

end Metered

/-! ## Streams under a tap -/

instance {σ : Type} [Stream σ] : Metered (StreamMedium (Tap σ)) IoKind where
  taken m := m.stream.taken
  received m := m.received
  armReceive _ _ := ⟨rfl, rfl⟩
  armSend _ _ := ⟨rfl, rfl⟩
  cancelSend m := by
    obtain ⟨hstream, hreceived⟩ := (Medium.Emits.cancelSend (.refl : Medium.Emits m m)).stream
    exact ⟨congrArg Tap.taken hstream, hreceived⟩
  pollSend m block := by
    obtain ⟨result, new, left, stream, hpoll, htaken, _⟩ :=
      StreamMedium.pollSend_spec (Tap.writeLaw m.stream.taken) m block [] rfl
    rw [hpoll]
    exact ⟨htaken, rfl⟩
  pollReceive m block hlt := by
    obtain ⟨result, new, stream, hpoll, htaken, hle, hcomplete⟩ :=
      StreamMedium.pollReceive_spec (Tap.readLaw m.stream.taken) m block [] (List.append_nil _).symm
    rw [List.nil_append] at htaken
    refine ⟨result, _, _, new, hpoll, htaken, ?_, ?_⟩
    · rw [Bytes.overlay_whole (Bytes.length_overlay ..), Bytes.take_overlay (by omega)]
    · by_cases hresult : result = .ok true
      · exact .inl ⟨hresult, by have := hcomplete.mp hresult; omega⟩
      · refine .inr ⟨hresult, rfl, ?_⟩
        have hopen : new.length ≠ block.length - m.received := fun hfull => hresult (hcomplete.mpr hfull)
        omega

/-! ## Any medium under a meter -/

/-- A medium with the blocks that it completed. -/
structure Meter (δ : Type) where
  medium : δ
  taken : Bytes := []

namespace Meter

variable {δ φ : Type} [Medium δ φ]

/-- The bytes of a poll that count: those of a complete block. -/
def complete (block : Bytes) : Except φ Bool → Bytes
  | .ok true => block
  | _ => []

theorem complete_open {block : Bytes} {result : Except φ Bool} (h : result ≠ .ok true) :
    complete block result = [] := by
  rcases result with kind | done
  · rfl
  · cases done with
    | false => rfl
    | true => exact absurd rfl h

instance : Medium (Meter δ) φ where
  armReceive m size := { m with medium := Medium.armReceive m.medium size }
  armSend m size := { m with medium := Medium.armSend m.medium size }
  cancelSend m := do
    let medium ← Medium.cancelSend m.medium
    pure { m with medium }
  pollReceive m block :=
    let (result, content, medium) := Medium.pollReceive m.medium block
    (result, content, ⟨medium, m.taken ++ complete (Bytes.overlay block 0 content) result⟩)
  pollSend m block := do
    let (result, medium) ← Medium.pollSend m.medium block
    pure (result, { m with medium })

instance : Metered (Meter δ) φ where
  taken m := m.taken
  received _ := 0
  armReceive _ _ := ⟨rfl, rfl⟩
  armSend _ _ := ⟨rfl, rfl⟩
  cancelSend _ := ⟨rfl, rfl⟩
  pollSend _ _ := ⟨rfl, rfl⟩
  pollReceive m block hlt := by
    rcases hpoll : Medium.pollReceive m.medium block with ⟨result, content, medium⟩
    refine ⟨result, content, ⟨medium, m.taken ++ complete (Bytes.overlay block 0 content) result⟩,
      complete (Bytes.overlay block 0 content) result, by simp only [Medium.pollReceive, hpoll], rfl, ?_, ?_⟩
    · rw [Nat.zero_add, List.take_zero, List.nil_append]
      by_cases hresult : result = .ok true
      · rw [hresult, complete, List.take_length]
      · rw [complete_open hresult, List.length_nil, List.take_zero]
    · by_cases hresult : result = .ok true
      · exact .inl ⟨hresult, by rw [hresult, complete, Nat.zero_add, Bytes.length_overlay]⟩
      · refine .inr ⟨hresult, ?_, ?_⟩
        · rw [complete_open hresult, List.length_nil]
        · rw [complete_open hresult]
          exact hlt

end Meter

/-! ## An endpoint that listens -/

namespace Endpoint

variable {n : Nat} {δ φ : Type} [Medium δ φ] [Metered δ φ]

/-- The bytes that the endpoint has received. -/
def taken {η : Type} (e : Endpoint n δ η) : Bytes :=
  Metered.taken e.link.medium

/-- The endpoint stands in its frame where the parse of its bytes ends. -/
def Tracks {η : Type} (e : Endpoint n δ η) : Prop :=
  e.Holds (Metered.received e.link.medium) (parse e.taken).2

/-- The second endpoint is the first one after its slot heard what arrived meanwhile. -/
structure Listens (e e' : Endpoint n δ ResponseSlot) : Prop where
  tracks : e'.Tracks
  heard : Heard (n - Header.size) e.taken e'.taken e.handler e'.handler

variable {e e₁ e' : Endpoint n δ ResponseSlot} {result : Except (PollError φ) Bool}

theorem Tracks.listens (h : e.Tracks) : e.Listens e :=
  ⟨h, .refl ..⟩

theorem Listens.trans (h₁ : e.Listens e₁) (h₂ : e₁.Listens e') : e.Listens e' :=
  ⟨h₂.tracks, h₁.heard.trans h₂.heard⟩

/-- Where an endpoint stands does not depend on its emission and its slot. -/
theorem Tracks.congr (h : e.Tracks) (hreception : e'.reception = e.reception) (hinbox : e'.inbox = e.inbox)
    (htaken : e'.taken = e.taken)
    (hreceived : Metered.received e'.link.medium = Metered.received e.link.medium) : e'.Tracks := by
  unfold Tracks
  rw [htaken, hreceived]
  exact Holds.congr h hreception hinbox

/-- A poll of the reception listens. -/
theorem pollReceive_listens (hn : Header.size < n) (h : e.Tracks) (hrun : e.pollReceive.result = .ok (result, e')) :
    e.Listens e' := by
  have harmed := length_armed (h.room hn)
  have hroom := Holds.room h hn
  have hlt := Holds.received_lt h
  have hinbox := e.inbox.length_bytes
  obtain ⟨polled, content, medium, new, hpoll, htaken, hfront, hcase⟩ :=
    Metered.pollReceive e.link.medium e.armed (by rw [harmed]; exact hlt)
  rw [harmed] at hcase
  -- the endpoint before it reports a complete block
  have harrives : e.Arrives { e.store 0 content with link.medium := medium } (Metered.received e.link.medium) new :=
    ⟨rfl, Bytes.take_overlay_slice (by omega) (by omega) hfront⟩
  simp only [pollReceive, hpoll] at hrun
  obtain ⟨rfl, hfull⟩ | ⟨hopen, hreceived, hpart⟩ := hcase
  · obtain ⟨⟨report, e₁⟩, hreport, hrest⟩ := Run.result_bind_eq_ok.mp hrun
    obtain ⟨hholds, hheard, size, hlink⟩ := hears_report (reports_of_filled h hn harrives hfull hreport)
    obtain ⟨hsame, hzero⟩ := Metered.armReceive medium size
    have hend : e₁.taken = e.taken ++ new :=
      (congrArg (fun l : Link n δ => Metered.taken l.medium) hlink).trans (hsame.trans htaken)
    have hstart : Metered.received e₁.link.medium = 0 :=
      (congrArg (fun l : Link n δ => Metered.received l.medium) hlink).trans hzero
    have hlistens : e.Listens e₁ := by
      refine ⟨?_, ?_⟩
      · unfold Tracks
        rw [hend, hstart]
        exact hholds
      · rw [hend]
        exact hheard
    cases report <;> cases hrest <;> exact hlistens
  · obtain ⟨hholds, hheard⟩ := hears_wait h harrives hpart rfl
    have hlistens : e.Listens { e.store 0 content with link.medium := medium } := by
      refine ⟨?_, ?_⟩
      · unfold Tracks taken
        rw [htaken, hreceived]
        exact hholds
      · unfold taken
        rw [htaken]
        exact hheard
    rcases polled with kind | done
    · cases hrun
      exact hlistens
    · cases done with
      | true => exact absurd rfl hopen
      | false =>
        cases hrun
        exact hlistens

/-- An endpoint whose reception and slot are as they were has heard nothing. -/
theorem Tracks.hears_nothing (h : e.Tracks) (hreception : e'.reception = e.reception) (hinbox : e'.inbox = e.inbox)
    (hhandler : e'.handler = e.handler) (htaken : e'.taken = e.taken)
    (hreceived : Metered.received e'.link.medium = Metered.received e.link.medium) : e.Listens e' := by
  refine ⟨h.congr hreception hinbox htaken hreceived, ?_⟩
  rw [htaken, hhandler]
  exact .refl ..

/-- A poll of the emission hears nothing. -/
theorem pollSend_listens (h : e.Tracks) (hrun : e.pollSend.result = .ok (result, e')) : e.Listens e' := by
  unfold pollSend at hrun
  cases hframe : e.link.armed? with
  | none =>
    simp only [hframe] at hrun
    cases hrun
    exact h.listens
  | some frame =>
    simp only [hframe] at hrun
    obtain ⟨⟨polled, medium⟩, hpoll, hrest⟩ := Run.result_bind_eq_ok.mp hrun
    obtain ⟨htaken, hreceived⟩ := Metered.pollSend e.link.medium frame
    have hvalue : (Medium.pollSend e.link.medium frame).value = (polled, medium) := Except.ok.inj hpoll
    rw [hvalue] at htaken hreceived
    rcases polled with kind | done
    · cases hrest
      exact h.hears_nothing rfl rfl rfl htaken hreceived
    · cases done with
      | false =>
        cases hrest
        exact h.hears_nothing rfl rfl rfl htaken hreceived
      | true =>
        obtain ⟨e₁, hsent, hlast⟩ := Run.result_bind_eq_ok.mp hrest
        obtain rfl := blockSent_listens hsent
        cases hlast
        exact h.hears_nothing rfl rfl rfl htaken hreceived

/-- A poll listens. -/
theorem poll_listens (hn : Header.size < n) {rounds : Nat} (h : e.Tracks)
    (hrun : (e.poll rounds).result = .ok (result, e')) :
    e.Listens e' :=
  poll_keeps (fun _ e₁ => e.Listens e₁)
    (fun _ _ _ _ hlistens hsend => hlistens.trans (pollSend_listens hlistens.tracks hsend))
    (fun _ _ _ _ hlistens hreceive => hlistens.trans (pollReceive_listens hn hlistens.tracks hreceive))
    [] h.listens hrun

end Endpoint

end BusBridge
