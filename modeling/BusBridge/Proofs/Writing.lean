import BusBridge.Bench.Device
import BusBridge.Proofs.Answers
/-!
# Services write in place

A service is given a reply over the send buffer of the link and can only write into it: fill the space left, count
some of it as written, start again. `Draft.Edits` is what comes of that, and appending bytes or a payload is
no more than that. The block of the draft keeps its size, whatever is written (`Draft.Edits.length_block`).
All services of this library write in that way (`WritesInPlace`).
-/

namespace BusBridge

namespace Draft

/-- The second draft comes about from the first one by the operations of a draft. -/
inductive Edits (d : Draft) : Draft → Prop where
  | refl : Edits d d
  | fill {d₁ : Draft} (data : Bytes) : Edits d d₁ → Edits d (d₁.fill data)
  | advance {d₁ d₂ : Draft} {size : Nat} : Edits d d₁ → d₁.advance size = .ok d₂ → Edits d d₂
  | clear {d₁ : Draft} : Edits d d₁ → Edits d d₁.clear

namespace Edits

variable {d d₁ d₂ : Draft}

theorem length_block (h : d.Edits d₁) : d₁.block.length = d.block.length := by
  induction h with
  | refl => rfl
  | fill data _ ih => exact (Bytes.length_overlay _ _ _).trans ih
  | @advance d₁ d₂ size _ hadvance ih =>
    unfold Draft.advance at hadvance
    split at hadvance
    · cases hadvance
      exact ih
    · cases hadvance
  | clear _ ih => exact ih

theorem put {bytes : Bytes} (h : d.Edits d₁) (hput : d₁.put bytes = .ok d₂) : d.Edits d₂ := by
  unfold Draft.put at hput
  split at hput
  · exact (h.fill bytes).advance hput
  · cases hput

theorem putAll (h : d.Edits d₁) (pieces : List Bytes) : d.Edits (d₁.putAll pieces).2 := by
  induction pieces generalizing d₁ with
  | nil => exact h
  | cons piece rest ih =>
    unfold Draft.putAll
    split
    next d₂ hput => exact ih (h.put hput)
    next => exact h

theorem encode (h : d.Edits d₁) (pieces : List Bytes) : d.Edits (d₁.encode pieces).2 := by
  have hall := h.putAll pieces
  unfold Draft.encode
  split
  next d₂ heq =>
    rw [heq] at hall
    exact hall
  next => exact h.fill _

theorem apply (h : d.Edits d₁) (op : DraftOp) : d.Edits (d₁.apply op).2 := by
  cases op with
  | put bytes =>
    unfold Draft.apply
    dsimp only
    split
    next d₂ hput => exact h.put hput
    next => exact h
  | encode pieces => exact h.encode pieces
  | advance size =>
    unfold Draft.apply
    dsimp only
    split
    next d₂ hadvance => exact h.advance hadvance
    next => exact h
  | clear => exact h.clear
  | fill bytes => exact h.fill bytes

end Edits

end Draft

namespace Reply

variable {d : Draft} {r : Reply}

theorem put_edits (h : d.Edits r.draft) (pieces : List Bytes) : d.Edits (r.put pieces).2.draft :=
  h.putAll pieces

theorem finish_edits (h : d.Edits r.draft) (status : Status) (body : List Bytes) :
    d.Edits (r.finish status body).2.draft :=
  h.putAll (wire status :: body)

theorem settle_edits (h : d.Edits r.draft) (count : Nat) (status : Status) (data : Bytes) (rest : List Bytes) :
    d.Edits (r.settle count status data rest).2.draft := by
  unfold settle
  dsimp only
  by_cases hstatus : status = .ok
  · rw [if_pos hstatus]
    split
    next draft hadvance => exact (h.fill data).advance hadvance
    next => exact h.fill data
  · rw [if_neg hstatus]
    exact finish_edits (h.fill data).clear status rest

end Reply

/-- The services write their replies by the operations of a reply. -/
class WritesInPlace (κ : Type) [Service κ] : Prop where
  edits : ∀ (service : κ) (request : Message) (r : Reply),
    r.draft.Edits (Service.handle service request r).value.2.1.draft

namespace Board

theorem answer_edits (b : Board) (request : Message) (r : Reply) :
    r.draft.Edits (b.answer request r).value.2.draft := by
  have hfinish : ∀ status body, r.draft.Edits (r.finish status body).2.draft :=
    fun status body => Reply.finish_edits .refl status body
  unfold answer
  split
  · exact hfinish _ _
  split
  · exact hfinish _ _
  split
  · exact hfinish _ _
  split
  · exact hfinish _ _
  split
  · unfold wait
    split
    · exact hfinish _ _
    · exact hfinish _ _
  · exact .refl

instance : WritesInPlace Board where
  edits b request r := b.answer_edits request r

end Board

namespace I2cPorts

variable {β : Type} [I2cPort β]

theorem replyRead_edits (m : I2cPorts β) (channel : UInt8) (request : I2c.Read) (r : Reply) :
    r.draft.Edits (m.replyRead channel request r).value.2.1.draft := by
  have hput := Reply.put_edits (.refl : r.draft.Edits r.draft) [wire Status.ok, wire request.address]
  rcases hresult : r.put [wire Status.ok, wire request.address] with ⟨result, started⟩
  rw [hresult] at hput
  cases result with
  | error full =>
    simp only [replyRead, hresult, Trace.value_pure]
    exact hput
  | ok _ =>
    have hsettle := congrArg (fun left => left.2.draft) (@replyRead_eq β _ m channel request r started hresult)
    dsimp only at hsettle
    rw [hsettle]
    exact Reply.settle_edits hput _ _ _ _

theorem answer_edits (m : I2cPorts β) (request : Message) (r : Reply) :
    r.draft.Edits (m.answer request r).value.2.1.draft := by
  have hfinish : ∀ status body, r.draft.Edits (r.finish status body).2.draft :=
    fun status body => Reply.finish_edits .refl status body
  unfold answer
  split
  · exact hfinish _ _
  split
  · split
    · exact hfinish _ _
    · exact hfinish _ _
  split
  · split
    · exact m.replyRead_edits _ _ _
    · exact hfinish _ _
  · exact .refl

instance : WritesInPlace (I2cPorts β) where
  edits := answer_edits

end I2cPorts

namespace SpiPorts

variable {β : Type}

theorem replyInPlace_edits (m : SpiPorts β) (size : Nat) (r : Reply)
    (access : Option Bytes → Trace (Status × Bytes × SpiPorts β)) :
    r.draft.Edits (m.replyInPlace size r access).value.2.1.draft := by
  have hput := Reply.put_edits (.refl : r.draft.Edits r.draft) [wire Status.ok]
  rcases hresult : r.put [wire Status.ok] with ⟨result, started⟩
  rw [hresult] at hput
  cases result with
  | error full =>
    simp only [replyInPlace, hresult, Trace.value_pure]
    exact hput
  | ok _ =>
    simp only [replyInPlace, hresult, Trace.value_bind, Trace.value_pure]
    exact Reply.settle_edits hput size _ _ []

variable [SpiPort β]

theorem answer_edits (m : SpiPorts β) (request : Message) (r : Reply) :
    r.draft.Edits (m.answer request r).value.2.1.draft := by
  have hfinish : ∀ status body, r.draft.Edits (r.finish status body).2.draft :=
    fun status body => Reply.finish_edits .refl status body
  unfold answer
  split
  · exact hfinish _ _
  split
  · exact hfinish _ _
  split
  · split
    · exact m.replyInPlace_edits _ _ _
    · exact hfinish _ _
  split
  · exact hfinish _ _
  split
  · exact m.replyInPlace_edits _ _ _
  · exact .refl

instance : WritesInPlace (SpiPorts β) where
  edits := answer_edits

end SpiPorts

namespace Bench

theorem ReplyScript.write_edits {d : Draft} (ops : List ReplyOp) {r : Reply} (h : d.Edits r.draft) :
    d.Edits (ReplyScript.write ops r).2.draft := by
  induction ops generalizing r with
  | nil => exact h
  | cons op rest ih =>
    cases op with
    | setOperation operation => exact ih h
    | draft op =>
      have hop := h.apply op
      unfold ReplyScript.write
      split
      next d₁ heq =>
        rw [heq] at hop
        exact ih hop
      next e d₁ heq =>
        rw [heq] at hop
        exact hop

instance : WritesInPlace Device where
  edits device request r := by
    cases device with
    | board b => exact WritesInPlace.edits b request r
    | i2c ports => exact WritesInPlace.edits ports request r
    | spi ports => exact WritesInPlace.edits ports request r
    | scripted scripts =>
      cases scripts with
      | nil => exact .refl
      | cons script rest => exact ReplyScript.write_edits script.ops .refl

end Bench

end BusBridge
