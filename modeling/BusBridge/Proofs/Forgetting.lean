import BusBridge.Proofs.Dialogues
import BusBridge.Proofs.Erasure
/-!
# Forgetting what a handler recorded

A handler that keeps a record beside another one, and does the same as the other one on every occasion, does the
same to its endpoint, whatever the owner does (`Forgets.use`). So what is proved of the handler with its record
is true of the one without it. `Erasure` is the same for callers, where the medium keeps a record, too.
-/

namespace BusBridge

variable {n : Nat} {δ η η' α : Type}

/-- The handler does on each occasion what the other one does, with something more to remember. -/
structure Forgets [Handler η'] [Handler η] (f : η' → η) : Prop where
  onMessage : ∀ {n : Nat} {δ φ : Type} [Medium δ φ] (h : η') (m : Message) (l : Link n δ),
    Handler.onMessage (f h) m l = (fun r => (f r.1, r.2)) <$> Handler.onMessage h m l
  onSent : ∀ {n : Nat} {δ φ : Type} [Medium δ φ] (h : η') (l : Link n δ),
    Handler.onSent (f h) l = (fun r => (f r.1, r.2)) <$> Handler.onSent h l

/-- The endpoint with another handler. -/
def Endpoint.swap (f : η' → η) (e : Endpoint n δ η') : Endpoint n δ η :=
  { e with handler := f e.handler }

/-- The result of an operation on an endpoint, with another handler. -/
def Endpoint.swapped (f : η' → η) (r : α × Endpoint n δ η') : α × Endpoint n δ η :=
  (r.1, r.2.swap f)

namespace Forgets

variable {φ : Type} [Medium δ φ] [Handler η'] [Handler η] {f : η' → η}

theorem deliver (hf : Forgets f) (e : Endpoint n δ η') (h : Header) :
    (e.swap f).deliver h = (·.swap f) <$> e.deliver h := by
  unfold Endpoint.deliver
  have hdump : (e.swap f).link.dump = e.link.dump := rfl
  by_cases hd : e.link.dump = true
  · simp only [hdump, hd, if_true]
    exact Run.bind_map_same fun _ => Run.bind_map_congr (hf.onMessage e.handler _ e.link) fun _ => rfl
  · simp only [hdump, hd]
    exact Run.bind_map_congr (hf.onMessage e.handler _ e.link) fun _ => rfl

theorem blockReceived (hf : Forgets f) (e : Endpoint n δ η') :
    (e.swap f).blockReceived = Endpoint.swapped f <$> e.blockReceived := by
  unfold Endpoint.blockReceived
  have hreception : (e.swap f).reception = e.reception := rfl
  have hheader : (e.swap f).header = e.header := rfl
  have hcapacity : (e.swap f).capacity = e.capacity := rfl
  have harm (e₁ : Endpoint n δ η') (reception : Reception) :
    (liftM ((e₁.swap f).arm reception) : Run (Endpoint n δ η)) =
    (·.swap f) <$> (liftM (e₁.arm reception) : Run (Endpoint n δ η')) := rfl
  rw [hreception]
  cases e.reception with
  | header =>
    simp only [hheader, hcapacity]
    refine Run.bind_map_same fun _ => ?_
    split
    · exact Run.bind_map_congr (hf.deliver e _) fun e₁ => Run.bind_map_congr (harm e₁ _) fun _ => rfl
    · split
      · refine Run.bind_map_same fun _ => ?_
        exact Run.bind_map_congr (harm { e with oversized := e.oversized.plus 1 } _) fun _ => rfl
      · exact Run.bind_map_congr (harm e _) fun _ => rfl
  | payload _ => exact Run.bind_map_congr (hf.deliver e _) fun e₁ => Run.bind_map_congr (harm e₁ _) fun _ => rfl
  | skipping left => exact Run.bind_map_congr (harm e _) fun _ => rfl

theorem blockSent (hf : Forgets f) (e : Endpoint n δ η') : (e.swap f).blockSent = (·.swap f) <$> e.blockSent := by
  unfold Endpoint.blockSent
  have hsending : (e.swap f).link.sending = e.link.sending := rfl
  rw [hsending]
  cases e.link.sending with
  | none => rfl
  | some size =>
    refine Run.bind_map_same fun _ => ?_
    exact Run.bind_map_congr (hf.onSent e.handler { e.link with sending := none }) fun _ => rfl

theorem pollReceive (hf : Forgets f) (e : Endpoint n δ η') :
    (e.swap f).pollReceive = Endpoint.swapped f <$> e.pollReceive := by
  unfold Endpoint.pollReceive
  have harmed : (e.swap f).armed = e.armed := rfl
  have hmedium : (e.swap f).link.medium = e.link.medium := rfl
  rw [harmed, hmedium]
  rcases Medium.pollReceive e.link.medium e.armed with ⟨kind | _ | _, block, medium⟩
  · rfl
  · rfl
  · refine Run.bind_map_congr (hf.blockReceived { e.store 0 block with link.medium := medium }) ?_
    rintro ⟨_ | _, e₁⟩ <;> rfl

theorem pollSend (hf : Forgets f) (e : Endpoint n δ η') : (e.swap f).pollSend = Endpoint.swapped f <$> e.pollSend := by
  unfold Endpoint.pollSend
  have harmed : (e.swap f).link.armed? = e.link.armed? := rfl
  have hmedium : (e.swap f).link.medium = e.link.medium := rfl
  rw [harmed, hmedium]
  cases e.link.armed? with
  | none => rfl
  | some frame =>
    refine Run.bind_map_same ?_
    rintro ⟨kind | _ | _, medium⟩
    · rfl
    · rfl
    · exact Run.bind_map_congr (hf.blockSent { e with link.medium := medium }) fun _ => rfl

theorem pollTurn (hf : Forgets f) (s : Bool × Endpoint n δ η') :
    Endpoint.pollTurn (Endpoint.swapped f s) =
      Turn.map (Endpoint.swapped f) (Endpoint.swapped f) <$> Endpoint.pollTurn s := by
  obtain ⟨any, e⟩ := s
  have honce : (e.swap f).pollOnce = Endpoint.swapped f <$> e.pollOnce := by
    refine Run.bind_map_congr (hf.pollSend e) ?_
    rintro ⟨_ | sent, e₁⟩
    · rfl
    · refine Run.bind_map_congr (hf.pollReceive e₁) ?_
      rintro ⟨_ | received, e₂⟩ <;> rfl
  refine Run.bind_map_congr honce ?_
  rintro ⟨_ | _ | _, e₁⟩ <;> rfl

theorem poll (hf : Forgets f) (rounds : Nat) (e : Endpoint n δ η') :
    (e.swap f).poll rounds = Endpoint.swapped f <$> e.poll rounds :=
  Run.loop_map hf.pollTurn rounds (false, e)

theorem drive (hf : Forgets f) (d : Drive) (e : Endpoint n δ η') : d.run (e.swap f) = (·.swap f) <$> d.run e := by
  cases d with
  | receive => exact Run.bind_map_congr (hf.pollReceive e) fun _ => rfl
  | send => exact Run.bind_map_congr (hf.pollSend e) fun _ => rfl
  | both rounds => exact Run.bind_map_congr (hf.poll rounds e) fun _ => rfl
  | accept data => exact Run.bind_map_congr (hf.blockReceived (e.store 0 data)) fun _ => rfl
  | sent => exact hf.blockSent e
  | abandon =>
    unfold Drive.run Endpoint.abandonSend
    rw [liftM_bind, liftM_bind]
    exact Run.bind_map_same fun _ => rfl

/-- Whatever the owner does, it does the same with the record and without it. -/
theorem use (hf : Forgets f) (u : Use) (e : Endpoint n δ η') : u.run (e.swap f) = (·.swap f) <$> u.run e := by
  cases u with
  | drive d => exact hf.drive d e
  | start s => exact Run.bind_map_same fun _ => rfl
  | write data => exact Run.bind_map_same fun _ => rfl

theorem comp {η'' : Type} [Handler η''] {g : η'' → η'} (hf : Forgets f) (hg : Forgets g) : Forgets (f ∘ g) where
  onMessage h m l := by
    rw [Function.comp_apply, hf.onMessage, hg.onMessage, ← comp_map]
    rfl
  onSent h l := by
    rw [Function.comp_apply, hf.onSent, hg.onSent, ← comp_map]
    rfl

/-- A handler does the same under watch and unwatched. -/
theorem watched : Forgets (Watched.handler : Watched η → η) where
  onMessage w m l := by
    show _ =
      (fun r : Watched η × Link _ _ => (r.1.handler, r.2)) <$> (Handler.onMessage w.handler m l >>= fun r => pure _)
    simp only [map_bind, map_pure]
    exact (bind_pure _).symm
  onSent w l := by
    show _ = (fun r : Watched η × Link _ _ => (r.1.handler, r.2)) <$> (Handler.onSent w.handler l >>= fun r => pure _)
    simp only [map_bind, map_pure]
    exact (bind_pure _).symm

end Forgets

end BusBridge
