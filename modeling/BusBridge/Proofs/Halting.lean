import BusBridge.Proofs.Contract
import BusBridge.Proofs.Detaching
import BusBridge.Proofs.Forgetting
import BusBridge.Proofs.Transfers
/-!
# Polls come to an end

A poll goes on as long as a round completes a block or a frame. A block takes at least one byte from the stream. A
handler that is `Restrained` starts at most one frame for each message, apart from the one that waits for the link: with
the frame on the link, that makes two more frames than messages (`Endpoint.due`). So a poll goes on for ever only if it
reads bytes for ever, and it ends exactly if the bytes that it reads are bounded (`Endpoint.Draws`). They are counted
along the poll itself, since the other side may answer what is written meanwhile.

`Endpoint.pollRounds` is a poll that keeps an account of its rounds, and nothing else (`Endpoint.poll_rounds`). What
a round costs and what it brings is `Endpoint.Spends`; it adds up over the rounds.
-/

namespace BusBridge

/-! ## Handlers that hold back -/

namespace Link

variable {n : Nat} {δ : Type}

/-- Number of frames on the link. -/
def load (l : Link n δ) : Nat :=
  if l.isBusy then 1 else 0

theorem load_le (l : Link n δ) : l.load ≤ 1 := by
  unfold load
  split <;> decide

theorem load_idle {l : Link n δ} (h : l.sending = none) : l.load = 0 := by
  rw [load, isBusy, h]
  rfl

theorem load_armed {l : Link n δ} {frame : Bytes} (h : l.armed? = some frame) : l.load = 1 := by
  obtain ⟨size, hsize, _⟩ := Option.map_eq_some_iff.mp h
  rw [load, isBusy, hsize]
  rfl

variable {φ : Type} [Medium δ φ]

/-- Using a link leaves the reception of its medium alone. -/
theorem Used.emits {l l' : Link n δ} (hn : Header.size < n) (h : l.Used l') : Medium.Emits l.medium l'.medium := by
  cases hsending : l.sending with
  | some size =>
    rw [h.busy hsending]
    exact .refl
  | none =>
    obtain ⟨_, hmedium⟩ | ⟨frame, hstarts⟩ := h.starts hn hsending
    · rw [hmedium]
      exact .refl
    · rw [hstarts.medium]
      exact .armSend _ .refl

end Link

/-- The handler starts at most one frame for a message, now or later, and at most one of them is left for later. -/
class Restrained (η : Type) [Handler η] where
  /-- frames that it will start when the link is idle again -/
  owed : η → Nat
  owed_le : ∀ h, owed h ≤ 1
  returns : HandlerReturns η
  message : ∀ {n : Nat} {δ φ : Type} [Medium δ φ] {h h' : η} {m : Message} {l l' : Link n δ}, Header.size < n →
    (Handler.onMessage h m l).result = .ok (h', l') → owed h' + l'.load ≤ owed h + l.load + 1
  report : ∀ {n : Nat} {δ φ : Type} [Medium δ φ] {h h' : η} {l l' : Link n δ}, Header.size < n → l.sending = none →
    (Handler.onSent h l).result = .ok (h', l') → owed h' + l'.load ≤ owed h

/-- A handler that only answers owes nothing. -/
@[reducible] def Restrained.ofAnswers {η : Type} [Handler η] [AnswersOnly η] (returns : HandlerReturns η) :
    Restrained η where
  owed _ := 0
  owed_le _ := Nat.zero_le 1
  returns := returns
  message {n δ _ _ h h' m l l'} _ _ := by
    have hload := l'.load_le
    omega
  report {n δ _ _ h h' l l'} _ hidle hrun := by
    rw [AnswersOnly.onSent hrun, Link.load_idle hidle]

instance : Restrained ResponseSlot :=
  .ofAnswers ResponseSlot.returns

instance {κ : Type} [Service κ] : Restrained (Router κ) :=
  .ofAnswers Router.returns

namespace Dialogue

variable {γ : Type}

/-- Number of requests that wait for the link. -/
def waiting (d : Dialogue γ) : Nat :=
  if d.pending.isSome then 1 else 0

theorem waiting_le (d : Dialogue γ) : d.waiting ≤ 1 := by
  unfold waiting
  split <;> decide

variable {n : Nat} {δ φ : Type} [Medium δ φ] {d d' : Dialogue γ} {l l' : Link n δ}

/-- The request that waits is the one that is sent. -/
theorem Flushes.waiting_load (h : d.Flushes l d' l') : d'.waiting + l'.load ≤ d.waiting + l.load := by
  cases h with
  | nothing | waits => exact Nat.le_refl _
  | sent hpending _ hstarts =>
    rw [Link.load_armed hstarts.armed, waiting, waiting, hpending]
    exact Nat.le_add_right 1 l.load
  | failed _ _ hdeclines =>
    rw [Link.load_idle hdeclines.left, Link.load_idle hdeclines.idle]
    exact Nat.zero_le _

instance [Conversation γ] : Restrained (Dialogue γ) where
  owed := waiting
  owed_le := waiting_le
  returns := Dialogue.returns
  message {n δ _ _ d d' m l l'} hn hrun := by
    obtain ⟨_, rfl, rfl⟩ | ⟨_, hadvances⟩ := onMessage_cases hn hrun
    · exact Nat.le_succ _
    · cases hadvances with
      | silent => exact Nat.le_succ _
      | asks _ hflushes =>
        have hone := Nat.le_trans hflushes.waiting_load (Nat.add_le_add_right (waiting_le _) _)
        omega
  report {n δ _ _ d d' l l'} hn hidle hrun := by
    have hflushed := (onSent_cases hn hrun).waiting_load
    rw [Link.load_idle hidle] at hflushed
    exact hflushed

end Dialogue

/-! ## The account of a poll -/

/-- How the two halves of a round ended; the second one is left out if the first one failed. -/
structure Round (φ : Type) where
  sent : Except (PollError φ) Bool
  received : Option (Except (PollError φ) Bool)

namespace Round

variable {φ : Type}

/-- Number of frames that were completed. -/
def frames (r : Round φ) : Nat :=
  match r.sent with
  | .ok true => 1
  | _ => 0

/-- Number of blocks that were received; the last block of a header that declares too much is one. -/
def blocks (r : Round φ) : Nat :=
  match r.received with
  | some (.ok true) | some (.error (.oversized _)) => 1
  | _ => 0

/-- What the round comes to: whether anything was completed. -/
def outcome (r : Round φ) : Except (PollError φ) Bool :=
  match r.sent, r.received with
  | .error error, _ => .error error
  | .ok _, some (.error error) => .error error
  | .ok sent, some (.ok received) => .ok (sent || received)
  | .ok sent, none => .ok sent

/-- What a poll of these rounds comes to: the last one fails or completes nothing, all others complete something. -/
def outcomes (rounds : List (Round φ)) : Except (PollError φ) Bool :=
  match rounds.getLast? with
  | none => .ok false
  | some last => last.outcome.map fun _ => decide (1 < rounds.length)

theorem outcomes_snoc (rounds : List (Round φ)) (last : Round φ) :
    outcomes (rounds ++ [last]) = last.outcome.map fun _ => !rounds.isEmpty := by
  have hmore : decide (1 < (rounds ++ [last]).length) = !rounds.isEmpty := by
    cases rounds with
    | nil => rfl
    | cons first rest => simp
  rw [outcomes, List.getLast?_concat, hmore]

/-- Number of frames that were completed in some rounds. -/
def framesOf (rounds : List (Round φ)) : Nat :=
  (rounds.map frames).sum

/-- Number of blocks that were received in some rounds. -/
def blocksOf (rounds : List (Round φ)) : Nat :=
  (rounds.map blocks).sum

theorem framesOf_snoc (rounds : List (Round φ)) (last : Round φ) :
    framesOf (rounds ++ [last]) = framesOf rounds + last.frames := by
  simp only [framesOf, List.map_append, List.sum_append, List.map_cons, List.map_nil, List.sum_cons,
    List.sum_nil, Nat.add_zero]

theorem blocksOf_snoc (rounds : List (Round φ)) (last : Round φ) :
    blocksOf (rounds ++ [last]) = blocksOf rounds + last.blocks := by
  simp only [blocksOf, List.map_append, List.sum_append, List.map_cons, List.map_nil, List.sum_cons,
    List.sum_nil, Nat.add_zero]

/-- A round after which a poll goes on has completed a block or a frame. -/
theorem completes {r : Round φ} (h : r.outcome = .ok true) : 1 ≤ r.blocks + r.frames := by
  obtain ⟨sent, received⟩ := r
  rcases sent with error | sent
  · cases h
  · rcases received with _ | error | received
    · cases h
      exact Nat.le_refl 1
    · cases h
    · cases sent with
      | true => exact Nat.le_add_left 1 _
      | false =>
        cases received with
        | true => exact Nat.le_refl 1
        | false => cases h

end Round

namespace Endpoint

variable {n : Nat} {δ η φ : Type} [Medium δ φ] [Handler η]

/-- A round of a poll, with its account. -/
def pollRound (e : Endpoint n δ η) : Run (Round φ × Endpoint n δ η) := do
  match ← e.pollSend with
  | (.error error, e) => pure (⟨.error error, none⟩, e)
  | (.ok sent, e) =>
    let (received, e) ← e.pollReceive
    pure (⟨.ok sent, some received⟩, e)

def roundsTurn (s : List (Round φ) × Endpoint n δ η) :
    Run (Turn (List (Round φ) × Endpoint n δ η) (List (Round φ) × Endpoint n δ η)) := do
  let (round, e) ← s.2.pollRound
  match round.outcome with
  | .ok true => pure (.again (s.1 ++ [round], e))
  | _ => pure (.done (s.1 ++ [round], e))

/-- A poll, with the account of its rounds. -/
def pollRounds (limit : Nat) (e : Endpoint n δ η) : Run (List (Round φ) × Endpoint n δ η) :=
  Run.loop roundsTurn limit ([], e)

theorem pollOnce_round (e : Endpoint n δ η) : e.pollOnce = (fun r => (r.1.outcome, r.2)) <$> e.pollRound := by
  refine Run.bind_map_same ?_
  rintro ⟨_ | sent, e₁⟩
  · rfl
  · refine Run.bind_map_same ?_
    rintro ⟨_ | received, e₂⟩ <;> rfl

/-- A turn enters its round into the account, and is the last one unless the round completed something. -/
theorem roundsTurn_cases {s : List (Round φ) × Endpoint n δ η} {e' : Endpoint n δ η} {round : Round φ}
    (h : s.2.pollRound.result = .ok (round, e')) :
    (round.outcome = .ok true ∧ (roundsTurn s).result = .ok (.again (s.1 ++ [round], e'))) ∨
      (roundsTurn s).result = .ok (.done (s.1 ++ [round], e')) := by
  simp only [roundsTurn, Run.result_bind, h, Outcomes.ok_bind]
  rcases houtcome : round.outcome with error | _ | _
  · exact .inr rfl
  · exact .inr rfl
  · exact .inl ⟨rfl, rfl⟩

theorem pollTurn_rounds (s : List (Round φ) × Endpoint n δ η) :
    pollTurn (!s.1.isEmpty, s.2) =
      Turn.map (fun s => (!s.1.isEmpty, s.2)) (fun r => (Round.outcomes r.1, r.2)) <$> roundsTurn s := by
  obtain ⟨rounds, e⟩ := s
  refine Run.bind_map_congr (pollOnce_round e) ?_
  rintro ⟨round, e₁⟩
  have hany : (!(rounds ++ [round]).isEmpty) = true := by simp
  have hlast := Round.outcomes_snoc rounds round
  rcases houtcome : round.outcome with error | _ | _
  · simp only [houtcome, map_pure, Turn.map, hlast]
    rfl
  · simp only [houtcome, map_pure, Turn.map, hlast]
    rfl
  · simp only [houtcome, map_pure, Turn.map, hany]

/-- The account changes nothing. -/
theorem poll_rounds (limit : Nat) (e : Endpoint n δ η) :
    e.poll limit = (fun r => (Round.outcomes r.1, r.2)) <$> e.pollRounds limit :=
  Run.loop_map (f := fun s : List (Round φ) × Endpoint n δ η => (!s.1.isEmpty, s.2)) pollTurn_rounds limit ([], e)

/-- The turns of a poll with an account, under watch, are those of the poll. -/
theorem turns_of_rounds {e : Endpoint n δ η} {s : List (Round φ) × Endpoint n δ (Watched η)} {count : Nat}
    (h : Run.Turns roundsTurn ([], e.watched) count s) :
    Run.Turns pollTurn (false, e) count (!s.1.isEmpty, s.2.swap Watched.handler) :=
  (h.map (f := fun s : List (Round φ) × Endpoint n δ (Watched η) => (!s.1.isEmpty, s.2)) pollTurn_rounds).map
    Forgets.watched.pollTurn

theorem round_of_roundsTurn {s : List (Round φ) × Endpoint n δ η}
    {turn : Turn (List (Round φ) × Endpoint n δ η) (List (Round φ) × Endpoint n δ η)}
    (h : (roundsTurn s).result = .ok turn) :
    ∃ round e', turn = .again (s.1 ++ [round], e') ∨ turn = .done (s.1 ++ [round], e') := by
  obtain ⟨⟨round, e'⟩, hround, _⟩ := Run.result_bind_eq_ok.mp h
  refine ⟨round, e', ?_⟩
  obtain ⟨_, hturn⟩ | hturn := roundsTurn_cases hround
  · exact .inl (Except.ok.inj (h.symm.trans hturn))
  · exact .inr (Except.ok.inj (h.symm.trans hturn))

/-- Each turn has a round in the account. -/
theorem length_of_turns {e : Endpoint n δ η} {s : List (Round φ) × Endpoint n δ η} {count : Nat}
    (h : Run.Turns roundsTurn ([], e) count s) : s.1.length = count := by
  induction h with
  | start => rfl
  | again _ hturn ih =>
    obtain ⟨round, e', hagain | hdone⟩ := round_of_roundsTurn hturn
    · cases hagain
      rw [List.length_append, ih]
      rfl
    · cases hdone

/-- A poll that ends takes the rounds of its account: with fewer it does not end, with more it takes no more. -/
theorem pollRounds_exact {e e' : Endpoint n δ η} {limit : Nat} {rounds : List (Round φ)}
    (h : (e.pollRounds limit).result = .ok (rounds, e')) (tries : Nat) :
    (e.pollRounds tries).result = if rounds.length ≤ tries then .ok (rounds, e') else .error .exhausted := by
  obtain ⟨count, s, _, hturns, hlast⟩ := Run.turns_of_loop h
  have hlength : rounds.length = count + 1 := by
    obtain ⟨round, e'', hagain | hdone⟩ := round_of_roundsTurn hlast
    · cases hagain
    · cases hdone
      rw [List.length_append, length_of_turns hturns]
      rfl
  split
  next henough => exact hturns.loop_done hlast (by omega)
  next hfew => exact hturns.loop_exhausted (by omega)

end Endpoint

/-! ## What a poll costs -/

namespace Endpoint

variable {n : Nat} {σ η : Type}

/-- The endpoint can be polled: its states are in line, and bytes of the armed block are missing. -/
structure Ready (e : Endpoint n (StreamMedium σ) η) : Prop where
  sound : e.Sound
  short : e.link.medium.received < e.armedSize

theorem Ready.waits {e : Endpoint n (StreamMedium σ) η} (hn : Header.size < n) (h : e.Ready) : e.Waits :=
  waits_of_valid hn h.sound.reception

variable [Stream σ]

/-- What something means to the handler: nothing, or it is given a message, or it is told of a frame. -/
inductive Calls [Handler η] (e e' : Endpoint n (StreamMedium σ) η) : Nat → Nat → Prop where
  | nothing : e'.handler = e.handler → e'.link.load = e.link.load → Calls e e' 0 0
  | message {m : Message} {l l' : Link n (StreamMedium σ)} :
      (Handler.onMessage e.handler m l).result = .ok (e'.handler, l') →
      l.load = e.link.load → e'.link.load = l'.load → Calls e e' 1 0
  | report {l l' : Link n (StreamMedium σ)} : (Handler.onSent e.handler l).result = .ok (e'.handler, l') →
      l.sending = none → e.link.load = 1 → e'.link.load = l'.load → Calls e e' 0 1

/-- Number of bytes that were read from the stream. -/
def drawn (e : Endpoint n (StreamMedium (Tap σ)) η) : Nat :=
  e.link.medium.stream.taken.length

/-- An endpoint that can be polled was moved on by so many blocks and frames. Every block has taken some bytes from the
stream, and a message needs a block. -/
structure Progress [Handler η] (e e' : Endpoint n (StreamMedium (Tap σ)) η) (blocks frames : Nat) : Prop where
  ready : e'.Ready
  drawn : e.drawn + blocks ≤ e'.drawn
  calls : ∃ messages, messages ≤ blocks ∧ e.Calls e' messages frames

variable {e e' : Endpoint n (StreamMedium (Tap σ)) η}

/-- Whoever uses the link leaves the reception as it is. -/
theorem Ready.used {link : Link n (StreamMedium (Tap σ))} (hn : Header.size < n) (h : e.Ready) (handler : η)
    (hused : e.link.Used link) : Ready { e with handler, link } where
  sound := h.sound.step hn (.used handler hused)
  short := by
    have hreceived := (hused.emits hn).stream.2
    exact hreceived.symm ▸ h.short

theorem ready_attach {medium : StreamMedium (Tap σ)} {handler : η}
    (hattach : (attach n medium handler).result = .ok e) :
    Header.size < n ∧ e.Ready := by
  obtain ⟨hn, hsound⟩ := sound_attach hattach
  have hpos := (waits_of_valid hn hsound.reception).pos
  obtain ⟨_, rfl⟩ := attach_ok hattach
  exact ⟨hn, hsound, hpos⟩

variable [Handler η] [UsesLink η]

/-- After a report the next block is armed, and nothing of it is there. -/
theorem ready_of_blockReceived {report : Except Oversized Unit} (hn : Header.size < n) (h : e.Sound)
    (hrun : e.blockReceived.result = .ok (report, e')) : e'.Ready := by
  have hsound := h.passes hn (blockReceived_passes hrun)
  have hpos := (waits_of_valid hn hsound.reception).pos
  have hreceived : e'.link.medium.received = 0 := by
    obtain ⟨delivered, hhands⟩ := handsOver_of_blockReceived hrun
    cases hhands with
    | nothing _ hlink => rw [hlink]; rfl
    | message _ _ hlink => rw [hlink]; rfl
  exact ⟨hsound, hreceived.symm ▸ hpos⟩

/-- A report reads nothing. -/
theorem drawn_of_blockReceived {report : Except Oversized Unit} (hn : Header.size < n)
    (hrun : e.blockReceived.result = .ok (report, e')) : e'.drawn = e.drawn := by
  have hstream : e'.link.medium.stream = e.link.medium.stream := by
    obtain ⟨delivered, hhands⟩ := handsOver_of_blockReceived hrun
    cases hhands with
    | nothing _ hlink => rw [hlink]; rfl
    | message hmessage _ hlink =>
      rw [hlink]
      exact ((UsesLink.onMessage hmessage).emits hn).stream.1
  exact congrArg (fun t : Tap σ => t.taken.length) hstream

theorem Ready.pollReceive {result : Except (PollError IoKind) Bool} (hn : Header.size < n) (h : e.Ready)
    (hrun : e.pollReceive.result = .ok (result, e')) : e.Progress e' (Round.blocks ⟨.ok false, some result⟩) 0 := by
  have hsound := h.sound.passes hn (pollReceive_passes hrun)
  have hlaw := Tap.readLaw (σ := σ) e.link.medium.stream.taken
  obtain ⟨new, stream, htaken, ⟨hopen, result', hresult, hpoll⟩ | ⟨hfull, hpoll⟩⟩ :=
    pollReceive_cases hlaw (List.append_nil _).symm (h.waits hn).room h.short
  -- the bytes that were read are the new ones, whatever is done with them
  all_goals have hdrawn : stream.taken.length = e.drawn + new.length := by rw [htaken, List.length_append]; rfl
  · cases hpoll.symm.trans hrun
    have hnone : Round.blocks ⟨.ok false, some result⟩ = 0 := by
      obtain rfl | ⟨kind, rfl⟩ := hresult <;> rfl
    rw [hnone]
    exact ⟨⟨hsound, hopen⟩, Nat.le.intro hdrawn.symm, 0, Nat.le_refl 0, .nothing rfl rfl⟩
  · rw [hpoll, Outcomes.bind_eq_ok] at hrun
    obtain ⟨⟨report, e₁⟩, hreport, hrest⟩ := hrun
    cases hrest
    have hone : Round.blocks ⟨.ok false, some (reportOf report)⟩ = 1 := by
      cases report <;> rfl
    have hmore : e.drawn + 1 ≤ e₁.drawn := by
      have hshort := h.short
      have hsame : e₁.drawn = stream.taken.length := drawn_of_blockReceived hn hreport
      omega
    have habsorbed : (e.absorb new stream).Sound := ⟨(h.sound.store hn _ _).reception, h.sound.sending⟩
    have hready := ready_of_blockReceived hn habsorbed hreport
    rw [hone]
    obtain ⟨delivered, hhands⟩ := handsOver_of_blockReceived hreport
    cases hhands with
    | nothing hhandler hlink =>
      refine ⟨hready, hmore, 0, Nat.zero_le 1, .nothing hhandler ?_⟩
      rw [hlink]
      rfl
    | message hmessage hhandler hlink =>
      subst hhandler
      refine ⟨hready, hmore, 1, Nat.le_refl 1, .message hmessage rfl ?_⟩
      rw [hlink]
      rfl

theorem Ready.pollSend {result : Except (PollError IoKind) Bool} (hn : Header.size < n) (h : e.Ready)
    (hrun : e.pollSend.result = .ok (result, e')) : e.Progress e' 0 (Round.frames ⟨result, none⟩) := by
  have hsound := h.sound.passes hn (pollSend_passes hrun)
  have hlaw := Tap.writeLaw (σ := σ) e.link.medium.stream.taken
  obtain ⟨new, stream, htaken, hsends⟩ := @sends_of_pollSend n (Tap σ) η _ _ _ hlaw e e' [] result rfl hrun
  have hdrawn : stream.taken.length = e.drawn := congrArg List.length htaken
  cases hsends with
  | idle => exact ⟨h, Nat.le_refl _, 0, Nat.le_refl 0, .nothing rfl rfl⟩
  | wait _ _ hresult =>
    have hnone : Round.frames ⟨result, none⟩ = 0 := by
      obtain rfl | ⟨kind, rfl⟩ := hresult <;> rfl
    rw [hnone]
    exact ⟨⟨hsound, h.short⟩, Nat.le_of_eq hdrawn.symm, 0, Nat.le_refl 0, .nothing rfl rfl⟩
  | @report frame r harmed _ hreport =>
    obtain ⟨hstream, hreceived⟩ := ((UsesLink.onSent hreport).emits hn).stream
    refine ⟨⟨hsound, ?_⟩, Nat.le_of_eq ?_, 0, Nat.le_refl 0, ?_⟩
    · exact hreceived.symm ▸ h.short
    · exact hdrawn.symm.trans (congrArg (fun t : Tap σ => t.taken.length) hstream.symm)
    · exact .report hreport rfl (Link.load_armed harmed) rfl

/-! ## Wherever an endpoint can get -/

/-- The endpoint gets there by what its owner does: with the endpoint, or with its handler and its link. -/
inductive Reaches {δ φ : Type} [Medium δ φ] (e : Endpoint n δ η) : Endpoint n δ η → Prop where
  | refl : Reaches e e
  | act {e₁ e₂ : Endpoint n δ η} (act : Act) : Reaches e e₁ → (act.run e₁).result = .ok e₂ → Reaches e e₂
  | deal {e₁ : Endpoint n δ η} {link : Link n δ} (handler : η) : Reaches e e₁ → e₁.link.Used link →
      Reaches e { e₁ with handler, link }

theorem Ready.drive {d : Drive} (hn : Header.size < n) (h : e.Ready) (hrun : (d.run e).result = .ok e') : e'.Ready := by
  cases d with
  | receive =>
    obtain ⟨⟨result, e₁⟩, hpoll, hrest⟩ := Run.result_bind_eq_ok.mp hrun
    cases hrest
    exact (h.pollReceive hn hpoll).ready
  | send =>
    obtain ⟨⟨result, e₁⟩, hpoll, hrest⟩ := Run.result_bind_eq_ok.mp hrun
    cases hrest
    exact (h.pollSend hn hpoll).ready
  | both rounds =>
    obtain ⟨⟨result, e₁⟩, hpoll, hrest⟩ := Run.result_bind_eq_ok.mp hrun
    cases hrest
    refine poll_keeps (fun _ e => e.Ready) ?_ ?_ [] h hpoll
    · intro _ _ _ _ h₁ hsend
      exact (h₁.pollSend hn hsend).ready
    · intro _ _ _ _ h₁ hreceive
      exact (h₁.pollReceive hn hreceive).ready
  | accept data =>
    obtain ⟨⟨result, e₁⟩, haccept, hrest⟩ := Run.result_bind_eq_ok.mp hrun
    cases hrest
    exact ready_of_blockReceived hn (h.sound.store hn 0 data) haccept
  | sent =>
    cases hsending : e.link.sending with
    | none =>
      have hsame : e.blockSent.result = .ok e := by
        unfold blockSent
        rw [hsending]
        rfl
      cases hsame.symm.trans hrun
      exact h
    | some size =>
      have harmed : e.link.armed? = some (e.link.buffer.slice 0 size) := by
        rw [Link.armed?, hsending]
        rfl
      obtain ⟨⟨handler, link⟩, hsent, hrest⟩ := Outcomes.bind_eq_ok.mp ((blockSent_result harmed).symm.trans hrun)
      cases hrest
      have hfree : Ready { e with link.sending := none } := ⟨h.sound.step hn (.sent hsending), h.short⟩
      exact hfree.used hn handler (UsesLink.onSent hsent)
  | abandon =>
    cases hrun
    refine ⟨h.sound.step hn .abandons, ?_⟩
    have hreceived : e.link.abandon.value.medium.received = e.link.medium.received := by
      cases hsending : e.link.sending with
      | none => rw [Link.abandon_value_idle hsending]
      | some size =>
        rw [Link.abandon_value_busy hsending]
        exact (Medium.Emits.cancelSend .refl).stream.2
    exact hreceived.symm ▸ h.short

theorem Ready.act {act : Act} (hn : Header.size < n) (h : e.Ready) (hrun : (act.run e).result = .ok e') : e'.Ready := by
  cases act with
  | store offset data =>
    cases hrun
    exact ⟨h.sound.store hn offset data, h.short⟩
  | dump =>
    cases hrun
    exact ⟨h.sound.step hn .dump, h.short⟩
  | use u =>
    cases u with
    | drive d => exact h.drive hn hrun
    | start s =>
      obtain ⟨⟨accepted, link⟩, hstart, hrest⟩ := Run.result_bind_eq_ok.mp hrun
      cases hrest
      exact h.used hn e.handler (.start hstart)
    | write data =>
      obtain ⟨hidle, hrest⟩ := Link.idle_of_requireIdle hrun
      cases hrest
      exact h.used hn e.handler (Link.Used.refl.writePayload data hidle)

theorem Ready.reaches (hn : Header.size < n) (h : e.Ready) (hreaches : e.Reaches e') : e'.Ready := by
  induction hreaches with
  | refl => exact h
  | act act _ hrun ih => exact ih.act hn hrun
  | deal handler _ hused ih => exact ih.used hn handler hused

end Endpoint

/-! ## Rounds add up -/

/-- Number of messages that the handler was given. -/
def Watched.heard {η : Type} (w : Watched η) : Nat :=
  w.log.countP fun o => o.message.isSome

namespace Endpoint

variable {n : Nat} {σ η : Type} [Stream σ] [Handler η] [Restrained η]

/-- Frames that the endpoint will complete without another message: the one on the link, and the one that waits. -/
def due {δ : Type} (e : Endpoint n δ (Watched η)) : Nat :=
  Restrained.owed e.handler.handler + e.link.load

theorem due_le {δ : Type} (e : Endpoint n δ (Watched η)) : e.due ≤ 2 :=
  Nat.add_le_add (Restrained.owed_le _) e.link.load_le

variable {e e₁ e' : Endpoint n (StreamMedium (Tap σ)) (Watched η)} {limit : Nat}

/-- A frame is one less that is due, and a message is one more at most. -/
theorem Calls.due {messages frames : Nat} (hn : Header.size < n) (h : e.Calls e' messages frames) :
    e'.due + frames ≤ e.due + messages ∧ e'.handler.heard = e.handler.heard + messages := by
  cases h with
  | nothing hhandler hload =>
    rw [Endpoint.due, Endpoint.due, hhandler, hload]
    exact ⟨Nat.le_refl _, rfl⟩
  | message hmessage hbefore hafter =>
    obtain ⟨hinner, hlog⟩ := Watched.onMessage_ok hmessage
    have hless := Restrained.message hn hinner
    rw [hbefore, ← hafter] at hless
    refine ⟨hless, ?_⟩
    rw [Watched.heard, hlog, List.countP_append]
    rfl
  | report hreport hidle hbefore hafter =>
    obtain ⟨hinner, hlog⟩ := Watched.onSent_ok hreport
    have hless := Restrained.report hn hidle hinner
    rw [← hafter] at hless
    refine ⟨?_, ?_⟩
    · rw [Endpoint.due, Endpoint.due, hbefore]
      exact Nat.succ_le_succ hless
    · rw [Watched.heard, hlog, List.countP_append]
      rfl

/-- So many blocks and frames were completed on the way from the first endpoint to the second one. -/
structure Spends (e e' : Endpoint n (StreamMedium (Tap σ)) (Watched η)) (blocks frames : Nat) : Prop where
  ready : e'.Ready
  drawn : e.drawn + blocks ≤ e'.drawn
  due : e'.due + frames + e.handler.heard ≤ e.due + e'.handler.heard
  heard : e'.handler.heard ≤ e.handler.heard + blocks

omit [Stream σ] in
theorem Spends.refl (h : e.Ready) : Spends e e 0 0 :=
  ⟨h, Nat.le_refl _, Nat.le_refl _, Nat.le_refl _⟩

theorem Spends.progress {blocks frames blocks₁ frames₁ : Nat} (hn : Header.size < n) (h : Spends e e₁ blocks frames)
    (hprogress : e₁.Progress e' blocks₁ frames₁) : Spends e e' (blocks + blocks₁) (frames + frames₁) := by
  obtain ⟨messages, hmessages, hcalls⟩ := hprogress.calls
  obtain ⟨hdue, hheard⟩ := hcalls.due hn
  have hdrawn := hprogress.drawn
  have hdrawn_before := h.drawn
  have hdue_before := h.due
  have hheard_before := h.heard
  refine ⟨hprogress.ready, ?_, ?_, ?_⟩ <;> omega

omit [Stream σ] in
/-- A frame is completed for each message, and for each of the two that may be due. -/
theorem Spends.frames_le {blocks frames : Nat} (h : Spends e e' blocks frames) :
    frames + e.handler.heard ≤ e'.handler.heard + 2 := by
  have hdue := h.due
  have hle := e.due_le
  omega

omit [Stream σ] in
/-- Blocks and frames together are bounded by the bytes that were read. -/
theorem Spends.total_le {blocks frames : Nat} (h : Spends e e' blocks frames) (hlimit : e'.drawn ≤ e.drawn + limit) :
    blocks + frames ≤ 2 * limit + 2 := by
  have hframes := h.frames_le
  have hheard := h.heard
  have hdrawn := h.drawn
  omega

variable [UsesLink η]

theorem Spends.round {blocks frames : Nat} (hn : Header.size < n) (h : Spends e e₁ blocks frames) :
    ∃ round e', e₁.pollRound.result = .ok (round, e') ∧
      Spends e e' (blocks + round.blocks) (frames + round.frames) := by
  have hreturns : HandlerReturns (Watched η) := Watched.returns Restrained.returns
  obtain ⟨⟨sent, e₂⟩, hsent⟩ := pollSend_returns hreturns hn e₁
  have hsends := h.progress hn (h.ready.pollSend hn hsent)
  cases sent with
  | error error =>
    refine ⟨⟨.error error, none⟩, e₂, ?_, hsends⟩
    simp only [pollRound, Run.result_bind, hsent, Outcomes.ok_bind, Run.result_pure]
  | ok sent =>
    obtain ⟨⟨received, e₃⟩, hreceived⟩ := pollReceive_returns hreturns hn e₂
    have hreceives := hsends.progress hn (hsends.ready.pollReceive hn hreceived)
    refine ⟨⟨.ok sent, some received⟩, e₃, ?_, hreceives⟩
    simp only [pollRound, Run.result_bind, hsent, Outcomes.ok_bind, hreceived, Run.result_pure]

/-- What the account of a poll says: every round but the last one has completed something. -/
structure Balance (e : Endpoint n (StreamMedium (Tap σ)) (Watched η)) (rounds : List (Round IoKind))
    (e' : Endpoint n (StreamMedium (Tap σ)) (Watched η)) : Prop where
  spends : Spends e e' (Round.blocksOf rounds) (Round.framesOf rounds)
  length_le : rounds.length ≤ Round.blocksOf rounds + Round.framesOf rounds + 1

/-- A poll that reads so many bytes at most ends, with an account that is in order. -/
theorem pollRounds_ends (hn : Header.size < n) (h : e.Ready)
    (hdraws : ∀ {count s}, Run.Turns roundsTurn ([], e) count s → s.2.drawn ≤ e.drawn + limit) :
    ∃ r, (e.pollRounds (2 * limit + 3)).result = .ok r ∧ Balance e r.1 r.2 := by
  have hstart : Spends e e (Round.blocksOf ([] : List (Round IoKind))) (Round.framesOf ([] : List (Round IoKind))) :=
    .refl h
  -- the turns so far are part of the invariant, because only along them the bytes are bounded
  refine Run.loop_total
    (fun s : List (Round IoKind) × Endpoint n (StreamMedium (Tap σ)) (Watched η) =>
      (∃ count, Run.Turns roundsTurn ([], e) count s) ∧ Spends e s.2 (Round.blocksOf s.1) (Round.framesOf s.1) ∧
        s.1.length ≤ Round.blocksOf s.1 + Round.framesOf s.1)
    (fun r : List (Round IoKind) × Endpoint n (StreamMedium (Tap σ)) (Watched η) => Balance e r.1 r.2)
    (fun s => 2 * limit + 2 - (Round.blocksOf s.1 + Round.framesOf s.1)) ?_ (s := ([], e))
    ⟨⟨0, .start⟩, hstart, Nat.le_refl 0⟩ ?_
  · rintro ⟨rounds, e₁⟩ ⟨⟨count, hturns⟩, hspends, hlength⟩
    obtain ⟨round, e', hround, hspends'⟩ := hspends.round hn
    have hblocks := Round.blocksOf_snoc rounds round
    have hframes := Round.framesOf_snoc rounds round
    have hsnoc : (rounds ++ [round]).length = rounds.length + 1 := List.length_append
    rw [← hblocks, ← hframes] at hspends'
    obtain ⟨houtcome, hturn⟩ | hturn := roundsTurn_cases (s := (rounds, e₁)) hround
    · have hcompletes := Round.completes houtcome
      have htotal := hspends'.total_le (hdraws (hturns.again hturn))
      refine .inl ⟨_, hturn, ⟨⟨_, hturns.again hturn⟩, hspends', ?_⟩, ?_⟩ <;> dsimp only at hlength ⊢ <;> omega
    · refine .inr ⟨_, hturn, hspends', ?_⟩
      dsimp only at hlength ⊢
      omega
  · exact Nat.lt_succ_of_le (Nat.sub_le _ _)

end Endpoint

/-! ## Bytes on the way -/

namespace Endpoint

variable {n : Nat} {σ η : Type} [Stream σ] [Handler η] {e e₁ e' : Endpoint n (StreamMedium (Tap σ)) η}

/-- A poll of the endpoint reads so many bytes at most, however long it goes on. What there is to read may depend on
what was written meanwhile. -/
def Draws (e : Endpoint n (StreamMedium (Tap σ)) η) (limit : Nat) : Prop :=
  ∀ {count : Nat} {any : Bool} {e' : Endpoint n (StreamMedium (Tap σ)) η},
    Run.Turns pollTurn (false, e) count (any, e') → e'.drawn ≤ e.drawn + limit

/-- The second endpoint can be polled, and what was read from the first one stays read. -/
structure Onward (e e' : Endpoint n (StreamMedium (Tap σ)) η) : Prop where
  ready : e'.Ready
  drawn : e.drawn ≤ e'.drawn

namespace Onward

omit [Stream σ] [Handler η] in
theorem refl (h : e.Ready) : e.Onward e :=
  ⟨h, Nat.le_refl _⟩

theorem progress {blocks frames : Nat} (h : e.Onward e₁) (hprogress : e₁.Progress e' blocks frames) : e.Onward e' :=
  ⟨hprogress.ready, Nat.le_trans h.drawn (Nat.le_of_add_right_le hprogress.drawn)⟩

variable [UsesLink η] {s s' : Bool × Endpoint n (StreamMedium (Tap σ)) η}
  {r : Except (PollError IoKind) Bool × Endpoint n (StreamMedium (Tap σ)) η}

theorem pollSend {result : Except (PollError IoKind) Bool} (hn : Header.size < n) (h : e.Onward e₁)
    (hrun : e₁.pollSend.result = .ok (result, e')) : e.Onward e' :=
  h.progress (h.ready.pollSend hn hrun)

theorem pollReceive {result : Except (PollError IoKind) Bool} (hn : Header.size < n) (h : e.Onward e₁)
    (hrun : e₁.pollReceive.result = .ok (result, e')) : e.Onward e' :=
  h.progress (h.ready.pollReceive hn hrun)

theorem again (hn : Header.size < n) (h : e.Onward s.2) (hturn : (pollTurn s).result = .ok (.again s')) :
    e.Onward s'.2 :=
  pollTurn_again_keeps (fun _ => e.Onward) (fun _ _ _ _ h => h.pollSend hn) (fun _ _ _ _ h => h.pollReceive hn)
    [] h hturn

theorem done (hn : Header.size < n) (h : e.Onward s.2) (hturn : (pollTurn s).result = .ok (.done r)) :
    e.Onward r.2 :=
  pollTurn_done_keeps (fun _ => e.Onward) (fun _ _ _ _ h => h.pollSend hn) (fun _ _ _ _ h => h.pollReceive hn)
    [] h hturn

end Onward

/-- A poll that ends has read so many bytes. -/
theorem Ready.draws [UsesLink η] {tries : Nat} {result : Except (PollError IoKind) Bool} (hn : Header.size < n)
    (h : e.Ready) (hrun : (e.poll tries).result = .ok (result, e')) : e.Draws (e'.drawn - e.drawn) := by
  intro count any e₁ hturns
  have hless : count < tries := by
    by_contra hmore
    cases (hturns.loop_exhausted (Nat.le_of_not_lt hmore)).symm.trans hrun
  obtain ⟨rest, rfl⟩ := Nat.exists_eq_add_of_lt hless
  -- the poll goes on from here to its end
  have hrest : (Run.loop pollTurn (rest + 1) (any, e₁)).result = .ok (result, e') := by
    rw [← hturns.loop_result]
    exact hrun
  have hhere : e₁.Ready :=
    (hturns.keeps (fun s => e.Onward s.2) (fun _ _ hs hturn => hs.again hn hturn) (.refl h)).ready
  have hlast : e₁.Onward e' :=
    Run.loop_induction (fun s => e₁.Onward s.2) (fun r => e₁.Onward r.2) (fun _ _ hs hturn => hs.again hn hturn)
      (fun _ _ hs hturn => hs.done hn hturn) (.refl hhere) hrest
  have hdrawn := hlast.drawn
  omega

end Endpoint

/-- However an endpoint with such a handler came where it is, a poll of it ends if and only if the bytes that it reads
are bounded. It takes the rounds of its account, whatever number of rounds it is allowed, if that is enough; the frames
that it completes are at most two more than the messages that it delivers, and its rounds are at most one more than the
blocks and frames together. -/
def PollsEnd (η : Type) [Handler η] : Prop :=
  ∀ {n : Nat} {σ : Type} [Stream σ] {medium : StreamMedium (Tap σ)} {handler : η}
    {e₀ e : Endpoint n (StreamMedium (Tap σ)) η}, (Endpoint.attach n medium handler).result = .ok e₀ → e₀.Reaches e →
    (∀ tries, e.poll tries = (fun r => (Round.outcomes r.1, r.2.swap Watched.handler)) <$> e.watched.pollRounds tries) ∧
      ((∃ tries r, (e.poll tries).result = .ok r) ↔ ∃ limit, e.Draws limit) ∧
      ∀ {limit : Nat}, e.Draws limit →
        ∃ rounds e', (∀ tries, (e.watched.pollRounds tries).result =
            if rounds.length ≤ tries then .ok (rounds, e') else .error .exhausted) ∧
          Round.framesOf rounds ≤ e'.handler.heard + 2 ∧
          rounds.length ≤ Round.blocksOf rounds + Round.framesOf rounds + 1 ∧
          e.drawn + Round.blocksOf rounds ≤ e'.drawn ∧
          rounds.length ≤ 2 * limit + 3

theorem Restrained.pollsEnd {η : Type} [Handler η] [UsesLink η] [Restrained η] : PollsEnd η := by
  intro n σ _ medium handler e₀ e hattach hreaches
  obtain ⟨hn, hstart⟩ := Endpoint.ready_attach hattach
  have hready := hstart.reaches hn hreaches
  have hwatched : e.watched.Ready := ⟨⟨hready.sound.reception, hready.sound.sending⟩, hready.short⟩
  have hsame : ∀ tries, e.poll tries =
      (fun r => (Round.outcomes r.1, r.2.swap Watched.handler)) <$> e.watched.pollRounds tries := by
    intro tries
    have hforget := Forgets.watched.poll tries e.watched
    rw [Endpoint.poll_rounds tries e.watched, ← comp_map] at hforget
    exact hforget
  have hends : ∀ {limit : Nat}, e.Draws limit →
      ∃ r, (e.watched.pollRounds (2 * limit + 3)).result = .ok r ∧ Endpoint.Balance e.watched r.1 r.2 := by
    intro limit hdraws
    exact Endpoint.pollRounds_ends hn hwatched fun hturns => hdraws (Endpoint.turns_of_rounds hturns)
  refine ⟨hsame, ⟨?_, ?_⟩, ?_⟩
  · rintro ⟨tries, ⟨result, e'⟩, hrun⟩
    exact ⟨_, hready.draws hn hrun⟩
  · rintro ⟨limit, hdraws⟩
    obtain ⟨r, hrun, _⟩ := hends hdraws
    refine ⟨2 * limit + 3, (Round.outcomes r.1, r.2.swap Watched.handler), ?_⟩
    rw [hsame, map_eq_pure_bind, Run.result_bind, hrun]
    rfl
  · intro limit hdraws
    obtain ⟨⟨rounds, e'⟩, hrun, hbalance⟩ := hends hdraws
    have hexact := Endpoint.pollRounds_exact hrun
    refine ⟨rounds, e', hexact, hbalance.spends.frames_le, hbalance.length_le, hbalance.spends.drawn, ?_⟩
    by_contra hmore
    rw [hexact, if_neg hmore] at hrun
    cases hrun

/-- A poll of a bridge ends, and so does one of a host that waits for responses or leads a conversation, whatever the
services and the conversation do. -/
theorem polls_end {κ γ : Type} [Service κ] [Conversation γ] :
    PollsEnd (Router κ) ∧ PollsEnd ResponseSlot ∧ PollsEnd (Dialogue γ) :=
  ⟨Restrained.pollsEnd, Restrained.pollsEnd, Restrained.pollsEnd⟩

/-- A line with nothing to read at first. Each of the first two requests makes a response available: one of one byte,
with a pause in its header, and one without payload. -/
def Bench.replyingLine : StreamMedium (Tap Script) :=
  ⟨⟨{ onFlush := [[.bytes [1, 2], .fail .wouldBlock, .bytes [3, 0, 1, 9]], [.bytes [1, 2, 3, 0, 0]]] }, []⟩, 0, 0⟩

/-- The conversation has one more request for each of the two responses. -/
def Bench.Talk.asking : Dialogue Talk :=
  ⟨⟨[some ⟨4, 0, 0, []⟩, some ⟨5, 0, 0, []⟩]⟩, none, false⟩

/-- The owner's request is on the link, and what there is to read depends on what is written. The poll goes on after the
pause, because that round completed the first request. -/
theorem polls_end_talk : ∃ e₀ e : Endpoint 16 (StreamMedium (Tap Bench.Script)) (Dialogue Bench.Talk),
    (Endpoint.attach 16 Bench.replyingLine Bench.Talk.asking).result = .ok e₀ ∧ e₀.Reaches e ∧ e.Draws 11 ∧
      ∃ rounds e', (∀ tries, (e.watched.pollRounds tries).result =
          if rounds.length ≤ tries then .ok (rounds, e') else .error .exhausted) ∧
        Round.framesOf rounds ≤ e'.handler.heard + 2 ∧
        rounds.length ≤ Round.blocksOf rounds + Round.framesOf rounds + 1 ∧
        (rounds.length, Round.framesOf rounds, Round.blocksOf rounds, e'.handler.heard) = (6, 3, 3, 2) := by
  obtain ⟨e₀, hattach⟩ : ∃ e₀, (Endpoint.attach 16 Bench.replyingLine Bench.Talk.asking).result = .ok e₀ := ⟨_, rfl⟩
  obtain ⟨e, hstart⟩ : ∃ e, ((Endpoint.Act.use (.start (.message ⟨7, 1, 0, [9]⟩))).run e₀).result = .ok e := by
    cases hattach
    exact ⟨_, rfl⟩
  have hreaches : e₀.Reaches e := .act _ .refl hstart
  have hready := (Endpoint.ready_attach hattach).2.reaches (by decide) hreaches
  have hread : (e.poll 6).result.toOption.map (fun r => r.2.drawn - e.drawn) = some 11 := by
    cases hattach
    cases hstart
    cbv
  have hdraws : e.Draws 11 := by
    rcases hrun : (e.poll 6).result with fault | ⟨result, e'⟩
    · rw [hrun] at hread
      cases hread
    · rw [hrun] at hread
      exact Option.some.inj hread ▸ hready.draws (by decide) hrun
  have hcounts : (e.watched.pollRounds 6).result.toOption.map
      (fun r => (r.1.length, Round.framesOf r.1, Round.blocksOf r.1, r.2.handler.heard)) = some (6, 3, 3, 2) := by
    cases hattach
    cases hstart
    cbv
  obtain ⟨_, _, hends⟩ := (@polls_end Bench.Device Bench.Talk _ _).2.2 hattach hreaches
  obtain ⟨rounds, e', hexact, hframes, hlength, _⟩ := hends hdraws
  refine ⟨e₀, e, hattach, hreaches, hdraws, rounds, e', hexact, hframes, hlength, ?_⟩
  rw [hexact] at hcounts
  split at hcounts
  · exact Option.some.inj hcounts
  · cases hcounts

end BusBridge
