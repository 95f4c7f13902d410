import BusBridge.Proofs.Calls
/-!
# Why a call fails

A call polls its endpoint while it settles and while it waits for its response. `Demand.PollsAt` are the endpoints that
it polls, and the call fails with the first failure of the medium that it meets there (`Demand.Fails`). What that
failure is to a call depends on the medium, and may be any error.

Otherwise a call fails because its time is over, or because its message was refused after it had settled. There is no
other cause (`Demand.run_error`), and a failure of the medium is always one (`Demand.Fails.run`).
-/

namespace BusBridge

namespace Caller

variable {n : Nat} {δ η φ : Type} [KeepsSlot η] [Medium δ φ] [CallFailure φ] [Handler η] {c c' : Caller n δ η}
    {rounds : Nat}

/-! ## Last turns -/

omit [KeepsSlot η] in
theorem settleTurn_error {late : Nat → Bool} {s : Nat × Caller n δ η} {error : CallError}
    (h : (settleTurn rounds late s).result = .ok (.done (.error error, c'))) :
    error = .timeout ∨ Breaks rounds s.2.endpoint error := by
  obtain ⟨⟨stepped, c₁⟩, hstep, hrest⟩ := Run.result_bind_eq_ok.mp h
  cases stepped with
  | error e =>
    cases hrest
    exact .inr ((step_poll hstep).2 _ rfl)
  | ok progress =>
    simp only at hrest
    split at hrest
    · cases hrest
    · split at hrest <;> cases hrest
      exact .inl rfl

omit [KeepsSlot η] in
theorem settleCoopTurn_error {cut : Nat → Bool} {s : Nat × Caller n δ η} {pauses : Nat} {error : CallError}
    (h : (settleCoopTurn rounds cut s).result = .ok (.done (.error error, pauses, c'))) :
    error = .timeout ∨ Breaks rounds s.2.endpoint error := by
  obtain ⟨⟨stepped, c₁⟩, hstep, hrest⟩ := Run.result_bind_eq_ok.mp h
  rcases stepped with e | _ | _
  · cases hrest
    exact .inr ((step_poll hstep).2 _ rfl)
  · simp only at hrest
    split at hrest
    · cases hrest
    · split at hrest <;> cases hrest
      exact .inl rfl
  · cases hrest

theorem awaitTurn_error {late : Nat → Bool} {s : Nat × Caller n δ η} {error : CallError}
    (h : (awaitTurn rounds late s).result = .ok (.done (.error error, c'))) :
    error = .timeout ∨ Breaks rounds s.2.endpoint error := by
  obtain ⟨⟨stepped, c₁⟩, hstep, hrest⟩ := Run.result_bind_eq_ok.mp h
  cases stepped with
  | error e =>
    cases hrest
    exact .inr ((step_poll hstep).2 _ rfl)
  | ok progress =>
    simp only at hrest
    cases htake : c₁.slot.take.1 with
    | some m =>
      rw [htake] at hrest
      cases hrest
    | none =>
      simp only [htake] at hrest
      split at hrest <;> cases hrest
      exact .inl rfl

theorem awaitCoopTurn_error {cut : Nat → Bool} {s : Nat × Caller n δ η} {pauses : Nat} {error : CallError}
    (h : (awaitCoopTurn rounds cut s).result = .ok (.done (.error error, pauses, c'))) :
    error = .timeout ∨ Breaks rounds s.2.endpoint error := by
  obtain ⟨⟨stepped, c₁⟩, hstep, hrest⟩ := Run.result_bind_eq_ok.mp h
  cases stepped with
  | error e =>
    cases hrest
    exact .inr ((step_poll hstep).2 _ rfl)
  | ok progress =>
    simp only at hrest
    cases htake : c₁.slot.take.1 with
    | some m =>
      rw [htake] at hrest
      cases hrest
    | none =>
      simp only [htake] at hrest
      split at hrest
      · cases hrest
      · split at hrest <;> cases hrest
        exact .inl rfl

namespace Demand

variable {d : Demand}

/-! ## The phases of a call -/

/-- While a call settles, so many polls led from one caller to another, and none of them ended the settling. The numbers
are those of the looks or the pauses before. -/
def Settles (rounds : Nat) (timeout : Duration) (s : Nat × Caller n δ η) (count : Nat) (s' : Nat × Caller n δ η) :
    Demand → Prop
  | blocking clock _ => Run.Turns (settleTurn rounds (clock.late timeout)) s count s'
  | cooperative cut _ _ => Run.Turns (settleCoopTurn rounds cut) s count s'

/-- While a call waits, so many polls led from one caller to another, and none of them ended the wait. -/
def Waits (rounds : Nat) (timeout : Duration) (s : Nat × Caller n δ η) (count : Nat) (s' : Nat × Caller n δ η) :
    Demand → Prop
  | blocking clock _ => Run.Turns (awaitTurn rounds (clock.late timeout)) s count s'
  | cooperative cut _ _ => Run.Turns (awaitCoopTurn rounds cut) s count s'

/-- The wait of a call for its response, after so many looks or pauses. -/
def wait (rounds : Nat) (timeout : Duration) (s : Nat × Caller n δ η) :
    Demand → Run (Except CallError Message × Caller n δ η)
  | blocking clock _ => s.2.await rounds (clock.late timeout) s.1
  | cooperative cut _ _ => do
    let (result, _, c) ← Run.loop (awaitCoopTurn rounds cut) rounds s
    pure (result, c.conclude result)

/-- A call that has begun comes to what its wait does. -/
theorem run_begun {looks : Nat} {begun : Caller n δ η} {p : Except CallError Message × Caller n δ η}
    (htells : d.Tells c.settings.timeout) (hbegin : (d.begin rounds c).result = .ok (.ok looks, begun)) :
    (d.run rounds c).result = .ok p ↔ (d.wait rounds c.settings.timeout (looks, begun)).result = .ok p := by
  obtain ⟨settled, hsettle, hstart⟩ := begin_ok hbegin
  cases d with
  | blocking clock ask =>
    have hsettled : (c.settle rounds (clock.late c.settings.timeout)).result = .ok (.ok looks, settled) := hsettle
    have hstarted : (ask.start settled).result = .ok (.ok (), begun) := hstart
    rw [run, Ask.run_eq, Clock.within_tells htells, exchange, Run.result_bind, hsettled, Outcomes.ok_bind,
      Run.result_bind, hstarted, Outcomes.ok_bind]
    rfl
  | cooperative cut channel r =>
    obtain ⟨⟨_ | _, pauses, c₁⟩, hsettled, hpaused⟩ := Run.result_bind_eq_ok.mp hsettle
    · cases hpaused
    · cases hpaused
      have hexchange : (c.exchangeCoop rounds cut channel r).result =
          (Run.loop (awaitCoopTurn rounds cut) rounds (pauses, begun)).result := by
        rw [exchangeCoop, Run.result_bind, hsettled, Outcomes.ok_bind, Run.result_bind]
        exact congrArg (· >>= _) hstart
      simp only [run, wait, callCoop, Run.result_bind, hexchange]
      cases (Run.loop (awaitCoopTurn rounds cut) rounds (pauses, begun)).result with
      | error fault => exact Iff.rfl
      | ok q =>
        obtain ⟨_ | _, _, _⟩ := q <;> exact Iff.rfl

/-- A call that has not begun fails as its beginning did. -/
theorem run_unbegun {error : CallError} {c₁ : Caller n δ η} (htells : d.Tells c.settings.timeout)
    (hbegin : (d.begin rounds c).result = .ok (.error error, c₁)) :
    ∃ c', (d.run rounds c).result = .ok (.error error, c') := by
  cases d with
  | blocking clock ask =>
    refine ⟨c₁, ?_⟩
    rw [run, Ask.run_eq, Clock.within_tells htells]
    obtain hsettle | ⟨looks, settled, hsettle, hstart⟩ := begin_error hbegin
    · exact Run.result_bind_eq_ok.mpr ⟨_, hsettle, rfl⟩
    · exact Run.result_bind_eq_ok.mpr ⟨_, hsettle, Run.result_bind_eq_ok.mpr ⟨_, hstart, rfl⟩⟩
  | cooperative cut channel r =>
    have hexchange : ∃ pauses, (c.exchangeCoop rounds cut channel r).result = .ok (.error error, pauses, c₁) := by
      obtain hsettle | ⟨looks, settled, hsettle, hstart⟩ := begin_error hbegin
      · obtain ⟨⟨_ | _, pauses, c₂⟩, hsettled, hpaused⟩ := Run.result_bind_eq_ok.mp hsettle
        · cases hpaused
          exact ⟨pauses, Run.result_bind_eq_ok.mpr ⟨_, hsettled, rfl⟩⟩
        · cases hpaused
      · obtain ⟨⟨_ | _, pauses, c₂⟩, hsettled, hpaused⟩ := Run.result_bind_eq_ok.mp hsettle
        · cases hpaused
        · cases hpaused
          exact ⟨pauses, Run.result_bind_eq_ok.mpr ⟨_, hsettled, Run.result_bind_eq_ok.mpr ⟨_, hstart, rfl⟩⟩⟩
    obtain ⟨pauses, hexchange⟩ := hexchange
    exact ⟨c₁.reset, Run.result_bind_eq_ok.mpr ⟨_, Run.result_bind_eq_ok.mpr ⟨_, hexchange, rfl⟩, rfl⟩⟩

/-! ## Failures of the medium -/

/-- The call polls this endpoint: while it settles, or while it waits for its response. -/
inductive PollsAt (rounds : Nat) (c : Caller n δ η) (d : Demand) : Endpoint n δ η → Prop where
  | settling {count : Nat} {s : Nat × Caller n δ η} : d.Settles rounds c.settings.timeout (0, c.reset) count s →
      count < rounds → PollsAt rounds c d s.2.endpoint
  | waiting {looks count : Nat} {begun : Caller n δ η} {s : Nat × Caller n δ η} :
      (d.begin rounds c).result = .ok (.ok looks, begun) → d.Waits rounds c.settings.timeout (looks, begun) count s →
      count < rounds → PollsAt rounds c d s.2.endpoint

/-- The medium fails in a poll of the call, in a way that is the given error to it. -/
def Fails (rounds : Nat) (c : Caller n δ η) (d : Demand) (error : CallError) : Prop :=
  ∃ e, d.PollsAt rounds c e ∧ Breaks rounds e error

/-- Settling fails because time is over, or as the medium does. -/
theorem settle_error {error : CallError} (h : (d.settle rounds c).result = .ok (.error error, c')) :
    error = .timeout ∨ d.Fails rounds c error := by
  cases d with
  | blocking clock ask =>
    obtain ⟨count, s, hcount, hturns, hdone⟩ := Run.turns_of_loop h
    exact (settleTurn_error hdone).imp_right fun hbreaks => ⟨_, .settling hturns hcount, hbreaks⟩
  | cooperative cut channel r =>
    obtain ⟨⟨_ | _, pauses, c₁⟩, hloop, hrest⟩ := Run.result_bind_eq_ok.mp h
    · cases hrest
      obtain ⟨count, s, hcount, hturns, hdone⟩ := Run.turns_of_loop hloop
      exact (settleCoopTurn_error hdone).imp_right fun hbreaks => ⟨_, .settling hturns hcount, hbreaks⟩
    · cases hrest

/-- A wait fails because time is over, or as the medium does. -/
theorem wait_error {looks : Nat} {begun : Caller n δ η} {error : CallError}
    (hbegin : (d.begin rounds c).result = .ok (.ok looks, begun))
    (h : (d.wait rounds c.settings.timeout (looks, begun)).result = .ok (.error error, c')) :
    error = .timeout ∨ d.Fails rounds c error := by
  cases d with
  | blocking clock ask =>
    obtain ⟨count, s, hcount, hturns, hdone⟩ := Run.turns_of_loop h
    exact (awaitTurn_error hdone).imp_right fun hbreaks => ⟨_, .waiting hbegin hturns hcount, hbreaks⟩
  | cooperative cut channel r =>
    obtain ⟨⟨_ | _, pauses, c₁⟩, hloop, hrest⟩ := Run.result_bind_eq_ok.mp h
    · cases hrest
      obtain ⟨count, s, hcount, hturns, hdone⟩ := Run.turns_of_loop hloop
      exact (awaitCoopTurn_error hdone).imp_right fun hbreaks => ⟨_, .waiting hbegin hturns hcount, hbreaks⟩
    · cases hrest

/-- A call fails because its time is over, because the medium fails, or because it settles and its message is refused
then. -/
theorem run_error {error : CallError} (h : (d.run rounds c).result = .ok (.error error, c')) :
    error = .timeout ∨ d.Fails rounds c error ∨ ∃ count settled refused,
      (d.settle rounds c).result = .ok (.ok count, settled) ∧
        (d.ask.start settled).result = .ok (.error error, refused) := by
  cases run_met h with
  | @failed error' c₁ hbegin hresult _ =>
    cases hresult
    obtain hsettle | ⟨count, settled, hsettle, hstart⟩ := begin_error hbegin
    · exact (settle_error hsettle).imp_right .inl
    · exact .inr (.inr ⟨count, settled, c₁, hsettle, hstart⟩)
  | ended hbegin _ _ => exact (wait_error hbegin ((run_begun (run_tells h) hbegin).mp h)).imp_right .inl

/-- A call fails as its medium does. -/
theorem Fails.run {error : CallError} (h : d.Fails rounds c error) (htells : d.Tells c.settings.timeout) :
    ∃ c', (d.run rounds c).result = .ok (.error error, c') := by
  obtain ⟨e, hpolls, hbreaks⟩ := h
  cases hpolls with
  | settling hturns hcount =>
    obtain ⟨c₁, hstep⟩ := hbreaks.step
    have hsettle : (d.settle rounds c).result = .ok (.error error, c₁) := by
      cases d with
      | blocking clock ask => exact hturns.loop_done (Run.result_bind_eq_ok.mpr ⟨_, hstep, rfl⟩) hcount
      | cooperative cut channel r =>
        exact Run.result_bind_eq_ok.mpr ⟨_, hturns.loop_done (Run.result_bind_eq_ok.mpr ⟨_, hstep, rfl⟩) hcount, rfl⟩
    exact run_unbegun htells (begin_unsettled hsettle)
  | waiting hbegin hturns hcount =>
    obtain ⟨c₁, hstep⟩ := hbreaks.step
    refine ⟨c₁.reset, (run_begun htells hbegin).mpr ?_⟩
    cases d with
    | blocking clock ask => exact hturns.loop_done (Run.result_bind_eq_ok.mpr ⟨_, hstep, rfl⟩) hcount
    | cooperative cut channel r =>
      exact Run.result_bind_eq_ok.mpr ⟨_, hturns.loop_done (Run.result_bind_eq_ok.mpr ⟨_, hstep, rfl⟩) hcount, rfl⟩

end Demand

end Caller

end BusBridge
