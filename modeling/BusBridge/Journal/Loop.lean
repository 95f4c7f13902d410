import BusBridge.Journal.Run
/-!
# Loops

Work that goes on turn after turn until one of its turns is the last. Nothing bounds such work in
general, a line may stay silent for ever, so a loop is given a limit and stops with a fault when the
limit is reached. `Run.loop_succ` unrolls one turn; the events of the turns follow each other.
-/

namespace BusBridge

/-- What a turn of a loop decides. -/
inductive Turn (σ α : Type) where
  | again (s : σ)
  | done (a : α)

namespace Run

variable {σ α : Type}

/-- At most `limit` turns, after events that are given with the last one first. -/
def loopFrom (body : σ → Run (Turn σ α)) (before : List Event) : Nat → σ → Run α
  | 0, _ => ⟨before.reverse, .error .exhausted⟩
  | limit + 1, s =>
    let turn := body s
    match turn.result with
    | .error f => ⟨(turn.events.reverse ++ before).reverse, .error f⟩
    | .ok (.done a) => ⟨(turn.events.reverse ++ before).reverse, .ok a⟩
    | .ok (.again s) => loopFrom body (turn.events.reverse ++ before) limit s

/-- Turns until one is the last, at most `limit` of them. -/
def loop (body : σ → Run (Turn σ α)) (limit : Nat) (s : σ) : Run α :=
  loopFrom body [] limit s

theorem loopFrom_eq (body : σ → Run (Turn σ α)) (before : List Event) (limit : Nat) (s : σ) :
    loopFrom body before limit s =
      ⟨before.reverse ++ (loop body limit s).events, (loop body limit s).result⟩ := by
  induction limit generalizing before s with
  | zero => simp [loopFrom, loop]
  | succ limit ih =>
    simp only [loop, loopFrom]
    cases (body s).result with
    | error f => simp
    | ok turn =>
      cases turn with
      | done a => simp
      | again s =>
        simp only [List.append_nil]
        rw [ih, ih (body _).events.reverse]
        simp

@[simp] theorem loop_zero (body : σ → Run (Turn σ α)) (s : σ) : loop body 0 s = stop .exhausted := rfl

theorem loop_succ (body : σ → Run (Turn σ α)) (limit : Nat) (s : σ) :
    loop body (limit + 1) s = body s >>= fun
      | .again s => loop body limit s
      | .done a => pure a := by
  simp only [loop, loopFrom, bind, Run.bind]
  cases (body s).result with
  | error f => simp
  | ok turn =>
    cases turn with
    | done a => simp [pure, Run.pure]
    | again s =>
      simp only
      rw [loopFrom_eq]
      simp [loop]

end Run

end BusBridge
