import BusBridge.Journal.Loop
/-!
# What a run gives

Most laws of this library are about the result of a run and not about its events. Taking the result
is a morphism of monads into `Except Fault` (`Run.result_bind`), so a run is opened step by step with
`Run.result_bind_eq_ok`: it gives a value exactly if its first part gives one and the rest gives the
value from there.

`Run.loop_induction` is the one induction over the turns of a loop. A loop law states what a turn
keeps, what its last turn leaves, and that is all; the limit never shows. That a loop gives a value at
all, unless it runs out of turns, is the other law, `Run.loop_returns`; `Run.loop_total` is both for a
loop that uses something up. Where a law is about the loop on its way, `Run.Turns` are the turns that
led to a state, and the loop goes on from there (`Run.Turns.loop_result`).
-/

namespace BusBridge

/-! ## Results without faults -/

namespace Outcomes

variable {ε α β : Type}

@[simp] theorem ok_bind (a : α) (f : α → Except ε β) : (Except.ok a >>= f) = f a := rfl

@[simp] theorem error_bind (e : ε) (f : α → Except ε β) : (Except.error e >>= f) = .error e := rfl

theorem bind_eq_ok {x : Except ε α} {f : α → Except ε β} {b : β} :
    (x >>= f) = .ok b ↔ ∃ a, x = .ok a ∧ f a = .ok b := by
  cases x with
  | error e => simp
  | ok a => simp

theorem toOption_eq_some {x : Except ε α} {a : α} : x.toOption = some a ↔ x = .ok a := by
  cases x with
  | error e => simp [Except.toOption]
  | ok b => simp [Except.toOption]

end Outcomes

namespace Run

variable {σ α β : Type}

/-! ## Results of the parts of a run -/

@[simp] theorem result_pure (a : α) : (pure a : Run α).result = .ok a := rfl

@[simp] theorem result_stop (f : Fault) : (stop f : Run α).result = .error f := rfl

@[simp] theorem result_lift (t : Trace α) : (liftM t : Run α).result = .ok t.value := rfl

theorem result_bind (x : Run α) (f : α → Run β) :
    (x >>= f).result = x.result >>= fun a => (f a).result := by
  obtain ⟨events, result⟩ := x
  cases result <;> rfl

/-- A run gives a value exactly if its first part gives one and the rest goes on from it. -/
theorem result_bind_eq_ok {x : Run α} {f : α → Run β} {b : β} :
    (x >>= f).result = .ok b ↔ ∃ a, x.result = .ok a ∧ (f a).result = .ok b := by
  rw [result_bind, Outcomes.bind_eq_ok]

/-! ## Steps one after the other -/

section Steps

variable {step : σ → β → Run σ}

theorem foldlM_snoc (steps : List β) (last : β) (s : σ) :
    (steps ++ [last]).foldlM step s = steps.foldlM step s >>= fun s₁ => step s₁ last := by
  simp only [List.foldlM_append, List.foldlM_cons, List.foldlM_nil, bind_pure]

/-- What each step keeps is kept by all of them. -/
theorem foldlM_keeps (P : σ → Prop) {steps : List β} {s s' : σ}
    (keeps : ∀ b ∈ steps, ∀ s s', P s → (step s b).result = .ok s' → P s') (start : P s)
    (h : (steps.foldlM step s).result = .ok s') : P s' := by
  induction steps generalizing s with
  | nil =>
    cases h
    exact start
  | cons first rest ih =>
    rw [List.foldlM_cons] at h
    obtain ⟨s₁, hfirst, hrest⟩ := result_bind_eq_ok.mp h
    have hkept := keeps first List.mem_cons_self s s₁ start hfirst
    exact ih (fun b hb => keeps b (List.mem_cons_of_mem first hb)) hkept hrest

/-- Steps are stopped by a fault exactly if one of them is, where those before it have led. -/
theorem foldlM_eq_error {steps : List β} {s : σ} {f : Fault} :
    (steps.foldlM step s).result = .error f ↔ ∃ before b after s', steps = before ++ b :: after ∧
      (before.foldlM step s).result = .ok s' ∧ (step s' b).result = .error f := by
  constructor
  · intro h
    induction steps generalizing s with
    | nil => cases h
    | cons first rest ih =>
      rw [List.foldlM_cons, result_bind] at h
      cases hfirst : (step s first).result with
      | error f' =>
        rw [hfirst] at h
        cases h
        exact ⟨[], first, rest, s, rfl, rfl, hfirst⟩
      | ok s₁ =>
        rw [hfirst, Outcomes.ok_bind] at h
        obtain ⟨before, b, after, s', rfl, hbefore, hfault⟩ := ih h
        refine ⟨first :: before, b, after, s', rfl, ?_, hfault⟩
        rw [List.foldlM_cons, result_bind, hfirst]
        exact hbefore
  · rintro ⟨before, b, after, s', rfl, hbefore, hfault⟩
    rw [List.foldlM_append, result_bind, hbefore, Outcomes.ok_bind, List.foldlM_cons, result_bind, hfault]
    rfl

end Steps

/-! ## Loops -/

/-- What holds at the start of a loop and is kept by each turn holds at its last turn. -/
theorem loop_induction {body : σ → Run (Turn σ α)} (Inv : σ → Prop) (Post : α → Prop)
    (again : ∀ s s', Inv s → (body s).result = .ok (.again s') → Inv s')
    (done : ∀ s a, Inv s → (body s).result = .ok (.done a) → Post a)
    {limit : Nat} {s : σ} {a : α} (start : Inv s) (h : (loop body limit s).result = .ok a) : Post a := by
  induction limit generalizing s with
  | zero => simp at h
  | succ limit ih =>
    rw [loop_succ] at h
    obtain ⟨turn, hturn, hrest⟩ := result_bind_eq_ok.mp h
    cases turn with
    | again s' => exact ih (again s s' start hturn) hrest
    | done b =>
      simp only [result_pure, Except.ok.injEq] at hrest
      exact hrest ▸ done s b start hturn

/-- What every last turn of a loop vouches for holds of its value. -/
theorem loop_last {body : σ → Run (Turn σ α)} (Post : α → Prop) (done : ∀ s a, (body s).result = .ok (.done a) → Post a)
    {limit : Nat} {s : σ} {a : α} (h : (loop body limit s).result = .ok a) : Post a :=
  loop_induction (fun _ => True) Post (fun _ _ _ _ => trivial) (fun s a _ => done s a) trivial h

/-- The work gives a value, unless it runs out of turns. -/
def Returns (x : Run α) : Prop :=
  (∃ a, x.result = .ok a) ∨ x.result = .error .exhausted

theorem Returns.bind {x : Run α} {f : α → Run β} (hx : x.Returns) (hf : ∀ a, x.result = .ok a → (f a).Returns) :
    (x >>= f).Returns := by
  unfold Returns
  rw [result_bind]
  obtain ⟨a, ha⟩ | hstop := hx
  · rw [ha]
    exact hf a ha
  · rw [hstop]
    exact .inr rfl

theorem Returns.ne_error {x : Run α} {f : Fault} (h : x.Returns) (hlimit : f ≠ .exhausted) : x.result ≠ .error f := by
  intro hfault
  obtain ⟨a, hok⟩ | hexhausted := h
  · cases hok.symm.trans hfault
  · cases hexhausted.symm.trans hfault
    exact hlimit rfl

theorem bind_ne_error {x : Run α} {f : α → Run β} {fault : Fault} (hx : x.result ≠ .error fault)
    (hf : ∀ a, x.result = .ok a → (f a).result ≠ .error fault) : (x >>= f).result ≠ .error fault := by
  rw [result_bind]
  cases hresult : x.result with
  | error e =>
    intro h
    cases h
    exact hx hresult
  | ok a => exact hf a hresult

/-- If every turn returns, the loop does. -/
theorem loop_returns {body : σ → Run (Turn σ α)} (turn : ∀ s, (body s).Returns) (limit : Nat) (s : σ) :
    (loop body limit s).Returns := by
  induction limit generalizing s with
  | zero => exact .inr rfl
  | succ limit ih =>
    rw [loop_succ]
    refine (turn s).bind ?_
    intro t _
    cases t with
    | again s' => exact ih s'
    | done a => exact .inl ⟨a, rfl⟩

/-- A fault that no turn of a loop ends in does not stop the loop, unless it is that of the limit. -/
theorem loop_ne_error {body : σ → Run (Turn σ α)} {f : Fault} (hlimit : f ≠ .exhausted)
    (turn : ∀ s, (body s).result ≠ .error f) (limit : Nat) (s : σ) : (loop body limit s).result ≠ .error f := by
  induction limit generalizing s with
  | zero =>
    intro h
    exact hlimit (Except.error.inj h).symm
  | succ limit ih =>
    rw [loop_succ]
    refine bind_ne_error (turn s) ?_
    intro t _
    cases t with
    | again s' => exact ih s'
    | done a => exact nofun

/-- A loop whose turns use something up gives a value before its limit, and its last turn vouches for the value. -/
theorem loop_total {body : σ → Run (Turn σ α)} (Inv : σ → Prop) (Post : α → Prop) (measure : σ → Nat)
    (turn : ∀ s, Inv s → (∃ s', (body s).result = .ok (.again s') ∧ Inv s' ∧ measure s' < measure s) ∨
      ∃ a, (body s).result = .ok (.done a) ∧ Post a)
    {limit : Nat} {s : σ} (start : Inv s) (hlimit : measure s < limit) :
    ∃ a, (loop body limit s).result = .ok a ∧ Post a := by
  induction limit generalizing s with
  | zero => exact absurd hlimit (Nat.not_lt_zero _)
  | succ limit ih =>
    rw [loop_succ, result_bind]
    obtain ⟨s', hturn, hkept, hless⟩ | ⟨a, hturn, hpost⟩ := turn s start
    · rw [hturn]
      exact ih hkept (by omega)
    · rw [hturn]
      exact ⟨a, rfl, hpost⟩

/-- So many turns lead from one state to another, none of them the last one. -/
inductive Turns (body : σ → Run (Turn σ α)) (s : σ) : Nat → σ → Prop where
  | start : Turns body s 0 s
  | again {count : Nat} {s₁ s₂ : σ} : Turns body s count s₁ → (body s₁).result = .ok (.again s₂) →
      Turns body s (count + 1) s₂

/-- The state after so many turns, if none of them is the last one. -/
def turns (body : σ → Run (Turn σ α)) (s : σ) : Nat → Run (Option σ)
  | 0 => pure (some s)
  | count + 1 => do
    match ← turns body s count with
    | none => pure none
    | some s₁ =>
      match ← body s₁ with
      | .again s₂ => pure (some s₂)
      | .done _ => pure none

theorem Turns.of_turns {body : σ → Run (Turn σ α)} {s s' : σ} {count : Nat}
    (h : (turns body s count).result = .ok (some s')) : Turns body s count s' := by
  induction count generalizing s' with
  | zero =>
    cases h
    exact .start
  | succ count ih =>
    obtain ⟨s₁, hbefore, hrest⟩ := result_bind_eq_ok.mp h
    cases s₁ with
    | none => cases hrest
    | some s₁ =>
      obtain ⟨turn, hturn, hlast⟩ := result_bind_eq_ok.mp hrest
      cases turn with
      | done a => cases hlast
      | again s₂ =>
        cases hlast
        exact .again (ih hbefore) hturn

/-- What is kept by each turn holds of every state on the way. -/
theorem Turns.keeps {body : σ → Run (Turn σ α)} (Inv : σ → Prop)
    (again : ∀ s s', Inv s → (body s).result = .ok (.again s') → Inv s') {s s' : σ} {count : Nat}
    (h : Turns body s count s') (start : Inv s) : Inv s' := by
  induction h with
  | start => exact start
  | again _ hturn ih => exact again _ _ ih hturn

/-- A loop goes on from each state on its way. -/
theorem Turns.loop_result {body : σ → Run (Turn σ α)} {s s' : σ} {count : Nat} (h : Turns body s count s')
    (limit : Nat) : (loop body (count + limit) s).result = (loop body limit s').result := by
  induction h generalizing limit with
  | start => rw [Nat.zero_add]
  | @again count s₁ s₂ _ hturn ih =>
    rw [Nat.add_assoc, ih, Nat.add_comm 1, loop_succ, result_bind, hturn]
    rfl

/-- A loop ends with its last turn, if its limit allows for that. -/
theorem Turns.loop_done {body : σ → Run (Turn σ α)} {s s' : σ} {count limit : Nat} {a : α} (h : Turns body s count s')
    (hdone : (body s').result = .ok (.done a)) (hlimit : count < limit) : (loop body limit s).result = .ok a := by
  obtain ⟨rest, rfl⟩ : ∃ rest, limit = count + (rest + 1) := ⟨limit - count - 1, by omega⟩
  rw [h.loop_result, loop_succ, result_bind, hdone]
  rfl

/-- A loop that has so many turns to go runs out of fewer. -/
theorem Turns.loop_exhausted {body : σ → Run (Turn σ α)} {s s' : σ} {count limit : Nat} (h : Turns body s count s')
    (hlimit : limit ≤ count) : (loop body limit s).result = .error .exhausted := by
  induction h generalizing limit with
  | start =>
    rw [Nat.le_zero.mp hlimit]
    rfl
  | @again count s₁ s₂ hbefore hturn ih =>
    by_cases hearlier : limit ≤ count
    · exact ih hearlier
    · obtain rfl : limit = count + 1 := by omega
      rw [hbefore.loop_result, loop_succ, result_bind, hturn]
      rfl

/-- A loop that gives a value had some turns, fewer than it might have had, and one more that was the last. -/
theorem turns_of_loop {body : σ → Run (Turn σ α)} {limit : Nat} {s : σ} {a : α}
    (h : (loop body limit s).result = .ok a) :
    ∃ count s', count < limit ∧ Turns body s count s' ∧ (body s').result = .ok (.done a) := by
  have hlast : ∃ count s', Turns body s count s' ∧ (body s').result = .ok (.done a) := by
    refine loop_induction (fun s₁ => ∃ count, Turns body s count s₁)
      (fun a => ∃ count s', Turns body s count s' ∧ (body s').result = .ok (.done a)) ?_ ?_ ⟨0, .start⟩ h
    · rintro s₁ s₂ ⟨count, hturns⟩ hturn
      exact ⟨count + 1, .again hturns hturn⟩
    · rintro s₁ a ⟨count, hturns⟩ hdone
      exact ⟨count, s₁, hturns, hdone⟩
  obtain ⟨count, s', hturns, hdone⟩ := hlast
  refine ⟨count, s', Nat.lt_of_not_le fun hle => ?_, hturns, hdone⟩
  cases (hturns.loop_exhausted hle).symm.trans h

end Run

end BusBridge
