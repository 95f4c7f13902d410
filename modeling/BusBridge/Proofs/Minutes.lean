import BusBridge.Proofs.Forgetting
/-!
# The requests of a dialogue

A conversation decides on requests, and its dialogue starts them, one after the other, some of them later and some of
them never. To follow each request, the steps of the conversation are written down (`Minuted`), and so are the
occasions on which the dialogue is called (`Watched`); a dialogue does the same with these records and without them
(`Dialogue.forgets_plain`).

On each occasion the dialogue takes a step or none, and starts, keeps or refuses the request that waits
(`Followed.Handles`). From that follows the account of all requests that were ever decided on (`Followed.Account`):
which were started, in which order, and why the others were not. It holds after every run of an endpoint with a dialogue
(`Dialogue.requests_in_order`).
-/

namespace BusBridge

/-! ## Dialogues with minutes -/

/-- A conversation with the minutes of its steps: what each of them was given, and the request that it decided on. -/
structure Minuted (γ : Type) where
  step : γ
  minutes : List (Option Message × Option Message) := []

instance {γ : Type} [Conversation γ] : Conversation (Minuted γ) where
  next c given := do
    let (step, request) ← Conversation.next c.step given
    pure (⟨step, c.minutes ++ [(given, request)]⟩, request)
  isFinished c := Conversation.isFinished c.step

theorem Minuted.minutes_next {γ : Type} [Conversation γ] {c c' : Minuted γ} {given request : Option Message}
    (h : (Conversation.next c given).value = (c', request)) : c'.minutes = c.minutes ++ [(given, request)] := by
  obtain ⟨rfl, rfl⟩ := Prod.mk.inj h
  rfl

namespace Dialogue

variable {γ δ : Type} {n : Nat} {φ : Type} [Medium δ φ]

/-- The requests that were decided on, in order. -/
def decided (d : Dialogue (Minuted γ)) : List Message :=
  d.step.minutes.filterMap Prod.snd

/-- How often the conversation was opened. -/
def openings (d : Dialogue (Minuted γ)) : Nat :=
  d.step.minutes.countP (·.1.isNone)

/-- The dialogue without the minutes. -/
def plain (d : Dialogue (Minuted γ)) : Dialogue γ :=
  ⟨d.step.step, d.pending, d.failed⟩

/-- The result of an operation on a dialogue and its link, without the minutes. -/
def plainly (r : Dialogue (Minuted γ) × Link n δ) : Dialogue γ × Link n δ :=
  (r.1.plain, r.2)

theorem flush_plain (d : Dialogue (Minuted γ)) (l : Link n δ) : d.plain.flush l = plainly <$> d.flush l := by
  unfold flush
  have hpending : d.plain.pending = d.pending := rfl
  rw [hpending]
  cases d.pending with
  | none => rfl
  | some request =>
    simp only
    split
    · rfl
    · refine Run.bind_map_same ?_
      rintro ⟨_ | _, link⟩ <;> rfl

variable [Conversation γ]

theorem next_plain (c : Minuted γ) (given : Option Message) :
    Conversation.next c.step given = (fun r => (r.1.step, r.2)) <$> Conversation.next c given := by
  show _ = (fun r : Minuted γ × Option Message => (r.1.step, r.2)) <$> (Conversation.next c.step given >>= fun r =>
    pure ((⟨r.1, c.minutes ++ [(given, r.2)]⟩ : Minuted γ), r.2))
  simp only [map_bind, map_pure]
  exact (bind_pure _).symm

theorem advance_plain (d : Dialogue (Minuted γ)) (given : Option Message) (l : Link n δ) :
    d.plain.advance given l = plainly <$> d.advance given l := by
  have hnext : (liftM (Conversation.next d.plain.step given) : Run (γ × Option Message)) =
      (fun r => (r.1.step, r.2)) <$> (liftM (Conversation.next d.step given) : Run (Minuted γ × Option Message)) := by
    rw [← liftM_map]
    exact congrArg liftM (next_plain d.step given)
  refine Run.bind_map_congr hnext ?_
  rintro ⟨c, _ | request⟩
  · rfl
  · have hflush := flush_plain { d with step := c, pending := some request } l
    have hpending : d.plain.pending = d.pending := rfl
    simp only [hpending]
    split
    · exact Run.bind_map_same fun _ => hflush
    · exact hflush

theorem onMessage_plain (d : Dialogue (Minuted γ)) (m : Message) (l : Link n δ) :
    Handler.onMessage d.plain m l = plainly <$> Handler.onMessage d m l := by
  simp only [Handler.onMessage]
  have hfinished : d.plain.isFinished = d.isFinished := rfl
  rw [hfinished]
  split
  · rfl
  · exact advance_plain d (some m) l

/-- A dialogue does the same with its minutes and without them. -/
theorem forgets_plain : Forgets (plain : Dialogue (Minuted γ) → Dialogue γ) :=
  ⟨onMessage_plain, flush_plain⟩

end Dialogue

/-! ## What becomes of a request -/

/-- A dialogue with its minutes, under watch. -/
abbrev Followed (γ : Type) := Watched (Dialogue (Minuted γ))

/-- The request whose frame was started is the last one that was decided on: its place among them. -/
def Occasion.place {γ : Type} (o : Occasion (Dialogue (Minuted γ))) : Option Nat :=
  o.started.map fun _ => o.after.decided.length - 1

namespace Followed

variable {γ : Type}

/-- The places of the requests that were started, in the order in which they were. -/
def sent (w : Followed γ) : List Nat :=
  w.log.filterMap Occasion.place

/-- Why the request at a place was not started, or not yet. Only if a frame was given up (`lapse`), a request may
have waited for an idle link. -/
inductive Unsent (n : Nat) (lapse : Prop) (w : Followed γ) (i : Nat) (request : Message) : Prop where
  /-- it is the last one, and waits -/
  | waits : i + 1 = w.handler.decided.length → w.handler.pending = some request → Unsent n lapse w i request
  /-- it waited when the next one was decided on -/
  | replaced {o : Occasion (Dialogue (Minuted γ))} : o ∈ w.log → o.before.pending = some request →
      o.before.decided.length = i + 1 → o.after.decided.length = i + 2 → o.armed.isSome = true ∨ lapse →
      Unsent n lapse w i request
  /-- it is longer than the buffer or the length field allow, and from that occasion on the dialogue takes no
  messages -/
  | refused {o : Occasion (Dialogue (Minuted γ))} {before after : List (Occasion (Dialogue (Minuted γ)))} :
      n - Header.size < request.payload.length ∨ maxPayload < request.payload.length → w.log = before ++ o :: after →
      o.after.decided.length = i + 1 → o.after.failed = true → w.handler.failed = true →
      (∀ later ∈ after, later.before.failed = true ∧ later.after.failed = true ∧
        (later.message.isSome = true → later.after.step.minutes = later.before.step.minutes)) →
      Unsent n lapse w i request

/-- The account of all requests of a dialogue. -/
structure Account (n : Nat) (lapse busy : Prop) (first : Dialogue (Minuted γ)) (w : Followed γ) : Prop where
  /-- each request is started at most once, in the order in which they were decided on -/
  ordered : w.sent.Pairwise (· < ·)
  frames : w.started.map some = w.sent.map fun i => w.handler.decided[i]?.map Message.frame
  bounded : ∀ i ∈ w.sent, i < w.handler.decided.length
  unsent : ∀ i request, w.handler.decided[i]? = some request → i ∉ w.sent → Unsent n lapse w i request
  pending : ∀ request, w.handler.pending = some request → w.handler.decided.getLast? = some request ∧
    w.handler.decided.length - 1 ∉ w.sent ∧ (busy ∨ lapse)
  /-- one step on each occasion at most -/
  steps : ∀ o ∈ w.log, o.after.step.minutes = o.before.step.minutes ∨
    ∃ request, o.after.step.minutes = o.before.step.minutes ++ [(o.message, request)]
  /-- nothing happens to the dialogue between the occasions -/
  chain : first :: w.log.map (·.after) = w.log.map (·.before) ++ [w.handler]

/-- Before the first occasion there is nothing to account for. -/
theorem Account.fresh {n : Nat} {lapse busy : Prop} {step : γ} :
    Account n lapse busy { step := { step } } ⟨{ step := { step } }, []⟩ where
  ordered := .nil
  frames := rfl
  bounded := nofun
  unsent _ _ hsome := nomatch hsome
  pending _ hsome := nomatch hsome
  steps := nofun
  chain := rfl

/-- What becomes of the request that waits, or was just decided on. -/
inductive Deals (n : Nat) (lapse : Prop) (o : Occasion (Dialogue (Minuted γ))) (waiting : Option Message) : Prop where
  | keeps : o.after.pending = waiting → o.after.failed = o.before.failed → o.left = o.armed →
      (waiting.isSome = true → o.armed.isSome = true ∨ lapse) → Deals n lapse o waiting
  | sends {request : Message} : waiting = some request → o.after.pending = none → o.after.failed = o.before.failed →
      o.armed = none → o.left = some request.frame → Deals n lapse o waiting
  | refuses {request : Message} : waiting = some request → min (n - Header.size) maxPayload < request.payload.length →
      o.after.pending = none → o.after.failed = true → o.armed = none → o.left = none → Deals n lapse o waiting

/-- What an occasion can do: take a step that decides on a request or on none, and start the request that waits. -/
structure Handles (n : Nat) (lapse : Prop) (o : Occasion (Dialogue (Minuted γ))) (asked : Option Message) : Prop where
  steps : (asked = none ∧ o.after.step.minutes = o.before.step.minutes) ∨
    o.after.step.minutes = o.before.step.minutes ++ [(o.message, asked)]
  closed : o.before.failed = true → o.message.isSome = true → o.after.step.minutes = o.before.step.minutes
  replaces : asked.isSome = true → o.before.pending.isSome = true → o.armed.isSome = true ∨ lapse
  deals : Deals n lapse o (asked <|> o.before.pending)

variable {n : Nat} {lapse busy : Prop} {first : Dialogue (Minuted γ)} {w : Followed γ}
  {o : Occasion (Dialogue (Minuted γ))} {asked : Option Message}

theorem Handles.decided (h : Handles n lapse o asked) : o.after.decided = o.before.decided ++ asked.toList := by
  unfold Dialogue.decided
  obtain ⟨rfl, hsame⟩ | hmore := h.steps
  · rw [hsame, Option.toList_none, List.append_nil]
  · rw [hmore, List.filterMap_append]
    cases asked <;> rfl

theorem Deals.failed {waiting : Option Message} (h : Deals n lapse o waiting) (hfailed : o.before.failed = true) :
    o.after.failed = true := by
  cases h with
  | keeps _ hsame => exact hsame.trans hfailed
  | sends _ _ hsame => exact hsame.trans hfailed
  | refuses _ _ _ hnow => exact hnow

/-- The last request that was decided on leaves, or no request does. -/
theorem Deals.place {waiting : Option Message} (h : Deals n lapse o waiting) :
    (o.started = none ∧ o.place = none) ∨
      ∃ request, waiting = some request ∧ o.after.pending = none ∧ o.started = some request.frame ∧
        o.place = some (o.after.decided.length - 1) := by
  cases h with
  | keeps _ _ hleft _ =>
    have hnone := Occasion.started_of_left hleft
    exact .inl ⟨hnone, by rw [Occasion.place, hnone, Option.map_none]⟩
  | @sends request hwaiting hpending _ harmed hleft =>
    have hstarted : o.started = some request.frame := by rw [Occasion.started, harmed, hleft]
    exact .inr ⟨request, hwaiting, hpending, hstarted, by rw [Occasion.place, hstarted, Option.map_some]⟩
  | refuses _ _ _ _ harmed hleft =>
    have hnone := Occasion.started_of_left (hleft.trans harmed.symm)
    exact .inl ⟨hnone, by rw [Occasion.place, hnone, Option.map_none]⟩

/-- The last request waits from now on, unless it leaves now. -/
theorem Deals.unsent {waiting : Option Message} {log : List (Occasion (Dialogue (Minuted γ)))} {i : Nat}
    {request : Message} (h : Deals n lapse o waiting) (hwaiting : waiting = some request)
    (hlast : o.after.decided.length = i + 1) (hnot : o.place ≠ some i) :
    Unsent n lapse ⟨o.after, log ++ [o]⟩ i request := by
  cases h with
  | keeps hpending => exact .waits hlast.symm (hpending.trans hwaiting)
  | @sends request' _ _ _ harmed hleft =>
    have hplace : o.place = some i := by
      rw [Occasion.place, Occasion.started, harmed, hleft, hlast]
      rfl
    exact absurd hplace hnot
  | @refuses request' hwaiting' hlong _ hfailed =>
    cases hwaiting.symm.trans hwaiting'
    exact .refused (min_lt_iff.mp hlong) rfl hlast hfailed hfailed fun later hmem => absurd hmem List.not_mem_nil

/-- What was said of a request stays true, except that one that waits may be replaced or leave. -/
theorem Unsent.snoc {i : Nat} {request : Message} (h : Unsent n lapse w i request) (hbefore : o.before = w.handler)
    (hhandles : Handles n lapse o asked) (hnot : o.place ≠ some i) :
    Unsent n lapse ⟨o.after, w.log ++ [o]⟩ i request := by
  cases h with
  | waits hlast hpending =>
    rw [← hbefore] at hlast hpending
    have hdecided := hhandles.decided
    cases asked with
    | some next =>
      have hlength : o.after.decided.length = i + 2 := by
        rw [hdecided, List.length_append, ← hlast]
        rfl
      refine .replaced (List.mem_append_right _ List.mem_cons_self) hpending hlast.symm hlength ?_
      exact hhandles.replaces rfl (by rw [hpending, Option.isSome_some])
    | none =>
      have hlength : o.after.decided.length = i + 1 := by
        rw [hdecided, Option.toList_none, List.append_nil, hlast]
      exact hhandles.deals.unsent hpending hlength hnot
  | replaced hmem hpending hlast hnext hwhy =>
    exact .replaced (List.mem_append_left _ hmem) hpending hlast hnext hwhy
  | @refused o' before after hlong hlog hlast hfailed hnow hlater =>
    rw [← hbefore] at hnow
    have hstill := hhandles.deals.failed hnow
    have hlog' : w.log ++ [o] = before ++ o' :: (after ++ [o]) := by
      rw [hlog, List.append_assoc, List.cons_append]
    refine .refused hlong hlog' hlast hfailed hstill ?_
    intro later hmem
    obtain hmem | hmem := List.mem_append.mp hmem
    · exact hlater later hmem
    · cases List.mem_singleton.mp hmem
      exact ⟨hnow, hstill, hhandles.closed hnow⟩

/-- The request that waits is the last one that was decided on, and was not started. -/
theorem Account.last {request : Message} (h : Account n lapse busy first w) (hbefore : o.before = w.handler)
    (hhandles : Handles n lapse o asked) (hwaiting : (asked <|> o.before.pending) = some request) :
    o.after.decided.getLast? = some request ∧ o.after.decided.length - 1 ∉ w.sent := by
  rw [hhandles.decided, hbefore]
  cases asked with
  | some next =>
    cases hwaiting
    refine ⟨List.getLast?_concat, ?_⟩
    intro hmem
    have hlt := h.bounded _ hmem
    rw [List.length_append] at hlt
    exact Nat.lt_irrefl _ hlt
  | none =>
    have hpending : w.handler.pending = some request := hbefore ▸ hwaiting
    obtain ⟨hlast, hunsent, _⟩ := h.pending request hpending
    rw [Option.toList_none, List.append_nil]
    exact ⟨hlast, hunsent⟩

theorem sent_snoc (w : Followed γ) (o : Occasion (Dialogue (Minuted γ))) :
    sent ⟨o.after, w.log ++ [o]⟩ = w.sent ++ o.place.toList := by
  rw [sent, List.filterMap_append]
  cases hplace : o.place <;> simp [sent, hplace]

/-! One occasion more, part for part of the account. -/

section Snoc

variable (h : Account n lapse busy first w) (hbefore : o.before = w.handler) (hhandles : Handles n lapse o asked)
include h hbefore hhandles

omit h in
/-- What was decided on keeps its place. -/
theorem Account.decided_snoc {i : Nat} (hi : i < w.handler.decided.length) :
    o.after.decided[i]? = w.handler.decided[i]? := by
  rw [hhandles.decided, hbefore, List.getElem?_append_left hi]

theorem Account.ordered_snoc : (sent ⟨o.after, w.log ++ [o]⟩).Pairwise (· < ·) := by
  rw [sent_snoc]
  obtain ⟨_, hplace⟩ | ⟨request, hwaiting, _, _, hplace⟩ := hhandles.deals.place
  · rw [hplace, Option.toList_none, List.append_nil]
    exact h.ordered
  · have hlast := (h.last hbefore hhandles hwaiting).2
    rw [hplace, Option.toList_some, List.pairwise_append]
    refine ⟨h.ordered, List.pairwise_singleton _ _, ?_⟩
    intro i hi j hj
    cases List.mem_singleton.mp hj
    have hlt := h.bounded i hi
    have hne : i ≠ o.after.decided.length - 1 := fun heq => hlast (heq ▸ hi)
    rw [hhandles.decided, hbefore, List.length_append] at hne ⊢
    omega

theorem Account.frames_snoc : (Watched.started ⟨o.after, w.log ++ [o]⟩).map some =
    (sent ⟨o.after, w.log ++ [o]⟩).map fun i => o.after.decided[i]?.map Message.frame := by
  have hstarted : Watched.started ⟨o.after, w.log ++ [o]⟩ = w.started ++ o.started.toList := Watched.started_snoc rfl
  have hframes : w.started.map some = w.sent.map fun i => o.after.decided[i]?.map Message.frame := by
    rw [h.frames]
    exact List.map_congr_left fun i hi => by rw [Account.decided_snoc hbefore hhandles (h.bounded i hi)]
  rw [sent_snoc, hstarted, List.map_append, List.map_append, hframes]
  obtain ⟨hnone, hplace⟩ | ⟨request, hwaiting, _, hframe, hplace⟩ := hhandles.deals.place
  · rw [hnone, hplace]
    rfl
  · have hlast := (h.last hbefore hhandles hwaiting).1
    rw [List.getLast?_eq_getElem?] at hlast
    rw [hframe, hplace, Option.toList_some, Option.toList_some, List.map_singleton, List.map_singleton, hlast,
      Option.map_some]

theorem Account.bounded_snoc {i : Nat} (hi : i ∈ sent ⟨o.after, w.log ++ [o]⟩) : i < o.after.decided.length := by
  rw [sent_snoc] at hi
  obtain hi | hi := List.mem_append.mp hi
  · rw [hhandles.decided, hbefore, List.length_append]
    exact Nat.lt_add_right _ (h.bounded i hi)
  · obtain ⟨_, hplace⟩ | ⟨request, hwaiting, _, _, hplace⟩ := hhandles.deals.place
    · rw [hplace] at hi
      cases hi
    · rw [hplace] at hi
      cases List.mem_singleton.mp hi
      have hlast := (h.last hbefore hhandles hwaiting).1
      have hne : o.after.decided ≠ [] := fun hnil => by rw [hnil] at hlast; cases hlast
      exact Nat.sub_lt (List.length_pos_iff.mpr hne) Nat.one_pos

theorem Account.unsent_snoc {i : Nat} {request : Message} (hi : o.after.decided[i]? = some request)
    (hnot : i ∉ sent ⟨o.after, w.log ++ [o]⟩) : Unsent n lapse ⟨o.after, w.log ++ [o]⟩ i request := by
  rw [sent_snoc, List.mem_append, not_or] at hnot
  have hplace : o.place ≠ some i := fun heq => hnot.2 (by rw [heq]; exact List.mem_singleton_self i)
  rcases Nat.lt_or_ge i w.handler.decided.length with hlt | hge
  · have hold := h.unsent i request ((Account.decided_snoc hbefore hhandles hlt).symm.trans hi) hnot.1
    exact hold.snoc hbefore hhandles hplace
  · -- The place is new, so the request was decided on just now.
    have hdecided := hhandles.decided
    rw [hbefore] at hdecided
    rw [hdecided, List.getElem?_append_right hge] at hi
    cases asked with
    | none => cases hi
    | some next =>
      have hfirst : i - w.handler.decided.length = 0 := Nat.lt_one_iff.mp (List.getElem?_eq_some_iff.mp hi).1
      rw [hfirst] at hi
      cases hi
      have hlength : o.after.decided.length = i + 1 := by
        rw [hdecided, List.length_append, Option.toList_some, List.length_singleton]
        omega
      exact hhandles.deals.unsent rfl hlength hplace

theorem Account.pending_snoc {request : Message} (hpending : o.after.pending = some request) :
    o.after.decided.getLast? = some request ∧ o.after.decided.length - 1 ∉ sent ⟨o.after, w.log ++ [o]⟩ ∧
      (o.left.isSome = true ∨ lapse) := by
  rw [sent_snoc]
  cases hhandles.deals with
  | keeps hkeeps _ hleft hwhy =>
    have hwaiting : (asked <|> o.before.pending) = some request := hkeeps.symm.trans hpending
    obtain ⟨hlast, hunsent⟩ := h.last hbefore hhandles hwaiting
    have hplace : o.place = none := by rw [Occasion.place, Occasion.started_of_left hleft, Option.map_none]
    rw [hplace, Option.toList_none, List.append_nil, hleft]
    exact ⟨hlast, hunsent, hwhy (by rw [hwaiting, Option.isSome_some])⟩
  | sends _ hnone => cases hnone.symm.trans hpending
  | refuses _ _ hnone => cases hnone.symm.trans hpending

/-- Every occasion keeps the account. -/
theorem Account.snoc {busy' : Prop} {w' : Followed γ} (hlog : w'.log = w.log ++ [o]) (hafter : w'.handler = o.after)
    (hbusy : o.left.isSome = true → busy') : Account n lapse busy' first w' := by
  obtain rfl : w' = ⟨o.after, w.log ++ [o]⟩ := by rw [← hlog, ← hafter]
  refine ⟨h.ordered_snoc hbefore hhandles, h.frames_snoc hbefore hhandles, fun i => h.bounded_snoc hbefore hhandles,
    fun i request => h.unsent_snoc hbefore hhandles, ?pending, ?steps, ?chain⟩
  case pending =>
    intro request hpending
    obtain ⟨hlast, hunsent, hwhy⟩ := h.pending_snoc hbefore hhandles hpending
    exact ⟨hlast, hunsent, hwhy.imp_left hbusy⟩
  case steps =>
    intro o' hmem
    obtain hmem | hmem := List.mem_append.mp hmem
    · exact h.steps o' hmem
    · cases List.mem_singleton.mp hmem
      exact hhandles.steps.imp And.right fun hmore => ⟨asked, hmore⟩
  case chain =>
    show first :: (w.log ++ [o]).map (·.after) = (w.log ++ [o]).map (·.before) ++ [o.after]
    rw [List.map_append, List.map_append, ← List.cons_append, h.chain, List.map_singleton, List.map_singleton, hbefore]

end Snoc

end Followed

/-! ## What a dialogue does with its requests -/

theorem Link.isSome_armed? {n : Nat} {δ : Type} (l : Link n δ) : l.armed?.isSome = l.sending.isSome := by
  rw [armed?, Option.isSome_map]

namespace Followed

variable {γ δ : Type} {n : Nat} {lapse : Prop} {first d d' : Dialogue (Minuted γ)} {w w' : Followed γ} {l l' : Link n δ}

/-- A message that is not taken any more changes nothing. -/
theorem handles_nothing {given : Option Message} (hwaits : d.pending.isSome = true → l.sending.isSome = true ∨ lapse) :
    Handles n lapse ⟨given, d, d, l.armed?, l.armed?⟩ none := by
  rw [← Link.isSome_armed?] at hwaits
  exact ⟨.inl ⟨rfl, rfl⟩, fun _ _ => rfl, nofun, .keeps rfl rfl rfl hwaits⟩

theorem Account.waits (h : Account n lapse (l.sending.isSome = true) first w)
    (hsome : w.handler.pending.isSome = true) :
    l.sending.isSome = true ∨ lapse := by
  obtain ⟨request, hpending⟩ := Option.isSome_iff_exists.mp hsome
  exact (h.pending request hpending).2.2

variable {φ : Type} [Medium δ φ]

theorem deals_of_flushes {o : Occasion (Dialogue (Minuted γ))} (h : d.Flushes l o.after l')
    (hfailed : o.before.failed = d.failed) (harmed : o.armed = l.armed?) (hleft : o.left = l'.armed?) :
    Deals n lapse o d.pending := by
  generalize hafter : o.after = d' at h
  cases h with
  | nothing hnone =>
    refine .keeps (by rw [hafter]) (by rw [hafter, hfailed]) (hleft.trans harmed.symm) ?_
    rw [hnone]
    exact nofun
  | waits hsome hbusy =>
    refine .keeps (by rw [hafter]) (by rw [hafter, hfailed]) (hleft.trans harmed.symm) ?_
    intro _
    rw [harmed, Link.isSome_armed?]
    exact .inl hbusy
  | sent hsome _ hstarts =>
    refine .sends hsome (by rw [hafter]) (by rw [hafter, hfailed]) ?_ ?_
    · rw [harmed, Link.armed?_idle hstarts.idle]
    · rw [hleft, hstarts.armed]
  | failed hsome hlarge hdeclines =>
    refine .refuses hsome (Nat.lt_of_not_le hlarge) (by rw [hafter]) (by rw [hafter]) ?_ ?_
    · rw [harmed, Link.armed?_idle hdeclines.idle]
    · rw [hleft, Link.armed?_idle hdeclines.left]

theorem step_of_flushes (h : d.Flushes l d' l') : d'.step = d.step := by
  cases h <;> rfl

/-- A report takes no step. -/
theorem handles_of_flushes (h : d.Flushes l d' l') : Handles n lapse ⟨none, d, d', l.armed?, l'.armed?⟩ none where
  steps := .inl ⟨rfl, congrArg Minuted.minutes (step_of_flushes h)⟩
  closed _ hmessage := nomatch hmessage
  replaces hasked := nomatch hasked
  deals := deals_of_flushes h rfl rfl rfl

variable [Conversation γ]

/-- A step is entered in the minutes, whatever becomes of its request. -/
theorem minutes_of_advances {given : Option Message} (h : d.Advances given l d' l') :
    ∃ asked, d'.step.minutes = d.step.minutes ++ [(given, asked)] := by
  cases h with
  | silent hnext => exact ⟨none, Minuted.minutes_next hnext⟩
  | asks hnext hflushes =>
    refine ⟨_, Eq.trans ?_ (Minuted.minutes_next hnext)⟩
    rw [step_of_flushes hflushes]

/-- A step decides on a request or on none. -/
theorem handles_of_advances {given : Option Message} (h : d.Advances given l d' l')
    (hopen : given.isSome = true → d.failed = false)
    (hwaits : d.pending.isSome = true → l.sending.isSome = true ∨ lapse) :
    ∃ asked, Handles n lapse ⟨given, d, d', l.armed?, l'.armed?⟩ asked := by
  rw [← Link.isSome_armed?] at hwaits
  have hclosed {P : Prop} (hfailed : d.failed = true) (hmessage : given.isSome = true) : P := by
    cases (hopen hmessage).symm.trans hfailed
  cases h with
  | @silent c hnext =>
    have hminutes := Minuted.minutes_next hnext
    exact ⟨none, .inr hminutes, hclosed, nofun, .keeps rfl rfl rfl hwaits⟩
  | @asks c request d' l' hnext hflushes =>
    have hminutes : d'.step.minutes = d.step.minutes ++ [(given, some request)] := by
      rw [← Minuted.minutes_next hnext, step_of_flushes hflushes]
    have hdeals : Deals n lapse ⟨given, d, d', l.armed?, l'.armed?⟩ (some request) :=
      deals_of_flushes (d := { d with step := c, pending := some request }) hflushes rfl rfl rfl
    exact ⟨some request, .inr hminutes, hclosed, fun _ => hwaits, hdeals⟩

/-- Every occasion of the dialogue keeps the account. -/
theorem keeps_account (hn : Header.size < n) : Drive.Keeps (fun (w : Followed γ) (l : Link n δ) =>
    Account n lapse (l.sending.isSome = true) first w) where
  message {w w' m l l'} h hrun := by
    obtain ⟨hinner, hlog⟩ := Watched.onMessage_ok hrun
    obtain ⟨_, hsame, rfl⟩ | ⟨hopen, hadvances⟩ := Dialogue.onMessage_cases hn hinner
    · rw [hsame] at hlog
      exact h.snoc rfl (handles_nothing h.waits) hlog hsame (Link.isSome_armed? l' ▸ id)
    · have hunfailed : w.handler.failed = false := (Bool.or_eq_false_iff.mp hopen).1
      obtain ⟨asked, hhandles⟩ := handles_of_advances hadvances (fun _ => hunfailed) h.waits
      exact h.snoc rfl hhandles hlog rfl (Link.isSome_armed? l' ▸ id)
  report {w w' l l' size} h _ hrun := by
    obtain ⟨hinner, hlog⟩ := Watched.onSent_ok hrun
    exact h.snoc rfl (handles_of_flushes (Dialogue.onSent_cases hn hinner)) hlog rfl (Link.isSome_armed? l' ▸ id)
  arm _ h := h
  receive _ h := h
  send _ h := h

end Followed

/-! ## Runs of a dialogue -/

namespace Dialogue.Move

variable {γ δ : Type} {n : Nat} {φ : Type} [Medium δ φ] [Conversation γ]

def isStart : Move → Bool
  | start => true
  | use _ => false

/-- What the owner does, with the opening on record, too. -/
def follow (e : Endpoint n δ (Followed γ)) : Move → Run (Endpoint n δ (Followed γ))
  | start => do
    let (d, link) ← e.handler.handler.start e.link
    pure { e with
      handler := ⟨d, e.handler.log ++ [⟨none, e.handler.handler, d, e.link.armed?, link.armed?⟩]⟩
      link := link }
  | use u => u.run e

def followAll (e : Endpoint n δ (Followed γ)) (moves : List Move) : Run (Endpoint n δ (Followed γ)) :=
  moves.foldlM follow e

/-- Whatever the owner does, it does the same with the records and without them. -/
theorem follow_plain (e : Endpoint n δ (Followed γ)) (move : Move) :
    move.run (e.swap (plain ∘ Watched.handler)) = (·.swap (plain ∘ Watched.handler)) <$> move.follow e := by
  cases move with
  | start => exact Run.bind_map_congr (advance_plain e.handler.handler none e.link) fun _ => rfl
  | use u => exact (forgets_plain.comp Forgets.watched).use u e

theorem followAll_plain (e : Endpoint n δ (Followed γ)) (moves : List Move) :
    runAll (e.swap (plain ∘ Watched.handler)) moves = (·.swap (plain ∘ Watched.handler)) <$> followAll e moves := by
  induction moves generalizing e with
  | nil => rfl
  | cons move rest ih => exact Run.bind_map_congr (follow_plain e move) ih

end Dialogue.Move

namespace Followed

open Dialogue

variable {γ δ : Type} {n : Nat} {φ : Type} [Medium δ φ] [Conversation γ] {lapse : Prop} {first : Dialogue (Minuted γ)}
  {e e' : Endpoint n δ (Followed γ)}

theorem follow_account {move : Move} (hn : Header.size < n) (hlapse : move = .abandon → lapse)
    (h : Account n lapse (e.isSending = true) first e.handler) (hrun : (move.follow e).result = .ok e') :
    Account n lapse (e'.isSending = true) first e'.handler := by
  cases move with
  | start =>
    obtain ⟨⟨d, link⟩, hstart, hrest⟩ := Run.result_bind_eq_ok.mp hrun
    cases hrest
    obtain ⟨d₁, l₁, hadvance, hadvances⟩ := advance_advances hn e.handler.handler none e.link
    cases hadvance.symm.trans hstart
    obtain ⟨asked, hhandles⟩ := handles_of_advances hadvances nofun h.waits
    exact h.snoc rfl hhandles rfl rfl (Link.isSome_armed? link ▸ id)
  | use u =>
    obtain ⟨drive, rfl, hdrive⟩ | ⟨hidle, hhandler, _⟩ := Use.run_cases hn hrun
    · refine (keeps_account hn).run ?_ h hdrive
      intro habandon hkept
      have hgone := hlapse (by rw [habandon]; rfl)
      refine { hkept with pending := fun request hpending => ?_ }
      obtain ⟨hlast, hunsent, _⟩ := hkept.pending request hpending
      exact ⟨hlast, hunsent, .inr hgone⟩
    · rw [hhandler]
      refine { h with pending := ?_ }
      intro request hpending
      obtain ⟨hlast, hunsent, hbusy | hgone⟩ := h.pending request hpending
      · rw [Endpoint.isSending, Link.isBusy, hidle] at hbusy
        cases hbusy
      · exact ⟨hlast, hunsent, .inr hgone⟩

/-- Only the owner opens the conversation: messages and reports do not. -/
theorem keeps_openings (hn : Header.size < n) (count : Nat) :
    Drive.Keeps (fun (w : Followed γ) (_ : Link n δ) => w.handler.openings = count) where
  message {w w' m l l'} h hrun := by
    obtain ⟨_, hsame, _⟩ | ⟨_, hadvances⟩ := onMessage_cases hn (Watched.onMessage_ok hrun).1
    · rw [hsame, h]
    · obtain ⟨asked, hminutes⟩ := minutes_of_advances hadvances
      rw [openings, hminutes, List.countP_append, ← h]
      rfl
  report {w w' l l' size} h _ hrun := by
    have hsame := step_of_flushes (onSent_cases hn (Watched.onSent_ok hrun).1)
    rw [openings, hsame, ← h, openings]
  arm _ h := h
  receive _ h := h
  send _ h := h

theorem follow_openings {move : Move} (hn : Header.size < n) (hrun : (move.follow e).result = .ok e') :
    e'.handler.handler.openings = e.handler.handler.openings + if move.isStart then 1 else 0 := by
  cases move with
  | start =>
    obtain ⟨⟨d, link⟩, hstart, hrest⟩ := Run.result_bind_eq_ok.mp hrun
    cases hrest
    obtain ⟨d₁, l₁, hadvance, hadvances⟩ := advance_advances hn e.handler.handler none e.link
    cases hadvance.symm.trans hstart
    obtain ⟨asked, hminutes⟩ := minutes_of_advances hadvances
    show openings d = _
    rw [openings, hminutes, List.countP_append]
    rfl
  | use u =>
    obtain ⟨drive, rfl, hdrive⟩ | ⟨_, hhandler, _⟩ := Use.run_cases hn hrun
    · exact (keeps_openings hn e.handler.handler.openings).run (fun _ => id) rfl hdrive
    · rw [hhandler]
      rfl

theorem followAll_openings {moves : List Move} (hn : Header.size < n)
    (hrun : (Move.followAll e moves).result = .ok e') :
    e'.handler.handler.openings = e.handler.handler.openings + moves.countP Move.isStart := by
  induction moves generalizing e with
  | nil =>
    cases hrun
    rfl
  | cons move rest ih =>
    obtain ⟨e₁, hfirst, hrest⟩ := Run.result_bind_eq_ok.mp hrun
    rw [ih hrest, follow_openings hn hfirst, List.countP_cons]
    omega

end Followed

/-- The endpoint of a dialogue with nothing on record yet. -/
def Endpoint.followed {γ δ : Type} {n : Nat} (e : Endpoint n δ (Dialogue γ)) : Endpoint n δ (Followed γ) :=
  { e with handler := ⟨⟨⟨e.handler.step, []⟩, e.handler.pending, e.handler.failed⟩, []⟩ }

namespace Dialogue

variable {γ δ : Type} {n : Nat} {φ : Type} [Medium δ φ] [Conversation γ]

/-- The requests of a dialogue are started in the order in which they were decided on, each at most once and as it was
decided on. One that was not started is the last one and waits, or waited when the next one was decided on, or fits in
no frame; then the dialogue has failed, and takes no more messages. A message leads to one step at most, and apart from
that there are only the openings by the owner. -/
theorem requests_in_order {medium : δ} {first : γ} {e : Endpoint n δ (Dialogue γ)}
    (hattach : (Endpoint.attach n medium ({ step := first } : Dialogue γ)).result = .ok e) (moves : List Move) :
    Move.runAll e moves = (·.swap (plain ∘ Watched.handler)) <$> Move.followAll e.followed moves ∧
      ∀ f, (Move.followAll e.followed moves).result = .ok f →
        f.handler.Account n (.abandon ∈ moves) (f.isSending = true) { step := { step := first } } ∧
          f.handler.handler.openings = moves.countP Move.isStart := by
  refine ⟨Move.followAll_plain e.followed moves, ?_⟩
  intro f hrun
  obtain ⟨hn, rfl⟩ := Endpoint.attach_ok hattach
  constructor
  · refine Run.foldlM_keeps (fun f : Endpoint n δ (Followed γ) =>
      f.handler.Account n (.abandon ∈ moves) (f.isSending = true) { step := { step := first } }) ?_
      Followed.Account.fresh hrun
    intro move hmem f₁ f₂ hkept hmove
    exact Followed.follow_account hn (fun heq => heq ▸ hmem) hkept hmove
  · exact (Followed.followAll_openings hn hrun).trans (Nat.zero_add _)

/-- The first request of a light reading waits for a frame of the owner, and is replaced by the next one. -/
def impatience : List Move :=
  busyStart ++ [.use (.drive (.accept [0, 128, 0, 0, 2])), .use (.drive (.accept [0, 1])), .use (.drive .sent)]

theorem requests_in_order_impatience : ∃ e f,
    (Endpoint.attach 16 (⟨⟩ : Detached) ({ step := .start 0 } : Dialogue LightMeter)).result = .ok e ∧
      (Move.followAll e.followed impatience).result = .ok f ∧ f.handler.sent = [1] ∧
      f.handler.Unsent 16 (.abandon ∈ impatience) 0 firstRequest := by
  have hattach : (Endpoint.attach 16 (⟨⟩ : Detached) ({ step := .start 0 } : Dialogue LightMeter)).result =
    .ok lightEndpoint := rfl
  have hrun : (Move.followAll lightEndpoint.followed impatience).result.toOption.map
      (fun f => (f.handler.sent, f.handler.handler.decided[0]?)) = some ([1], some firstRequest) := by cbv
  obtain ⟨f, hok, hvalue⟩ := Option.map_eq_some_iff.mp hrun
  have hok := Outcomes.toOption_eq_some.mp hok
  obtain ⟨hsent, hfirst⟩ := Prod.mk.inj hvalue
  obtain ⟨haccount, _⟩ := (requests_in_order hattach impatience).2 f hok
  have hnot : 0 ∉ f.handler.sent := by
    rw [hsent]
    decide
  exact ⟨lightEndpoint, f, hattach, hok, hsent, haccount.unsent 0 firstRequest hfirst hnot⟩

end Dialogue

end BusBridge
