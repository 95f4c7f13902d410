import BusBridge.Proofs.Rounding
/-!
# The script of a light reading

A light reading makes the same five requests whatever it hears, and goes on to the next one only when the response to
the last is accepted. Which responses are accepted is a matter of their status byte and of the length of their body
alone (`LightMeter.Accepts`); neither the header of a message nor the address that it echoes is looked at.

`LightMeter.Stage` says where a reading stands once it has heard some messages. One more input leads from a stage to a
stage (`LightMeter.Stage.hear`), and so does a whole list of them. A stage settles everything that there is to know of a
reading: the requests that were made, whether it is over, and with what.
-/

namespace BusBridge

/-! ## A conversation and its inputs -/

namespace Conversation

variable {γ : Type} [Conversation γ]

/-- One more input for a conversation that has made some requests. -/
def hear (past : γ × List Message) (input : Option Message) : γ × List Message :=
  let (step, request) := (next past.1 input).value
  (step, past.2 ++ request.toList)

/-- Where a conversation gets with its inputs, and the requests that it makes on the way. -/
def feed (step : γ) (inputs : List (Option Message)) : γ × List Message :=
  inputs.foldl hear (step, [])

/-- The input leads to no other step, to no request and to no event. -/
def Ignores (step : γ) (input : Option Message) : Prop :=
  next step input = pure (step, none)

theorem hear_of_next {past : γ × List Message} {input request : Option Message} {step : γ}
    (h : (next past.1 input).value = (step, request)) : hear past input = (step, past.2 ++ request.toList) := by
  rw [hear, h]

theorem Ignores.hear {past : γ × List Message} {input : Option Message} (h : Ignores past.1 input) :
    Conversation.hear past input = past := by
  rw [hear_of_next (congrArg Trace.value h)]
  exact congrArg (Prod.mk past.1) (List.append_nil past.2)

theorem feed_of_ignores {step : γ} {inputs : List (Option Message)} (h : ∀ input ∈ inputs, Ignores step input) :
    feed step inputs = (step, []) := by
  rw [feed]
  induction inputs with
  | nil => rfl
  | cons input inputs ih =>
    rw [List.foldl_cons, Ignores.hear (h input List.mem_cons_self)]
    exact ih fun other hother => h other (List.mem_cons_of_mem _ hother)

end Conversation

/-- A status byte that is not 0 is reported, whatever follows it. -/
theorem Command.readAnswer_nonzero (c : Command) {status : UInt8} (hstatus : status ≠ 0) (body : Bytes) :
    c.readAnswer (status :: body) = .error (.status (.ofByte status)) := by
  have hsplit : splitStatus (status :: body) = .ok (Status.ofByte status, body) := rfl
  have hfailed : Status.ofByte status ≠ .ok := by
    rw [Status.ofByte, if_neg hstatus]
    split_ifs <;> decide
  rw [readAnswer, hsplit]
  cases hcode : Status.ofByte status with
  | ok => exact absurd hcode hfailed
  | unknownError | invalidArguments | slaveNotConnected => rfl

namespace LightMeter

open Conversation (hear feed Ignores)

/-! ## The script -/

/-- The requests of a reading over a channel, in order. -/
def script (channel : UInt8) : List Message :=
  [⟨0, 0, 0, []⟩,
    ⟨1, 0, channel, [1, 1, 1]⟩,
    ⟨1, 1, channel, [0, 0x23, 0x23]⟩,
    ⟨0, 4, 0, [0, 0, 0, 0x1e]⟩,
    ⟨1, 2, channel, [0, 0x23, 2]⟩]

/-- The lengths that the body of a response may have, by the place of its request in the script. -/
def Suffices (place length : Nat) : Prop :=
  if place = 0 then 1 ≤ length
  else if place = 2 then 2 ≤ length
  else if place = 4 then length = 4
  else True

instance (place length : Nat) : Decidable (Suffices place length) :=
  inferInstanceAs (Decidable (ite _ _ _))

/-- The payload is accepted as the response to the request in a place of the script. -/
def Accepts (place : Nat) (payload : Bytes) : Prop :=
  payload.head? = some 0 ∧ Suffices place payload.tail.length

instance (place : Nat) (payload : Bytes) : Decidable (Accepts place payload) :=
  inferInstanceAs (Decidable (_ ∧ _))

/-- The first messages are accepted, one in each place of the script. -/
def AcceptsFirst (count : Nat) (heard : List Message) : Prop :=
  ∀ place < count, ∃ m, heard[place]? = some m ∧ Accepts place m.payload

/-- How a reading fails with a response that is not accepted. -/
def refusal (payload : Bytes) : LightFailure :=
  match payload with
  | [] => .malformed
  | status :: _ => if status = 0 then .malformed else .status (.ofByte status)

/-- The step that waits for the response to the request in a place of the script. -/
def awaiting (channel : UInt8) : Nat → LightMeter
  | 0 => version channel
  | 1 => configured channel
  | 2 => measuring channel
  | 3 => delayed channel
  | _ => reading channel

/-! ## One step -/

section Step

variable {channel : UInt8} {place : Nat} {m : Message}

theorem start_ignores (channel : UInt8) (m : Message) : Ignores (start channel) (some m) := rfl

theorem awaiting_ignores (channel : UInt8) (place : Nat) : Ignores (awaiting channel place) none := by
  unfold awaiting
  split <;> rfl

theorem awaiting_open (channel : UInt8) (place : Nat) : (awaiting channel place).isFinished = false := by
  unfold awaiting
  split <;> rfl

theorem awaiting_inj {other : Nat} (hplace : place < 5) (hother : other < 5)
    (h : awaiting channel place = awaiting channel other) : place = other := by
  interval_cases place <;> interval_cases other <;> first | rfl | cases h

theorem finished_ignores {step : LightMeter} (h : step.isFinished = true) (input : Option Message) :
    Ignores step input := by
  cases step with
  | done | failed => cases input <;> rfl
  | start | version | configured | measuring | delayed | reading => cases h

/-- An accepted response before the last leads to the next request. -/
theorem next_accepted (hplace : place < 4) (h : Accepts place m.payload) :
    (next (awaiting channel place) (some m)).value = (awaiting channel (place + 1), (script channel)[place + 1]?) := by
  obtain ⟨component, operation, c, payload⟩ := m
  obtain ⟨hstatus, hsize⟩ := h
  obtain ⟨body, rfl⟩ := List.head?_eq_some_iff.mp hstatus
  interval_cases place
  · obtain ⟨_, _, rfl⟩ := List.exists_cons_of_length_pos (show 0 < body.length from hsize)
    rfl
  · rfl
  · obtain _ | ⟨_, _ | ⟨_, rest⟩⟩ := body
    · exact absurd (show 2 ≤ 0 from hsize) (by decide)
    · exact absurd (show 2 ≤ 1 from hsize) (by decide)
    · rfl
  · rfl

/-- The last response gives the illuminance if it is accepted. -/
theorem next_last (h : Accepts 4 m.payload) : ∃ a b high low, m.payload = [0, a, b, high, low] ∧
    (next (reading channel) (some m)).value = (done (lux (.ofNat (high.toNat * 256 + low.toNat))), none) := by
  obtain ⟨component, operation, c, payload⟩ := m
  obtain ⟨hstatus, hsize⟩ := h
  obtain ⟨body, rfl⟩ := List.head?_eq_some_iff.mp hstatus
  obtain ⟨a, b, high, low, rfl⟩ := List.length_eq_four.mp (show body.length = 4 from hsize)
  exact ⟨a, b, high, low, rfl, rfl⟩

/-- A response that is not accepted ends the reading. -/
theorem next_refused (hplace : place < 5) (h : ¬Accepts place m.payload) :
    (next (awaiting channel place) (some m)).value = (failed (refusal m.payload), none) := by
  obtain ⟨component, operation, c, payload⟩ := m
  cases payload with
  | nil => interval_cases place <;> rfl
  | cons status body =>
    by_cases hstatus : status = 0
    · subst hstatus
      have hsize : ¬Suffices place body.length := fun hsize => h ⟨rfl, hsize⟩
      interval_cases place
      · obtain rfl : body = [] := List.length_eq_zero_iff.mp (Nat.lt_one_iff.mp (Nat.not_le.mp hsize))
        rfl
      · exact absurd trivial hsize
      · obtain _ | ⟨_, _ | ⟨_, rest⟩⟩ := body
        · rfl
        · rfl
        · exact absurd (Nat.le_add_left 2 rest.length) hsize
      · exact absurd trivial hsize
      · obtain _ | ⟨_, _ | ⟨_, _ | ⟨_, _ | ⟨_, _ | ⟨_, rest⟩⟩⟩⟩⟩ := body
        · rfl
        · rfl
        · rfl
        · rfl
        · exact absurd rfl hsize
        · rfl
    · have hreason : refusal (status :: body) = .status (.ofByte status) := if_neg hstatus
      rw [hreason]
      interval_cases place <;> simp only [awaiting, next, Command.readAnswer_nonzero _ hstatus body] <;> rfl

end Step

/-! ## Where a reading stands -/

/-- What was heard stays where it is. -/
theorem heard_append {heard : List Message} {place : Nat} {m : Message} (hm : heard[place]? = some m)
    (more : List Message) : (heard ++ more)[place]? = some m := by
  obtain ⟨hplace, _⟩ := List.getElem?_eq_some_iff.mp hm
  rw [List.getElem?_append_left hplace, hm]

namespace AcceptsFirst

variable {count place : Nat} {heard : List Message} {m : Message}

theorem none_needed (heard : List Message) : AcceptsFirst 0 heard :=
  fun _ hplace => absurd hplace (Nat.not_lt_zero _)

theorem mono (h : AcceptsFirst count heard) (hplace : place ≤ count) : AcceptsFirst place heard :=
  fun earlier hearlier => h earlier (hearlier.trans_le hplace)

theorem append (h : AcceptsFirst count heard) (more : List Message) : AcceptsFirst count (heard ++ more) := by
  intro place hplace
  obtain ⟨m, hm, haccepted⟩ := h place hplace
  exact ⟨m, heard_append hm more, haccepted⟩

theorem succ (h : AcceptsFirst count heard) (hm : heard[count]? = some m) (haccepted : Accepts count m.payload) :
    AcceptsFirst (count + 1) heard := by
  intro place hplace
  obtain hearlier | rfl := Nat.lt_succ_iff_lt_or_eq.mp hplace
  · exact h place hearlier
  · exact ⟨m, hm, haccepted⟩

theorem le_length (h : AcceptsFirst count heard) : count ≤ heard.length := by
  by_contra hlonger
  obtain ⟨m, hm, _⟩ := h heard.length (Nat.not_le.mp hlonger)
  rw [List.getElem?_length] at hm
  cases hm

theorem accepts (h : AcceptsFirst count heard) (hplace : place < count) (hm : heard[place]? = some m) :
    Accepts place m.payload := by
  obtain ⟨other, hother, haccepted⟩ := h place hplace
  cases hm.symm.trans hother
  exact haccepted

theorem le_refused (h : AcceptsFirst count heard) (hm : heard[place]? = some m) (hrefused : ¬Accepts place m.payload) :
    count ≤ place :=
  Nat.not_lt.mp fun hplace => hrefused (h.accepts hplace hm)

end AcceptsFirst

/-- Where a reading stands that was opened and has heard some messages since, and the requests that it has made. -/
inductive Stage (channel : UInt8) (heard : List Message) : LightMeter × List Message → Prop where
  /-- all that was heard is accepted -/
  | waits : heard.length < 5 → AcceptsFirst heard.length heard →
      Stage channel heard (awaiting channel heard.length, (script channel).take (heard.length + 1))
  | ends {m : Message} {a b high low : UInt8} : AcceptsFirst 5 heard → heard[4]? = some m →
      m.payload = [0, a, b, high, low] →
      Stage channel heard (done (lux (.ofNat (high.toNat * 256 + low.toNat))), script channel)
  /-- the response to the request in some place is the first that is not accepted -/
  | fails {place : Nat} {m : Message} : place < 5 → AcceptsFirst place heard → heard[place]? = some m →
      ¬Accepts place m.payload →
      Stage channel heard (failed (refusal m.payload), (script channel).take (place + 1))

namespace Stage

variable {channel : UInt8} {heard : List Message} {past : LightMeter × List Message}

/-- The request for the version is made when a reading is opened. -/
theorem opened (channel : UInt8) : Stage channel [] (hear (start channel, []) none) :=
  waits (by decide) (.none_needed [])

theorem absent (h : Stage channel heard past) : Ignores past.1 none := by
  cases h with
  | waits => exact awaiting_ignores channel heard.length
  | ends | fails => exact finished_ignores rfl none

/-- A message that is heard leads from stage to stage. -/
theorem message (h : Stage channel heard past) (m : Message) : Stage channel (heard ++ [m]) (hear past (some m)) := by
  cases h with
  | waits hlength hfirst =>
    have hm : (heard ++ [m])[heard.length]? = some m := List.getElem?_concat_length
    have hkept : AcceptsFirst heard.length (heard ++ [m]) := hfirst.append [m]
    by_cases haccepted : Accepts heard.length m.payload
    · have hmore : AcceptsFirst (heard.length + 1) (heard ++ [m]) := hkept.succ hm haccepted
      obtain hearly | hlast := Nat.lt_succ_iff_lt_or_eq.mp hlength
      · have hone : (heard ++ [m]).length = heard.length + 1 := List.length_append
        rw [Conversation.hear_of_next (next_accepted hearly haccepted), ← List.take_add_one, ← hone]
        exact waits (hone ▸ Nat.succ_lt_succ hearly) (hone ▸ hmore)
      · rw [hlast] at hm hmore haccepted ⊢
        obtain ⟨a, b, high, low, hpayload, hnext⟩ := next_last haccepted
        rw [Conversation.hear_of_next hnext]
        exact ends hmore hm hpayload
    · rw [Conversation.hear_of_next (next_refused hlength haccepted)]
      exact List.append_nil _ ▸ fails hlength hkept hm haccepted
  | ends hfirst hlast hpayload =>
    rw [(finished_ignores rfl (some m)).hear]
    exact ends (hfirst.append [m]) (heard_append hlast [m]) hpayload
  | fails hplace hfirst hm hrefused =>
    rw [(finished_ignores rfl (some m)).hear]
    exact fails hplace (hfirst.append [m]) (heard_append hm [m]) hrefused

/-- So does a list of inputs, of which only the messages matter. -/
theorem inputs (h : Stage channel heard past) (inputs : List (Option Message)) :
    Stage channel (heard ++ inputs.filterMap id) (inputs.foldl hear past) := by
  induction inputs generalizing heard past with
  | nil => exact (List.append_nil heard).symm ▸ h
  | cons input inputs ih =>
    cases input with
    | none =>
      rw [List.foldl_cons, h.absent.hear]
      exact ih h
    | some m =>
      have hrest := ih (h.message m)
      rw [List.append_assoc] at hrest
      exact hrest

/-- The request in a place of the script is made exactly if the responses to those before it were accepted. -/
theorem made_iff (h : Stage channel heard past) (place : Nat) :
    place < past.2.length ↔ place < 5 ∧ AcceptsFirst place heard := by
  have hlength (count : Nat) : ((script channel).take (count + 1)).length = min (count + 1) 5 := List.length_take
  cases h with
  | waits hlength' hfirst =>
    rw [hlength, Nat.min_eq_left hlength', Nat.lt_succ_iff]
    exact ⟨fun hplace => ⟨hplace.trans_lt hlength', hfirst.mono hplace⟩, fun hplace => hplace.2.le_length⟩
  | ends hfirst =>
    exact ⟨fun hplace => ⟨hplace, hfirst.mono (Nat.le_of_lt hplace)⟩, fun hplace => hplace.1⟩
  | fails hrefused hfirst hm hnot =>
    rw [hlength, Nat.min_eq_left hrefused, Nat.lt_succ_iff]
    exact ⟨fun hplace => ⟨hplace.trans_lt hrefused, hfirst.mono hplace⟩, fun hplace => hplace.2.le_refused hm hnot⟩

theorem prefix_script (h : Stage channel heard past) : past.2 <+: script channel := by
  cases h with
  | waits | fails => exact List.take_prefix _ _
  | ends => exact List.prefix_refl _

/-- The messages that were heard leave no choice of the stage. -/
theorem unique {past' : LightMeter × List Message} (h : Stage channel heard past) (h' : Stage channel heard past') :
    past = past' := by
  cases h with
  | waits hlength hfirst =>
    cases h' with
    | waits => rfl
    | ends hfirst' => exact absurd hlength (Nat.not_lt.mpr hfirst'.le_length)
    | fails _ _ hm hrefused => exact absurd (hfirst.accepts (List.getElem?_eq_some_iff.mp hm).1 hm) hrefused
  | ends hfirst hm hpayload =>
    cases h' with
    | waits hlength => exact absurd hlength (Nat.not_lt.mpr hfirst.le_length)
    | ends _ hm' hpayload' =>
      cases hm.symm.trans hm'
      cases hpayload.symm.trans hpayload'
      rfl
    | fails hplace _ hm' hrefused => exact absurd (hfirst.accepts hplace hm') hrefused
  | fails hplace hfirst hm hrefused =>
    cases h' with
    | waits _ hfirst' => exact absurd (hfirst'.accepts (List.getElem?_eq_some_iff.mp hm).1 hm) hrefused
    | ends hfirst' => exact absurd (hfirst'.accepts hplace hm) hrefused
    | fails _ hfirst' hm' hrefused' =>
      obtain rfl := Nat.le_antisymm (hfirst.le_refused hm' hrefused') (hfirst'.le_refused hm hrefused)
      cases hm.symm.trans hm'
      rfl

end Stage

/-- The messages that a reading hears once it is open: those after the first input without a message. -/
def heard (inputs : List (Option Message)) : List Message :=
  (inputs.dropWhile Option.isSome).filterMap id

/-- A reading that was opened is at the stage of what it has heard since. -/
theorem feed_stage (channel : UInt8) {inputs : List (Option Message)} (hopened : none ∈ inputs) :
    Stage channel (heard inputs) (feed (start channel) inputs) := by
  induction inputs with
  | nil => cases hopened
  | cons input inputs ih =>
    cases input with
    | none => exact (Stage.opened channel).inputs inputs
    | some m =>
      obtain heq | hlater := List.mem_cons.mp hopened
      · cases heq
      · exact ih hlater

/-- What a reading over a channel that was opened comes to, from the messages that it has heard since. -/
structure Follows (channel : UInt8) (heard : List Message) (past : LightMeter × List Message) : Prop where
  /-- the requests are the first ones of the script -/
  requests : past.2 <+: script channel
  /-- there is one more after each response that is accepted -/
  made_iff (place : Nat) : place < past.2.length ↔ place < 5 ∧ AcceptsFirst place heard
  awaiting_iff (place : Nat) : place < 5 →
    (past.1 = awaiting channel place ↔ heard.length = place ∧ AcceptsFirst place heard)
  done_iff (illuminance : UInt32) : past.1 = done illuminance ↔ AcceptsFirst 5 heard ∧ ∃ m a b high low,
    heard[4]? = some m ∧ m.payload = [0, a, b, high, low] ∧ illuminance = lux (.ofNat (high.toNat * 256 + low.toNat))
  /-- the illuminance is the last two bytes divided by 1.2, both rounded to single precision -/
  done_rounds (illuminance : UInt32) : past.1 = done illuminance → ∃ m a b high low divisor,
    heard[4]? = some m ∧ m.payload = [0, a, b, high, low] ∧ Single.Rounds (12 / 10) divisor ∧
      Single.Rounds ((high.toNat * 256 + low.toNat : Nat) / Single.value divisor) illuminance
  failed_iff (reason : LightFailure) : past.1 = failed reason ↔ ∃ place < 5, AcceptsFirst place heard ∧
    ∃ m, heard[place]? = some m ∧ ¬Accepts place m.payload ∧ reason = refusal m.payload
  within_capacity : past.1 ≠ failed .capacity
  absent_ignored : Ignores past.1 none
  finished_kept : past.1.isFinished = true → ∀ more, feed past.1 more = (past.1, [])

theorem refusal_ne_capacity (payload : Bytes) : refusal payload ≠ .capacity := by
  unfold refusal
  split
  · decide
  · split_ifs <;> (intro heq; cases heq)

theorem Stage.ends_of_done {channel : UInt8} {heard : List Message} {past : LightMeter × List Message}
    {illuminance : UInt32} (h : Stage channel heard past) (hpast : past.1 = done illuminance) :
    AcceptsFirst 5 heard ∧ ∃ m a b high low, heard[4]? = some m ∧ m.payload = [0, a, b, high, low] ∧
      illuminance = lux (.ofNat (high.toNat * 256 + low.toNat)) := by
  cases h with
  | waits => cases (awaiting_open channel heard.length).symm.trans (congrArg isFinished hpast)
  | ends hfirst hm hpayload =>
    cases hpast
    exact ⟨hfirst, _, _, _, _, _, hm, hpayload, rfl⟩
  | fails => cases hpast

theorem Stage.follows {channel : UInt8} {heard : List Message} {past : LightMeter × List Message}
    (h : Stage channel heard past) : Follows channel heard past where
  requests := h.prefix_script
  made_iff := h.made_iff
  awaiting_iff := by
    intro place hplace
    constructor
    · intro hpast
      cases h with
      | waits hlength hfirst =>
        obtain rfl := awaiting_inj hlength hplace hpast
        exact ⟨rfl, hfirst⟩
      | ends | fails => cases (congrArg isFinished hpast).trans (awaiting_open channel place)
    · rintro ⟨rfl, hfirst⟩
      exact congrArg Prod.fst (h.unique (waits hplace hfirst))
  done_iff := by
    intro illuminance
    constructor
    · exact h.ends_of_done
    · rintro ⟨hfirst, m, a, b, high, low, hm, hpayload, rfl⟩
      exact congrArg Prod.fst (h.unique (ends hfirst hm hpayload))
  done_rounds := by
    intro illuminance hpast
    obtain ⟨_, m, a, b, high, low, hm, hpayload, rfl⟩ := h.ends_of_done hpast
    exact ⟨m, a, b, high, low, divisor, hm, hpayload, divisor_rounds, lux_bytes_rounds high low⟩
  failed_iff := by
    intro reason
    constructor
    · intro hpast
      cases h with
      | waits => cases (awaiting_open channel heard.length).symm.trans (congrArg isFinished hpast)
      | ends => cases hpast
      | fails hplace hfirst hm hrefused =>
        cases hpast
        exact ⟨_, hplace, hfirst, _, hm, hrefused, rfl⟩
    · rintro ⟨place, hplace, hfirst, m, hm, hrefused, rfl⟩
      exact congrArg Prod.fst (h.unique (fails hplace hfirst hm hrefused))
  within_capacity := by
    intro hpast
    cases h with
    | waits => cases (awaiting_open channel heard.length).symm.trans (congrArg isFinished hpast)
    | ends => cases hpast
    | fails => exact refusal_ne_capacity _ (failed.inj hpast)
  absent_ignored := h.absent
  finished_kept hfinished more := Conversation.feed_of_ignores fun input _ => finished_ignores hfinished input

/-- A light reading follows its script, whatever it is given. Until it is opened nothing happens. From then on it comes
to what the messages since make of it. -/
theorem script_followed (channel : UInt8) (inputs : List (Option Message)) :
    (none ∉ inputs → feed (start channel) inputs = (start channel, [])) ∧
      (none ∈ inputs → Follows channel (heard inputs) (feed (start channel) inputs)) := by
  constructor
  · intro hclosed
    apply Conversation.feed_of_ignores
    intro input hinput
    cases input with
    | none => exact absurd hinput hclosed
    | some m => exact start_ignores channel m
  · intro hopened
    exact (feed_stage channel hopened).follows

/-- A reading over channel 3 that hears a message too early, and is opened twice. -/
def brightReading : List (Option Message) :=
  [some ⟨0, 0x80, 0, [0, 1]⟩, none, some ⟨0, 0x80, 0, [0, 1]⟩, none, some ⟨1, 0x80, 3, [0]⟩,
    some ⟨1, 0x81, 3, [0, 0, 0x23]⟩, some ⟨0, 0x84, 0, [0]⟩, some ⟨1, 0x82, 3, [0, 0, 0x23, 1, 2]⟩]

/-- The sensor of this reading does not acknowledge that it is to measure. -/
def deafReading : List (Option Message) :=
  brightReading.take 5 ++ [some ⟨1, 0x81, 3, [3, 0, 0x23]⟩, some ⟨0, 0x84, 0, [0]⟩]

theorem script_followed_channel_three :
    none ∉ brightReading.take 1 ∧ feed (start 3) (brightReading.take 1) = (start 3, []) ∧
      none ∈ brightReading ∧ feed (start 3) brightReading = (done 0x4356ffff, script 3) ∧
      none ∈ deafReading ∧ (feed (start 3) deafReading).1 = failed (.status .slaveNotConnected) ∧
      ¬3 < (feed (start 3) deafReading).2.length := by
  have hclosed : none ∉ brightReading.take 1 := by decide
  have hbright : none ∈ brightReading := by decide
  have hdeaf : none ∈ deafReading := by decide
  refine ⟨hclosed, (script_followed 3 (brightReading.take 1)).1 hclosed, hbright, ?_, hdeaf, ?_, ?_⟩
  · have hfollows := (script_followed 3 brightReading).2 hbright
    have hfirst : AcceptsFirst 5 (heard brightReading) := by
      intro place hplace
      interval_cases place <;> exact ⟨_, rfl, by decide⟩
    have hmade := (hfollows.made_iff 4).mpr ⟨by decide, hfirst.mono (by decide)⟩
    exact Prod.ext ((hfollows.done_iff _).mpr ⟨hfirst, _, 0, 0x23, 1, 2, rfl, rfl, by decide⟩)
      (hfollows.requests.eq_of_length_le hmade)
  · have hfirst : AcceptsFirst 2 (heard deafReading) := by
      intro place hplace
      interval_cases place <;> exact ⟨_, rfl, by decide⟩
    exact (((script_followed 3 deafReading).2 hdeaf).failed_iff _).mpr
      ⟨2, by decide, hfirst, _, rfl, by decide, rfl⟩
  · rw [((script_followed 3 deafReading).2 hdeaf).made_iff]
    rintro ⟨_, hfirst⟩
    exact absurd (hfirst.accepts (by decide : 2 < 3) rfl) (by decide)

end LightMeter

end BusBridge
