import Mathlib
import BusBridge.Proofs.Dispatch
import BusBridge.Proofs.Feeding
import BusBridge.Proofs.Watching
import BusBridge.Proofs.Writing
/-!
# One outcome for each request

A router is given requests while frames come and go on its link, in any order. `Router.Settled` says what can become of
one of them: nobody takes it, it comes while a response is still being sent, its service does not know the operation, or
its service replies. Exactly one count goes up, as far as a counter goes. Only in the last two cases a service is
called, the one of the component, once, and on an idle link; what it asks for is `Handling.answer?`.

`Router.History` puts these occasions one after the other, each with the router that the one before left.
`requests_settled_once` reads the whole run off it. The frames that were started are the answers, in order, except
for those that no frame can hold. With frames of at most `Header.size + maxPayload` bytes there are none of these,
since a service cannot write more than the send buffer holds; in a larger buffer a reply can be counted as handled
and never be sent (`long_reply_unsent`).
-/

namespace BusBridge

/-! ## Calls of services -/

/-- A call of a service: the service as it was found, the request, and the space that it was given for its reply. -/
structure Handling (κ : Type) where
  service : κ
  request : Message
  block : Bytes

namespace Handling

variable {κ : Type} [Service κ]

/-- How the call ended, the reply that it left, and the service after it. -/
def left (h : Handling κ) : Except CapacityError Outcome × Reply × κ :=
  (Service.handle h.service h.request (.start h.request.operation h.block)).value

def after (h : Handling κ) : κ :=
  h.left.2.2

/-- The response that the call asks for: what the service wrote, or a failure status if it ran out of room. -/
def answer? (h : Handling κ) : Option Message :=
  match h.left with
  | (.ok .replied, reply, _) => some ⟨h.request.component, reply.operation, h.request.channel, reply.written⟩
  | (.ok .notImplemented, _, _) => none
  | (.error _, _, _) =>
    some ⟨h.request.component, responseTo h.request.operation, h.request.channel, wire Status.unknownError⟩

/-- The responses that calls ask for. -/
def answers (handlings : List (Handling κ)) : List Message :=
  handlings.filterMap answer?

theorem answers_append (before after : List (Handling κ)) :
    answers (before ++ after) = answers before ++ answers after :=
  List.filterMap_append

/-- The service of a component after calls. -/
def serviceAfter (component : UInt8) (found : Option κ) (handlings : List (Handling κ)) : Option κ :=
  handlings.foldl (fun service h => if h.request.component = component then some h.after else service) found

variable [WritesInPlace κ]

theorem length_left (h : Handling κ) : h.left.2.1.draft.block.length = h.block.length :=
  (WritesInPlace.edits h.service h.request (.start h.request.operation h.block)).length_block

/-- An answer fits in the space that was given. -/
theorem length_answer {h : Handling κ} {answer : Message} (hroom : 0 < h.block.length)
    (hanswer : h.answer? = some answer) : answer.payload.length ≤ h.block.length := by
  have hblock := h.length_left
  unfold answer? at hanswer
  rcases hleft : h.left with ⟨outcome, reply, service⟩
  rw [hleft] at hanswer hblock
  rcases outcome with full | outcome
  · cases hanswer
    exact hroom
  · cases outcome with
    | notImplemented => cases hanswer
    | replied =>
      cases hanswer
      calc reply.written.length = reply.draft.length := Draft.length_written _
        _ ≤ reply.draft.block.length := reply.draft.length_le
        _ = h.block.length := hblock

/-- The router makes of a call what the call asks for. -/
theorem reply_value (h : Handling κ) (hroom : 0 < h.block.length) :
    (h.answer? = none ∧
      ∃ reply, (Router.reply h.service h.request h.block).value = (.notImplemented, reply, h.after)) ∨
    ∃ reply, h.answer? = some ⟨h.request.component, reply.operation, h.request.channel, reply.written⟩ ∧
      (Router.reply h.service h.request h.block).value = (.replied, reply, h.after) := by
  have hblock := h.length_left
  unfold answer? after
  rcases hleft : h.left with ⟨outcome, reply, service⟩
  rw [hleft] at hblock
  have hhandle : (Service.handle h.service h.request (.start h.request.operation h.block)).value =
      (outcome, reply, service) := hleft
  rcases outcome with full | outcome
  · -- the reply starts again, and a status fits since there is room for a byte
    have hblank : ({ reply.clear with operation := responseTo h.request.operation } : Reply).Blank
        (.other h.request.component h.request.operation) h.block.length := ⟨rfl, rfl, hblock⟩
    obtain ⟨reply', hput, hoperation, _, hwritten, _⟩ :=
      hblank.put (show [wire Status.unknownError].flatten.length ≤ _ from hroom)
    refine .inr ⟨reply', ?_, ?_⟩
    · rw [hwritten, hoperation]
      rfl
    · simp only [Router.reply, Trace.value_bind, hhandle, Trace.value_pure, hput]
  · have hvalue : (Router.reply h.service h.request h.block).value = (outcome, reply, service) := by
      simp only [Router.reply, Trace.value_bind, hhandle, Trace.value_pure]
    cases outcome with
    | notImplemented => exact .inl ⟨rfl, reply, hvalue⟩
    | replied => exact .inr ⟨reply, rfl, hvalue⟩

end Handling

/-! ## What becomes of a request -/

namespace Tally

def total (t : Tally) : Nat :=
  t.handled.value + t.unknownComponent.value + t.unknownOperation.value + t.overrun.value

/-- From one tally to the other so many requests were counted, each in one place, and so many of them as handled. -/
def Counts (t t' : Tally) (requests handled : Nat) : Prop :=
  ∃ unknownComponent unknownOperation overrun, handled + unknownComponent + unknownOperation + overrun = requests ∧
    t' = ⟨t.handled.plus handled, t.unknownComponent.plus unknownComponent, t.unknownOperation.plus unknownOperation,
      t.overrun.plus overrun⟩

theorem Counts.refl (t : Tally) : t.Counts t 0 0 :=
  ⟨0, 0, 0, rfl, by simp only [Counter.plus_zero]⟩

theorem Counts.trans {t t₁ t₂ : Tally} {requests₁ requests₂ handled₁ handled₂ : Nat}
    (h₁ : t.Counts t₁ requests₁ handled₁) (h₂ : t₁.Counts t₂ requests₂ handled₂) :
    t.Counts t₂ (requests₁ + requests₂) (handled₁ + handled₂) := by
  obtain ⟨component₁, operation₁, overrun₁, hsum₁, rfl⟩ := h₁
  obtain ⟨component₂, operation₂, overrun₂, hsum₂, rfl⟩ := h₂
  refine ⟨component₁ + component₂, operation₁ + operation₂, overrun₁ + overrun₂, by omega, ?_⟩
  simp only [Counter.plus_plus]

/-- As long as the counters can show it, together they show the number of requests. -/
theorem Counts.total {t t' : Tally} {requests handled : Nat} (h : t.Counts t' requests handled)
    (hbelow : t.total + requests ≤ Counter.largest) : t'.total = t.total + requests := by
  obtain ⟨unknownComponent, unknownOperation, overrun, hsum, rfl⟩ := h
  simp only [Tally.total, Counter.value_plus] at *
  omega

end Tally

/-- An update changes one service. -/
theorem Router.get?_update {κ : Type} (r : Router κ) (component : UInt8) (service : κ) (id : UInt8) :
    (r.update component service).get? id = (r.get? id).map fun found => if id = component then service else found := by
  unfold get? update
  induction r.services with
  | nil => rfl
  | cons first rest ih =>
    obtain ⟨place, found⟩ := first
    by_cases hplace : id = place
    · subst hplace
      by_cases hcomponent : id = component <;> simp [hcomponent]
    · have hbeq : (id == place) = false := beq_false_of_ne hplace
      by_cases hcomponent : place = component
      · subst hcomponent
        simpa [List.lookup_cons, hbeq] using ih
      · simpa [List.lookup_cons, hbeq, hcomponent] using ih

/-- The call was made for a request that found its service and an idle link. -/
structure Handling.For {κ : Type} (h : Handling κ) (n : Nat) (o : Occasion (Router κ)) (m : Message) : Prop where
  found : o.before.get? m.component = some h.service
  idle : o.armed = none
  request : h.request = m
  room : h.block.length = n - Header.size

namespace Router

variable {κ : Type} [Service κ] {n : Nat}

/-- What became of a request on an occasion, and the call that it led to. -/
inductive Settled (n : Nat) (o : Occasion (Router κ)) (m : Message) : Option (Handling κ) → Prop where
  /-- nobody takes the request -/
  | unknownComponent : o.before.get? m.component = none →
      o.after = { o.before with tally.unknownComponent := o.before.tally.unknownComponent.plus 1 } →
      o.left = o.armed → Settled n o m none
  /-- the response before is still being sent -/
  | overrun {service : κ} {frame : Bytes} : o.before.get? m.component = some service → o.armed = some frame →
      o.after = { o.before with tally.overrun := o.before.tally.overrun.plus 1 } →
      o.left = o.armed → Settled n o m none
  /-- the service does not know the operation -/
  | unknownOperation {h : Handling κ} : h.For n o m → h.answer? = none →
      o.after = { o.before.update m.component h.after with
        tally.unknownOperation := o.before.tally.unknownOperation.plus 1 } →
      o.left = none → Settled n o m (some h)
  /-- the service replied, and the answer is sent if a frame can hold it -/
  | handled {h : Handling κ} {answer : Message} : h.For n o m → h.answer? = some answer →
      o.after = { o.before.update m.component h.after with tally.handled := o.before.tally.handled.plus 1 } →
      o.left = (if answer.payload.length ≤ maxPayload then some answer.frame else none) → Settled n o m (some h)

/-- A dispatch settles its request. -/
theorem settled_of_dispatch [WritesInPlace κ] {δ φ : Type} [Medium δ φ] {r r' : Router κ} {m : Message}
    {l l' : Link n δ} (hn : Header.size < n) (hrun : (r.dispatch m l).result = .ok (r', l')) :
    ∃ handling?, Settled n ⟨some m, r, r', l.armed?, l'.armed?⟩ m handling? := by
  obtain ⟨r₁, l₁, hresult, hsettles⟩ := r.dispatch_settles m l hn
  cases hresult.symm.trans hrun
  have hlength := l.length_payload
  have hroom : 0 < l.payload.length := by omega
  have hfor : ∀ {service : κ} {after : Router κ} {left : Option Bytes}, r.get? m.component = some service →
      l.sending = none → (⟨service, m, l.payload⟩ : Handling κ).For n ⟨some m, r, after, l.armed?, left⟩ m :=
    fun hget hidle => ⟨hget, Link.armed?_idle hidle, rfl, hlength⟩
  cases hsettles with
  | unknownComponent hget => exact ⟨none, .unknownComponent hget rfl rfl⟩
  | overrun hget hbusy =>
    obtain ⟨size, hsize⟩ := Option.isSome_iff_exists.mp hbusy
    exact ⟨none, .overrun hget (show l.armed? = _ by rw [Link.armed?, hsize]; rfl) rfl rfl⟩
  | @unknownOperation service service' reply hget hidle hreply =>
    obtain ⟨hnone, reply', hvalue⟩ | ⟨reply', _, hvalue⟩ := Handling.reply_value ⟨service, m, l.payload⟩ hroom
    · cases hvalue.symm.trans hreply
      exact ⟨_, .unknownOperation (hfor hget hidle) hnone rfl (Link.armed?_idle hidle)⟩
    · cases hvalue.symm.trans hreply
  | @response service service' reply l' hget hreply _ hcarries =>
    obtain ⟨_, reply', hvalue⟩ | ⟨reply', hsome, hvalue⟩ := Handling.reply_value ⟨service, m, l.payload⟩ hroom
    · cases hvalue.symm.trans hreply
    · cases hvalue.symm.trans hreply
      exact ⟨_, .handled (hfor hget hcarries.idle) hsome rfl (hcarries.armed.trans (if_pos hcarries.max).symm)⟩
  | @unsent service service' reply hget hidle hreply hfull =>
    obtain ⟨_, reply', hvalue⟩ | ⟨reply', hsome, hvalue⟩ := Handling.reply_value ⟨service, m, l.payload⟩ hroom
    · cases hvalue.symm.trans hreply
    · cases hvalue.symm.trans hreply
      -- the reply fits in the buffer, so it is the length field that cannot hold it
      have hfits : reply.written.length ≤ l.payload.length := Handling.length_answer hroom hsome
      have hlong : ¬reply.written.length ≤ maxPayload := by
        intro hmax
        rw [hlength] at hfits
        rw [← reply.draft.length_written] at hfull
        exact hfull ⟨hfits, hmax⟩
      exact ⟨_, .handled (hfor hget hidle) hsome rfl ((Link.armed?_idle (l := l.writePayload _) hidle).trans
        (if_neg hlong).symm)⟩

/-! ### One occasion -/

section Step

variable {o : Occasion (Router κ)} {m : Message} {handling? : Option (Handling κ)}

/-- Exactly one count goes up, by one. -/
theorem Settled.counts (h : Settled n o m handling?) :
    o.before.tally.Counts o.after.tally 1 (Handling.answers handling?.toList).length := by
  cases h with
  | unknownComponent _ hafter _ => exact ⟨1, 0, 0, rfl, by rw [hafter]; simp [Handling.answers]⟩
  | overrun _ _ hafter _ => exact ⟨0, 0, 1, rfl, by rw [hafter]; simp [Handling.answers]⟩
  | unknownOperation _ hanswer hafter _ =>
    refine ⟨0, 1, 0, by simp [Handling.answers, hanswer], ?_⟩
    rw [hafter]
    simp [Handling.answers, hanswer, update]
  | handled _ hanswer hafter _ =>
    refine ⟨0, 0, 0, by simp [Handling.answers, hanswer], ?_⟩
    rw [hafter]
    simp [Handling.answers, hanswer, update]

/-- Only the service that was called is changed. -/
theorem Settled.serviceAfter (h : Settled n o m handling?) (component : UInt8) :
    o.after.get? component = Handling.serviceAfter component (o.before.get? component) handling?.toList := by
  cases h with
  | unknownComponent _ hafter _ | overrun _ _ hafter _ =>
    rw [hafter]
    rfl
  | @unknownOperation h hfor _ hafter _ | @handled h _ hfor _ hafter _ =>
    have hget : o.after.get? component = (o.before.update m.component h.after).get? component := by rw [hafter]; rfl
    rw [hget, get?_update]
    simp only [Option.toList_some, Handling.serviceAfter, List.foldl_cons, List.foldl_nil, hfor.request]
    by_cases hcomponent : m.component = component
    · subst hcomponent
      simp [hfor.found]
    · simp [hcomponent, Ne.symm hcomponent]

/-- A frame is started for an answer that a frame can hold, and for nothing else. -/
theorem Settled.started (h : Settled n o m handling?) :
    o.started.toList =
      ((Handling.answers handling?.toList).filter fun a => a.payload.length ≤ maxPayload).map Message.frame := by
  unfold Occasion.started
  cases h with
  | unknownComponent _ _ hleft =>
    rw [hleft]
    cases o.armed <;> rfl
  | overrun _ harmed _ _ =>
    rw [harmed]
    rfl
  | unknownOperation hfor hanswer _ hleft =>
    rw [hfor.idle, hleft]
    simp [Handling.answers, hanswer]
  | @handled h answer hfor hanswer _ hleft =>
    rw [hfor.idle, hleft]
    by_cases hmax : answer.payload.length ≤ maxPayload <;> simp [Handling.answers, hanswer, hmax]

theorem Settled.requests (h : Settled n o m handling?) : (handling?.toList.map Handling.request).Sublist [m] := by
  cases h with
  | unknownComponent | overrun => exact List.nil_sublist _
  | unknownOperation hfor _ _ _ | handled hfor _ _ _ => exact hfor.request ▸ List.Sublist.refl _

/-- What is answered fits in the buffer. -/
theorem Settled.fits [WritesInPlace κ] (hn : Header.size < n) (h : Settled n o m handling?) :
    ∀ a ∈ Handling.answers handling?.toList, a.payload.length ≤ n - Header.size := by
  cases h with
  | unknownComponent | overrun =>
    intro a ha
    cases ha
  | @unknownOperation h hfor _ _ _ | @handled h _ hfor _ _ _ =>
    intro a ha
    have hanswer : h.answer? = some a := by simpa [Handling.answers] using ha
    have hlength := Handling.length_answer (by rw [hfor.room]; omega) hanswer
    rwa [hfor.room] at hlength

end Step

/-! ### A run -/

/-- The occasions of a run, each with the router that the one before left, and the calls that they led to. -/
inductive History (n : Nat) (r : Router κ) : List (Occasion (Router κ)) → List (Handling κ) → Router κ → Prop where
  | start : History n r [] [] r
  | request {log : List (Occasion (Router κ))} {handlings : List (Handling κ)} {o : Occasion (Router κ)} {m : Message}
      {handling? : Option (Handling κ)} : History n r log handlings o.before → o.message = some m →
      Settled n o m handling? → History n r (log ++ [o]) (handlings ++ handling?.toList) o.after
  /-- the report of a sent frame changes nothing -/
  | report {log : List (Occasion (Router κ))} {handlings : List (Handling κ)} {o : Occasion (Router κ)} :
      History n r log handlings o.before → o.message = none → o.after = o.before → o.left = o.armed →
      History n r (log ++ [o]) handlings o.after

namespace History

variable {r r' : Router κ} {log : List (Occasion (Router κ))} {handlings : List (Handling κ)}

/-- As many counts went up as requests were given, and that of handled requests as often as there are answers. -/
theorem counts (h : History n r log handlings r') :
    r.tally.Counts r'.tally (log.filterMap Occasion.message).length (Handling.answers handlings).length := by
  induction h with
  | start => exact .refl _
  | request _ hmessage hsettled ih =>
    rw [Handling.answers_append, List.filterMap_append, List.length_append, List.length_append]
    simpa [hmessage] using ih.trans hsettled.counts
  | report _ hmessage hsame _ ih =>
    rw [hsame, List.filterMap_append]
    simpa [hmessage] using ih

/-- The services are what their own calls made of them. -/
theorem serviceAfter (h : History n r log handlings r') (component : UInt8) :
    r'.get? component = Handling.serviceAfter component (r.get? component) handlings := by
  induction h with
  | start => rfl
  | request _ _ hsettled ih =>
    rw [hsettled.serviceAfter, ih]
    exact (List.foldl_append ..).symm
  | report _ _ hsame _ ih => rw [hsame, ih]

/-- The calls are for requests that were given, at most one for each, in their order. -/
theorem requests (h : History n r log handlings r') :
    (handlings.map Handling.request).Sublist (log.filterMap Occasion.message) := by
  induction h with
  | start => exact .slnil
  | request _ hmessage hsettled ih =>
    rw [List.map_append, List.filterMap_append]
    refine ih.append ?_
    simpa [hmessage] using hsettled.requests
  | report _ hmessage _ _ ih =>
    rw [List.filterMap_append]
    simpa [hmessage] using ih

theorem started (h : History n r log handlings r') :
    log.filterMap Occasion.started =
      ((Handling.answers handlings).filter fun a => a.payload.length ≤ maxPayload).map Message.frame := by
  induction h with
  | start => rfl
  | @request log handlings o m handling? _ _ hsettled ih =>
    have hlast : [o].filterMap Occasion.started = o.started.toList := by
      cases hstarted : o.started <;> simp [hstarted]
    rw [List.filterMap_append, ih, hlast, hsettled.started, Handling.answers_append, List.filter_append,
      List.map_append]
  | @report log handlings o _ _ _ hleft ih =>
    have hlast : [o].filterMap Occasion.started = [] := by
      unfold Occasion.started
      cases harmed : o.armed <;> simp [hleft, harmed]
    rw [List.filterMap_append, ih, hlast, List.append_nil]

theorem fits [WritesInPlace κ] (hn : Header.size < n) (h : History n r log handlings r') :
    ∀ a ∈ Handling.answers handlings, a.payload.length ≤ n - Header.size := by
  induction h with
  | start =>
    intro a ha
    cases ha
  | request _ _ hsettled ih =>
    intro a ha
    rw [Handling.answers_append, List.mem_append] at ha
    rcases ha with hbefore | hlast
    · exact ih a hbefore
    · exact hsettled.fits hn a hlast
  | report _ _ _ _ ih => exact ih

/-- In a buffer of no more than a frame can hold, every answer is started. -/
theorem started_all [WritesInPlace κ] (hn : Header.size < n) (hsmall : n ≤ Header.size + maxPayload)
    (h : History n r log handlings r') :
    log.filterMap Occasion.started = (Handling.answers handlings).map Message.frame := by
  have hall : (Handling.answers handlings).filter (fun a => a.payload.length ≤ maxPayload) =
      Handling.answers handlings := by
    rw [List.filter_eq_self]
    intro a ha
    have hfits := h.fits hn a ha
    exact decide_eq_true (by omega)
  rw [h.started, hall]

section Occasions

variable {δ φ : Type} [Medium δ φ] {w w' : Watched (Router κ)} {l l' : Link n δ}

theorem onMessage [WritesInPlace κ] (hn : Header.size < n) {m : Message} (h : History n r w.log handlings w.handler)
    (hrun : (Handler.onMessage w m l).result = .ok (w', l')) :
    ∃ handlings', History n r w'.log handlings' w'.handler := by
  obtain ⟨hinner, hlog⟩ := Watched.onMessage_ok hrun
  obtain ⟨handling?, hsettled⟩ := settled_of_dispatch hn hinner
  rw [hlog]
  exact ⟨_, .request (o := ⟨some m, w.handler, w'.handler, l.armed?, l'.armed?⟩) h rfl hsettled⟩

theorem onSent (h : History n r w.log handlings w.handler) (hrun : (Handler.onSent w l).result = .ok (w', l')) :
    History n r w'.log handlings w'.handler := by
  obtain ⟨hinner, hlog⟩ := Watched.onSent_ok hrun
  have hsame : w.handler = w'.handler ∧ l = l' := Prod.mk.inj (Except.ok.inj hinner)
  rw [hlog]
  exact .report (o := ⟨none, w.handler, w'.handler, l.armed?, l'.armed?⟩) h rfl hsame.1.symm
    (congrArg Link.armed? hsame.2.symm)

end Occasions

end History

end Router

/-- An endpoint whose handler is watched from now on. -/
def Endpoint.watched {n : Nat} {δ η : Type} (e : Endpoint n δ η) : Endpoint n δ (Watched η) :=
  ⟨e.link, e.inbox, e.reception, ⟨e.handler, []⟩, e.oversized⟩

/-- However a bridge is moved on, its requests are settled one by one (`Router.History`). Each of them makes one count
go up, so together the counters show the number of requests as long as they can; the calls of services are for requests
that were given, at most one for each, and the services are what these calls made of them. The frames that were started
are the answers of the calls, in order, except for those with more payload than a frame can declare, and these are none
unless the buffer holds more than the largest frame. -/
theorem requests_settled_once {κ δ φ : Type} {n : Nat} [Service κ] [WritesInPlace κ] [Medium δ φ] (hn : Header.size < n)
    (e : Endpoint n δ (Router κ)) (drives : List Drive) :
    (Drive.runAll e.watched drives).result = .error .exhausted ∨
    ∃ e' handlings, (Drive.runAll e.watched drives).result = .ok e' ∧
      Router.History n e.handler e'.handler.log handlings e'.handler.handler ∧
      e.handler.tally.Counts e'.handler.handler.tally (e'.handler.log.filterMap Occasion.message).length
        (Handling.answers handlings).length ∧
      (e.handler.tally.total + (e'.handler.log.filterMap Occasion.message).length ≤ Counter.largest →
        e'.handler.handler.tally.total = e.handler.tally.total + (e'.handler.log.filterMap Occasion.message).length) ∧
      (handlings.map Handling.request).Sublist (e'.handler.log.filterMap Occasion.message) ∧
      (∀ component, e'.handler.handler.get? component =
        Handling.serviceAfter component (e.handler.get? component) handlings) ∧
      e'.handler.started =
        ((Handling.answers handlings).filter fun a => a.payload.length ≤ maxPayload).map Message.frame ∧
      (n ≤ Header.size + maxPayload → e'.handler.started = (Handling.answers handlings).map Message.frame) := by
  obtain ⟨e', hrun⟩ | hstop := Drive.runAll_returns (Watched.returns Router.returns) hn e.watched drives
  · obtain ⟨handlings, h⟩ : ∃ handlings, Router.History n e.handler e'.handler.log handlings e'.handler.handler :=
      Drive.runAll_keeps (fun w => ∃ handlings, Router.History n e.handler w.log handlings w.handler)
        (fun ⟨_, h⟩ hmessage => h.onMessage hn hmessage) (fun ⟨_, h⟩ hsent => ⟨_, h.onSent hsent⟩) ⟨[], .start⟩ hrun
    exact .inr ⟨e', handlings, hrun, h, h.counts, h.counts.total, h.requests, h.serviceAfter, h.started,
      fun hsmall => h.started_all hn hsmall⟩
  · exact .inl hstop

/-- A bridge with a service that replies, then does not know the operation, then runs out of room. -/
def smallBridge : Endpoint 8 Detached (Router Bench.Device) :=
  ⟨.idle ⟨⟩, .zeroed 8, .header,
    { capacity := 1
      services := [(7, .scripted [⟨[.setOperation 9, .draft (.put [0, 65])], .replied⟩, ⟨[], .notImplemented⟩,
        ⟨[.draft (.put [0, 66]), .draft (.put [67, 68])], .replied⟩])] }, 0⟩

/-- Requests to a service and to nobody. The third one comes while the response to the first one is being sent. -/
def mixedDrives : List Drive :=
  [.accept [7, 1, 0, 0, 0], .accept [8, 1, 0, 0, 0], .accept [7, 1, 0, 0, 0], .sent, .accept [7, 3, 0, 0, 0],
    .accept [7, 2, 6, 0, 0]]

theorem requests_settled_once_mixed : Header.size < 8 ∧
    ∃ e' handlings, (Drive.runAll smallBridge.watched mixedDrives).result = .ok e' ∧
      e'.handler.handler.tally = ⟨2, 1, 1, 1⟩ ∧
      Router.History 8 smallBridge.handler e'.handler.log handlings e'.handler.handler ∧
      (Handling.answers handlings).map Message.frame = [[7, 9, 0, 0, 2, 0, 65], [7, 130, 6, 0, 1, 1]] := by
  have hn : Header.size < 8 := by decide
  have hrun : (Drive.runAll smallBridge.watched mixedDrives).result.toOption.map
      (fun e' => (e'.handler.handler.tally, e'.handler.started)) =
      some (⟨2, 1, 1, 1⟩, [[7, 9, 0, 0, 2, 0, 65], [7, 130, 6, 0, 1, 1]]) := by cbv
  refine ⟨hn, ?_⟩
  rcases requests_settled_once hn smallBridge mixedDrives with hstop | ⟨e', handlings, hok, h, _, _, _, _, _, hstarted⟩
  · rw [hstop] at hrun
    cases hrun
  · rw [hok] at hrun
    obtain ⟨htally, hframes⟩ := Prod.mk.inj (Option.some.inj hrun)
    exact ⟨e', handlings, hok, htally, h, (hstarted (by decide)).symm.trans hframes⟩

/-! ## A reply that no frame can hold -/

/-- The header and the payload of a request, accepted one after the other, hand it over. -/
theorem Drive.runAll_frame {n : Nat} {δ η φ : Type} [Medium δ φ] [Handler η] {e : Endpoint n δ η} {m : Message} {h : η}
    {l : Link n δ} (hn : Header.size < n) (hheader : e.reception = .header) (hmax : m.payload.length ≤ maxPayload)
    (hfit : m.payload.length ≤ e.capacity) (hpayload : m.payload ≠ [])
    (hrun : (Handler.onMessage e.handler m { e.link with medium := Endpoint.armedFor e.link.medium m }).result =
      .ok (h, l)) :
    ∃ e', (Drive.runAll e [.accept (wire m.header), .accept m.payload]).result = .ok e' ∧ e'.handler = h ∧
      e'.link = { l with medium := Medium.armReceive l.medium Header.size } := by
  obtain ⟨e₁, haccept, hholds, hsize, hhandler, hlink⟩ := Endpoint.accept_header hn hheader hmax hfit hpayload
  rw [← hhandler, ← hlink] at hrun
  obtain ⟨e', haccept', _, hhandler', hlink'⟩ := Endpoint.accept_last hn hholds rfl hsize.symm hmax hfit hrun
  refine ⟨e', ?_, hhandler', hlink'⟩
  simp only [Drive.runAll, List.foldlM_cons, List.foldlM_nil, Drive.run, Run.result_bind, haccept, haccept',
    Outcomes.ok_bind, Run.result_pure]

/-- A response that reads as data is a status byte and the data. -/
theorem Command.length_of_readAnswer {payload : Bytes} {raw : Raw} (h : Command.spiRead.readAnswer payload = .ok raw) :
    payload.length = raw.data.length + 1 := by
  cases payload with
  | nil => cases h
  | cons status body =>
    have hsplit : splitStatus (status :: body) = .ok (Status.ofByte status, body) := rfl
    rw [readAnswer, hsplit] at h
    cases hstatus : Status.ofByte status with
    | ok =>
      rw [hstatus] at h
      cases h
      rfl
    | unknownError | invalidArguments | slaveNotConnected =>
      rw [hstatus] at h
      cases h

/-- A read that succeeds gives all that was asked for. -/
theorem Request.expected_spiRead {β γ : Type} [I2cPort β] [SpiPort γ] {o : Outfit β γ} {channel : UInt8} {block : Bytes}
    {request : Spi.Read} {port : γ} (hport : o.spi.ports[channel.toNat]? = some port)
    (hread : ∀ slice, (SpiPort.read port slice).1 = .ok ()) (hfit : request.count.toNat + 1 ≤ block.length) :
    ∃ raw : Raw, (Request.spiRead request).expected o channel block = .ok raw ∧
      raw.data.length = request.count.toNat := by
  refine ⟨⟨Bytes.overlay (Bytes.slice block 1 request.count.toNat) 0
    (SpiPort.read port (Bytes.slice block 1 request.count.toNat)).2.1⟩, ?_, ?_⟩
  · simp only [Request.expected, hport, if_pos hfit, hread]
    rfl
  · rw [Bytes.length_overlay, Bytes.length_slice]
    omega

/-- So its answer is a status byte longer. -/
theorem Handling.answer?_spiRead {γ : Type} [SpiPort γ] {h : Handling (SpiPorts γ)} {channel : UInt8}
    {request : Spi.Read} {port : γ} (hrequest : h.request = (Request.spiRead request).message channel)
    (hport : h.service.ports[channel.toNat]? = some port) (hread : ∀ slice, (SpiPort.read port slice).1 = .ok ())
    (hroom : 3 ≤ h.block.length) (hfit : request.count.toNat + 1 ≤ h.block.length) :
    ∃ answer, h.answer? = some answer ∧ answer.payload.length = request.count.toNat + 1 := by
  obtain ⟨spi, _, block⟩ := h
  subst hrequest
  -- the other services of the bridge do not matter
  have hanswered := SpiPorts.answers_read (⟨⟨"", 0, []⟩, ⟨[]⟩, spi⟩ : Outfit Bench.I2cSim γ) channel hroom request
  obtain ⟨raw, hexpected, hlength⟩ := Request.expected_spiRead
    (o := (⟨⟨"", 0, []⟩, ⟨[]⟩, spi⟩ : Outfit Bench.I2cSim γ)) hport hread hfit
  rw [hexpected] at hanswered
  rcases hleft : (⟨spi, (Request.spiRead request).message channel, block⟩ : Handling (SpiPorts γ)).left with
    ⟨outcome, reply, after⟩
  have hpair := congrArg (fun left => (left.1, left.2.1)) hleft
  have hanswered : Answered Command.spiRead block.length (.ok raw) (outcome, reply) := hpair ▸ hanswered
  cases hanswered with
  | replied _ _ hreads =>
    refine ⟨_, by rw [Handling.answer?, hleft], ?_⟩
    exact (Command.length_of_readAnswer hreads).trans (congrArg (· + 1) hlength)
  | full _ hfull => cases hfull

/-- A bridge with an SPI port, and with buffers of more bytes than the largest frame has. -/
def wideBridge : Endpoint 70000 Detached (Router (SpiPorts Bench.SpiSim)) :=
  ⟨.idle ⟨⟩, .zeroed 70000, .header, { capacity := 1, services := [(2, ⟨[⟨none, none⟩]⟩)] }, 0⟩

/-- A request to read 65535 bytes. -/
def longRead : Message :=
  ⟨2, 2, 0, [255, 255]⟩

/-- Its answer is longer than any payload. -/
theorem Handling.For.answer_long {h : Handling (SpiPorts Bench.SpiSim)} {o : Occasion (Router (SpiPorts Bench.SpiSim))}
    (hfor : h.For 70000 o longRead) (hbefore : o.before = wideBridge.handler) :
    ∃ answer, h.answer? = some answer ∧ ¬answer.payload.length ≤ maxPayload := by
  have hrequest : longRead = (Request.spiRead ⟨65535⟩).message 0 := rfl
  have hservice := hfor.found
  rw [hbefore, show wideBridge.handler.get? longRead.component = some ⟨[⟨none, none⟩]⟩ from rfl] at hservice
  have hroom : h.block.length = 69995 := hfor.room
  obtain ⟨answer, hsome, hlength⟩ := Handling.answer?_spiRead (h := h) (hfor.request.trans hrequest)
    (show h.service.ports[0]? = some ⟨none, none⟩ by rw [← Option.some.inj hservice]; rfl) (fun _ => rfl) (by omega)
    (by rw [hroom]; decide)
  refine ⟨answer, hsome, ?_⟩
  rw [hlength]
  decide

/-- The request is counted as handled, and no response is ever started for it. -/
theorem long_reply_unsent : ∃ e',
    (Drive.runAll wideBridge.watched [.accept (wire longRead.header), .accept longRead.payload]).result = .ok e' ∧
      e'.handler.handler.tally = ⟨1, 0, 0, 0⟩ ∧ e'.handler.started = [] ∧ e'.link.armed? = none := by
  have hn : Header.size < 70000 := by decide
  obtain ⟨⟨w, l⟩, hmessage⟩ := (Watched.returns Router.returns hn wideBridge.watched.handler
    { wideBridge.link with medium := Endpoint.armedFor wideBridge.link.medium longRead }).1 longRead
  obtain ⟨hinner, hlog⟩ := Watched.onMessage_ok hmessage
  obtain ⟨handling?, hsettled⟩ := Router.settled_of_dispatch hn hinner
  obtain ⟨e', hrun, hhandler, hlink⟩ := Drive.runAll_frame (e := wideBridge.watched) (m := longRead) hn rfl
    (show 2 ≤ maxPayload by decide) (show 2 ≤ 70000 - 5 by decide) (by decide) hmessage
  have hfound : wideBridge.handler.get? longRead.component = some ⟨[⟨none, none⟩]⟩ := rfl
  cases hsettled with
  | unknownComponent hget _ _ => cases hfound.symm.trans hget
  | overrun _ harmed _ _ => cases harmed
  | unknownOperation hfor hnone _ _ =>
    obtain ⟨answer, hsome, _⟩ := hfor.answer_long rfl
    cases hnone.symm.trans hsome
  | handled hfor hsome hafter hleft =>
    obtain ⟨answer, hsome', hlong⟩ := hfor.answer_long rfl
    cases hsome.symm.trans hsome'
    have hnone : l.armed? = none := hleft.trans (if_neg hlong)
    refine ⟨e', hrun, ?_, ?_, ?_⟩
    · rw [hhandler]
      exact congrArg Router.tally hafter
    · rw [hhandler, Watched.started, hlog, hnone]
      rfl
    · rw [hlink]
      exact hnone

end BusBridge
