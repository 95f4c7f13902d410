import BusBridge.Proofs.Dispatch
import BusBridge.Proofs.Polling
/-!
# One exchange over a pair of pipes

Two lossless pipes join a host and a bridge. `Pipes` is what the bridge sees of them, and `Line` what
the host sees: the pipes together with the bridge at their other end, which is polled in any way before
each access of the host. How many bytes pass at an access, on either side, is laid down by a pace that
nothing is assumed of; an access at which none pass would block.

`Exchange d m written read b` says where the exchange of the request `m` stands on the side of the
bridge `b`, which started it with the desk `d`: the host has written the bytes `written` of the request
and read the bytes `read` of the response. The request is still on its way, or it was served once and
its response is on its way, or it has no response. Every poll of the bridge keeps that
(`Exchange.move`), and the host moves it on by reading and writing (`Line.readLaw`, `Line.writeLaw`).
-/

namespace BusBridge

/-- A read is not cut to what was wanted when it was paced within that. -/
theorem Bytes.take_take_min (bytes : Bytes) (want most : Nat) :
    (bytes.take (min want most)).take want = bytes.take (min want most) := by
  rw [List.take_take, Nat.min_eq_right (Nat.min_le_left want most)]

/-- The bytes counted as written are those that were. -/
theorem Bytes.take_length_take (bytes : Bytes) (most : Nat) :
    bytes.take (bytes.take most).length = bytes.take most := by
  rw [List.length_take]
  exact List.take_eq_take_min.symm

/-- The bridge's end of two pipes. -/
structure Pipes where
  /-- bytes from the host, the next one first -/
  incoming : Bytes := []
  /-- bytes for the host, the next one first -/
  outgoing : Bytes := []
  /-- most bytes that pass at each access -/
  pace : Nat → Nat
  /-- number of accesses so far -/
  turn : Nat := 0

namespace Pipes

instance : Stream Pipes where
  read p want :=
    let most := min want (p.pace p.turn)
    let rest := { p with incoming := p.incoming.drop most, turn := p.turn + 1 }
    if (p.incoming.take most).isEmpty then (.error .wouldBlock, rest) else (.ok (p.incoming.take most), rest)
  write p bytes :=
    let new := bytes.take (p.pace p.turn)
    let rest := { p with outgoing := p.outgoing ++ new, turn := p.turn + 1 }
    if new.isEmpty then (.error .wouldBlock, rest) else (.ok new.length, rest)
  flush p := pure (.ok (), p)

/-- What is read comes off the front of the pipe. -/
theorem readLaw (whole outgoing : Bytes) :
    Stream.ReadLaw fun (p : Pipes) acc => acc ++ p.incoming = whole ∧ p.outgoing = outgoing where
  ok {s s' acc bs want} h hread := by
    simp only [Stream.read] at hread
    split at hread
    · cases hread
    · cases hread
      rw [Bytes.take_take_min]
      exact ⟨by rw [List.append_assoc, List.take_append_drop]; exact h.1, h.2⟩
  error {s s' acc want kind} h hread := by
    simp only [Stream.read] at hread
    split at hread
    next hempty =>
      cases hread
      have hnone := List.take_append_drop (min want (s.pace s.turn)) s.incoming
      rw [List.isEmpty_iff.mp hempty, List.nil_append] at hnone
      exact ⟨by rw [hnone]; exact h.1, h.2⟩
    next => cases hread

/-- What is written goes to the end of the pipe. -/
theorem writeLaw (incoming outgoing : Bytes) :
    Stream.WriteLaw fun (p : Pipes) acc => p.incoming = incoming ∧ p.outgoing = outgoing ++ acc where
  ok {s s' acc bs count} h hwrite := by
    simp only [Stream.write] at hwrite
    split at hwrite
    · cases hwrite
    · cases hwrite
      rw [Bytes.take_length_take]
      exact ⟨h.1, by rw [← List.append_assoc, ← h.2]⟩
  error {s s' acc bs kind} h hwrite := by
    simp only [Stream.write] at hwrite
    split at hwrite
    next hempty =>
      cases hwrite
      rw [List.isEmpty_iff.mp hempty, List.append_nil]
      exact h
    next => cases hwrite
  flush h := h

end Pipes

/-- A bridge at its end of the pipes, with frames of at most `k` bytes. -/
abbrev Bridge (k : Nat) (κ : Type) := Endpoint k (StreamMedium Pipes) (Router κ)

namespace Bridge

variable {k : Nat} {κ : Type}

def pipes (b : Bridge k κ) : Pipes :=
  b.link.medium.stream

/-- The same bridge with other bytes in the pipes. -/
def setPipes (b : Bridge k κ) (pipes : Pipes) : Bridge k κ :=
  { b with link.medium.stream := pipes }

/-- The desk of a bridge. -/
def desk (b : Bridge k κ) : Desk κ :=
  ⟨b.handler, b.link.payload⟩

variable [Service κ]

/-- The bridge after a poll. A poll whose rounds are used up does not count. -/
def move (b : Bridge k κ) (call : PollCall) : Bridge k κ :=
  match (call.run b).result with
  | .ok (_, b') => b'
  | .error _ => b

/-- No other poll is left out: a bridge breaks no rule. -/
theorem run_returns (hk : Header.size < k) (b : Bridge k κ) (call : PollCall) :
    (∃ r, (call.run b).result = .ok r) ∨ (call.run b).result = .error .exhausted ∧ ∃ rounds, call = .both rounds :=
  PollCall.run_returns call Router.returns hk b

end Bridge

/-! ## Where an exchange stands -/

section Exchange

variable {k : Nat} {κ : Type} [Service κ]

/-- Where the exchange of a request stands on the side of the bridge. -/
inductive Exchange (d : Desk κ) (m : Message) (written read : Bytes) (b : Bridge k κ) : Prop where
  /-- the request is on its way -/
  | asking {consumed left : Bytes} : consumed ++ b.pipes.incoming = written → written ++ left = m.frame →
      b.Holds b.link.medium.received consumed → b.link.sending = none → b.pipes.outgoing = [] → read = [] →
      b.desk = d → Exchange d m written read b
  /-- the request was served, and its response is on its way or has been sent -/
  | answering {response : Message} {d' : Desk κ} {left : Bytes} : written = m.frame →
      d.serve m = some (response, d') → b.pipes.incoming = [] → b.Holds b.link.medium.received [] →
      read ++ b.pipes.outgoing ++ left = response.frame →
      (left = [] ∧ b.link.sending = none ∨ left ≠ [] ∧ b.link.armed? = some response.frame ∧
        b.link.medium.sent = (read ++ b.pipes.outgoing).length) →
      b.desk = d' → Exchange d m written read b
  /-- the request has no response -/
  | dropped : written = m.frame → b.pipes.incoming = [] → b.Holds b.link.medium.received [] →
      b.link.sending = none → b.pipes.outgoing = [] → read = [] → Exchange d m written read b

variable {d : Desk κ} {m : Message} {written read : Bytes} {b b' : Bridge k κ} {result : Except PollError Bool}

/-- With nothing in the pipe and nothing of a frame received, a poll of the reception changes nothing that
matters. -/
theorem Bridge.pollReceive_starved (hk : Header.size < k) (hincoming : b.pipes.incoming = [])
    (hholds : b.Holds b.link.medium.received []) (hrun : b.pollReceive.result = .ok (result, b')) :
    b'.pipes.incoming = [] ∧ b'.pipes.outgoing = b.pipes.outgoing ∧ b'.Holds b'.link.medium.received [] ∧
      b'.link.armed? = b.link.armed? ∧ b'.link.sending = b.link.sending ∧
      b'.link.medium.sent = b.link.medium.sent ∧ b'.desk = b.desk := by
  obtain ⟨new, stream, ⟨hnew, houtgoing⟩, hstep⟩ := Endpoint.receives_of_pollReceive
    (Pipes.readLaw [] b.pipes.outgoing) hk (show [] ++ b.pipes.incoming = [] ∧ _ from ⟨hincoming, rfl⟩) hholds hrun
  rw [List.nil_append] at hnew
  obtain ⟨rfl, hincoming'⟩ := List.append_eq_nil_iff.mp hnew
  obtain ⟨rfl, hholds'⟩ := hstep.starved
  exact ⟨hincoming', houtgoing, hholds', rfl, rfl, rfl, rfl⟩

/-- A poll of the bridge's reception keeps the exchange: it takes more of the request, or serves it. -/
theorem Exchange.pollReceive (hk : Header.size < k) (hm : m.payload.length ≤ maxPayload)
    (h : Exchange d m written read b) (hrun : b.pollReceive.result = .ok (result, b')) :
    Exchange d m written read b' := by
  cases h with
  | @asking consumed left hwritten hleft hholds hidle houtgoing hread hdesk =>
    obtain ⟨new, stream, ⟨hnew, houtgoing'⟩, hstep⟩ := Endpoint.receives_of_pollReceive
      (Pipes.readLaw b.pipes.incoming b.pipes.outgoing) hk
      (show [] ++ b.pipes.incoming = _ ∧ _ from ⟨rfl, rfl⟩) hholds hrun
    rw [List.nil_append] at hnew
    have hwritten' : consumed ++ new ++ stream.incoming = written := by
      rw [List.append_assoc, hnew]
      exact hwritten
    have hsent : stream.outgoing = [] := houtgoing'.trans houtgoing
    cases hstep with
    | wait _ _ hholds' => exact .asking hwritten' hleft hholds' hidle hsent hread hdesk
    | report hreport =>
      cases hreport with
      | @deliver m' r hframe hmax hfit honMessage =>
        -- what arrived is the whole request, and nothing follows it
        have hrest : m'.frame ++ (stream.incoming ++ left) = m.frame := by
          rw [← hframe, ← List.append_assoc, hwritten']
          exact hleft
        obtain ⟨rfl, hnothing⟩ := Framing.frame_append_eq hm hmax hrest
        obtain ⟨hincoming, rfl⟩ := List.append_eq_nil_iff.mp hnothing
        rw [List.append_nil] at hleft
        obtain ⟨r', l', hdispatch, hserved⟩ := Router.dispatch_idle b.handler m' hk
          (show (b.absorb new stream).link.sending = none from hidle)
        cases hdispatch.symm.trans honMessage
        subst hread
        obtain ⟨response, d', hserve, hrouter, hblock, hcarries⟩ | ⟨_, hidle', hmedium⟩ := hserved
        · have hserve' : d.serve m' = some (response, d') := hdesk ▸ hserve
          have hstream : l'.medium.stream = stream := congrArg StreamMedium.stream hcarries.medium
          have hsent' : l'.medium.sent = 0 := congrArg StreamMedium.sent hcarries.medium
          have houtgoing₁ : l'.medium.stream.outgoing = [] := hstream ▸ hsent
          have hframe' : [] ++ l'.medium.stream.outgoing ++ response.frame = response.frame := by rw [houtgoing₁]; rfl
          refine .answering hleft hserve' (hstream ▸ hincoming) (.fresh rfl) hframe'
            (.inr ⟨Framing.frame_ne_nil response, hcarries.armed, ?_⟩) ?_
          · exact hsent'.trans (congrArg List.length houtgoing₁).symm
          · show Desk.mk r' l'.payload = d'
            rw [hrouter, hblock]
        · have hstream : l'.medium.stream = stream := congrArg StreamMedium.stream hmedium
          exact .dropped hleft (hstream ▸ hincoming) (.fresh rfl) hidle' (hstream ▸ hsent) rfl
      | @pass m' hframe hmax hlong =>
        have hrest : m'.frame ++ (stream.incoming ++ left) = m.frame := by
          rw [← hframe, ← List.append_assoc, hwritten']
          exact hleft
        obtain ⟨rfl, hnothing⟩ := Framing.frame_append_eq hm hmax hrest
        obtain ⟨hincoming, rfl⟩ := List.append_eq_nil_iff.mp hnothing
        rw [List.append_nil] at hleft
        exact .dropped hleft hincoming (.fresh rfl) hidle hsent hread
      | refuse hshort hdeclared hlong hholds' =>
        exact .asking hwritten' hleft hholds' hidle hsent hread hdesk
      | proceed hdeclared hbefore hholds' =>
        exact .asking hwritten' hleft hholds' hidle hsent hread hdesk
  | answering hwritten hserve hincoming hholds hframe hsending hdesk =>
    obtain ⟨hincoming', houtgoing, hholds', harmed, hsending', hsent, hdesk'⟩ :=
      Bridge.pollReceive_starved hk hincoming hholds hrun
    refine .answering hwritten hserve hincoming' hholds' (by rw [houtgoing]; exact hframe) ?_ (hdesk'.trans hdesk)
    rw [hsending', harmed, hsent, houtgoing]
    exact hsending
  | dropped hwritten hincoming hholds hidle houtgoing hread =>
    obtain ⟨hincoming', houtgoing', hholds', _, hsending', _, _⟩ := Bridge.pollReceive_starved hk hincoming hholds hrun
    exact .dropped hwritten hincoming' hholds' (hsending'.trans hidle) (houtgoing'.trans houtgoing) hread

/-- A bridge that is sending is sending the response. -/
theorem Exchange.of_busy (h : Exchange d m written read b) {frame : Bytes} (harmed : b.link.armed? = some frame) :
    ∃ response left, d.serve m = some (response, b.desk) ∧ frame = response.frame ∧
      read ++ b.pipes.outgoing ++ left = response.frame ∧ b.link.medium.sent = (read ++ b.pipes.outgoing).length ∧
      written = m.frame ∧ b.pipes.incoming = [] ∧ b.Holds b.link.medium.received [] := by
  cases h with
  | asking _ _ _ hidle => cases harmed.symm.trans (Link.armed?_idle hidle)
  | dropped _ _ _ hidle => cases harmed.symm.trans (Link.armed?_idle hidle)
  | @answering response d' left hwritten hserve hincoming hholds hframe hsending hdesk =>
    obtain ⟨_, hidle⟩ | ⟨_, harmed', hsent⟩ := hsending
    · cases harmed.symm.trans (Link.armed?_idle hidle)
    · exact ⟨response, left, hdesk ▸ hserve, Option.some.inj (harmed.symm.trans harmed'), hframe, hsent, hwritten,
        hincoming, hholds⟩

/-- A poll of the bridge's emission keeps the exchange: it sends more of the response, if there is one. -/
theorem Exchange.pollSend (h : Exchange d m written read b) (hrun : b.pollSend.result = .ok (result, b')) :
    Exchange d m written read b' := by
  obtain ⟨new, stream, ⟨hincoming', houtgoing'⟩, hstep⟩ := Endpoint.sends_of_pollSend
    (Pipes.writeLaw b.pipes.incoming b.pipes.outgoing) (show _ ∧ b.pipes.outgoing = _ ++ [] from
      ⟨rfl, (List.append_nil _).symm⟩) hrun
  rw [List.nil_append] at houtgoing'
  cases hstep with
  | idle => exact h
  | @wait frame left _ harmed hrest _ hopen =>
    obtain ⟨response, left', hserve, rfl, hframe, hsent, hwritten, hincoming, hholds⟩ := h.of_busy harmed
    rw [hsent, ← hframe, List.drop_left] at hrest
    subst hrest
    have hframe' : read ++ stream.outgoing ++ left = response.frame := by
      rw [houtgoing', ← hframe]
      simp only [List.append_assoc]
    refine .answering hwritten hserve (hincoming'.trans hincoming) (hholds.congr rfl rfl) hframe'
      (.inr ⟨hopen fun _ => rfl, harmed, ?_⟩) rfl
    show b.link.medium.sent + new.length = (read ++ stream.outgoing).length
    rw [hsent, houtgoing', ← List.append_assoc]
    exact List.length_append.symm
  | @report frame r harmed hnew honSent =>
    obtain ⟨response, left', hserve, rfl, hframe, hsent, hwritten, hincoming, hholds⟩ := h.of_busy harmed
    rw [hsent, ← hframe, List.drop_left] at hnew
    subst hnew
    cases honSent
    have hframe' : read ++ stream.outgoing ++ [] = response.frame := by
      rw [houtgoing', ← hframe]
      simp only [List.append_assoc, List.append_nil]
    exact .answering hwritten hserve (hincoming'.trans hincoming) (hholds.congr rfl rfl) hframe' (.inl ⟨rfl, rfl⟩) rfl

theorem Exchange.move (hk : Header.size < k) (hm : m.payload.length ≤ maxPayload)
    (h : Exchange d m written read b) (call : PollCall) : Exchange d m written read (b.move call) := by
  unfold Bridge.move
  split
  next result b' hrun =>
    exact PollCall.run_keeps (fun _ b => Exchange d m written read b) (fun _ _ _ _ h hsend => h.pollSend hsend)
      (fun _ _ _ _ h hreceive => h.pollReceive hk hm hreceive) [] h hrun
  next => exact h

theorem Exchange.moves (hk : Header.size < k) (hm : m.payload.length ≤ maxPayload)
    (h : Exchange d m written read b) (calls : List PollCall) :
    Exchange d m written read (calls.foldl Bridge.move b) := by
  induction calls generalizing b with
  | nil => exact h
  | cons call calls ih => exact ih (h.move hk hm call)

/-- The host takes bytes off the pipe. -/
theorem Exchange.take (h : Exchange d m written read b) {pipes : Pipes} {new : Bytes}
    (hincoming : pipes.incoming = b.pipes.incoming) (hnew : new ++ pipes.outgoing = b.pipes.outgoing) :
    Exchange d m written (read ++ new) (b.setPipes pipes) := by
  cases h with
  | asking hwritten hleft hholds hidle houtgoing hread hdesk =>
    obtain ⟨rfl, houtgoing'⟩ := List.append_eq_nil_iff.mp (hnew.trans houtgoing)
    exact .asking (by rw [← hwritten, ← hincoming]; rfl) hleft (hholds.congr rfl rfl) hidle houtgoing'
      (by rw [hread]; rfl) hdesk
  | @answering response d' left hwritten hserve hempty hholds hframe hsending hdesk =>
    have hsplit : read ++ new ++ pipes.outgoing = read ++ b.pipes.outgoing := by rw [List.append_assoc, hnew]
    refine .answering hwritten hserve (hincoming.trans hempty) (hholds.congr rfl rfl)
      ((congrArg (· ++ left) hsplit).trans hframe) ?_ hdesk
    exact hsending.imp_right fun ⟨hleft, harmed, hsent⟩ =>
      ⟨hleft, harmed, hsent.trans (congrArg List.length hsplit).symm⟩
  | dropped hwritten hempty hholds hidle houtgoing hread =>
    obtain ⟨rfl, houtgoing'⟩ := List.append_eq_nil_iff.mp (hnew.trans houtgoing)
    exact .dropped hwritten (hincoming.trans hempty) (hholds.congr rfl rfl) hidle houtgoing' (by rw [hread]; rfl)

/-- The host puts more of the request into the pipe. -/
theorem Exchange.give (h : Exchange d m written read b) {pipes : Pipes} {new left : Bytes}
    (hincoming : pipes.incoming = b.pipes.incoming ++ new) (houtgoing : pipes.outgoing = b.pipes.outgoing)
    (hleft : written ++ new ++ left = m.frame) : Exchange d m (written ++ new) read (b.setPipes pipes) := by
  -- once all of the request is written nothing can follow
  have hwhole : written = m.frame → new = [] := by
    intro hwritten
    rw [hwritten, List.append_assoc] at hleft
    exact (List.append_eq_nil_iff.mp (List.append_right_eq_self.mp hleft)).1
  cases h with
  | @asking consumed _ hwritten _ hholds hidle hquiet hread hdesk =>
    refine .asking ?_ hleft (hholds.congr rfl rfl) hidle (houtgoing.trans hquiet) hread hdesk
    show consumed ++ pipes.incoming = written ++ new
    rw [hincoming, ← List.append_assoc, hwritten]
  | @answering response d' left' hwritten hserve hempty hholds hframe hsending hdesk =>
    obtain rfl := hwhole hwritten
    rw [List.append_nil] at hincoming ⊢
    have hsplit : read ++ pipes.outgoing = read ++ b.pipes.outgoing := by rw [houtgoing]
    refine .answering hwritten hserve (hincoming.trans hempty) (hholds.congr rfl rfl)
      ((congrArg (· ++ left') hsplit).trans hframe) ?_ hdesk
    exact hsending.imp_right fun ⟨hleft, harmed, hsent⟩ =>
      ⟨hleft, harmed, hsent.trans (congrArg List.length hsplit).symm⟩
  | dropped hwritten hempty hholds hidle hquiet hread =>
    obtain rfl := hwhole hwritten
    rw [List.append_nil] at hincoming ⊢
    exact .dropped hwritten (hincoming.trans hempty) (hholds.congr rfl rfl) hidle (houtgoing.trans hquiet) hread

end Exchange

/-! ## The host's end -/

/-- The host's end of the pipes, with the bridge at the other end. -/
structure Line (k : Nat) (κ : Type) where
  bridge : Bridge k κ
  /-- how the bridge is polled before each access -/
  moves : Nat → List PollCall
  /-- most bytes that pass at each access -/
  pace : Nat → Nat
  /-- number of accesses so far -/
  turn : Nat := 0

namespace Line

variable {k : Nat} {κ : Type} [Service κ]

/-- The bridge moves, and the line is ready for an access. -/
def advance (l : Line k κ) : Line k κ :=
  { l with bridge := (l.moves l.turn).foldl Bridge.move l.bridge, turn := l.turn + 1 }

instance : Stream (Line k κ) where
  read l want :=
    let most := min want (l.pace l.turn)
    let l := l.advance
    let new := l.bridge.pipes.outgoing.take most
    let rest := { l with bridge := l.bridge.setPipes { l.bridge.pipes with
      outgoing := l.bridge.pipes.outgoing.drop most } }
    if new.isEmpty then (.error .wouldBlock, rest) else (.ok new, rest)
  write l bytes :=
    let new := bytes.take (l.pace l.turn)
    let l := l.advance
    let rest := { l with bridge := l.bridge.setPipes { l.bridge.pipes with
      incoming := l.bridge.pipes.incoming ++ new } }
    if new.isEmpty then (.error .wouldBlock, rest) else (.ok new.length, rest)
  flush l := pure (.ok (), l)

variable {d : Desk κ} {m : Message} {written read : Bytes}

theorem advance_exchange {l : Line k κ} (hk : Header.size < k) (hm : m.payload.length ≤ maxPayload)
    (h : Exchange d m written read l.bridge) : Exchange d m written read l.advance.bridge :=
  h.moves hk hm (l.moves l.turn)

/-- Reading takes the next bytes of the response. -/
theorem readLaw (hk : Header.size < k) (hm : m.payload.length ≤ maxPayload) (written read : Bytes) :
    Stream.ReadLaw fun (l : Line k κ) acc => Exchange d m written (read ++ acc) l.bridge where
  ok {s s' acc bs want} h hread := by
    have hmoved := advance_exchange hk hm h
    simp only [Stream.read] at hread
    split at hread
    · cases hread
    · cases hread
      rw [Bytes.take_take_min, ← List.append_assoc]
      exact hmoved.take rfl (List.take_append_drop _ _)
  error {s s' acc want kind} h hread := by
    have hmoved := advance_exchange hk hm h
    simp only [Stream.read] at hread
    split at hread
    next hempty =>
      cases hread
      have hnone := List.take_append_drop (min want (s.pace s.turn)) s.advance.bridge.pipes.outgoing
      rw [List.isEmpty_iff.mp hempty] at hnone
      exact List.append_nil (read ++ acc) ▸ hmoved.take rfl hnone
    next => cases hread

/-- Writing adds the next bytes of the request, as long as that is what they are. -/
theorem writeLaw (hk : Header.size < k) (hm : m.payload.length ≤ maxPayload) (written read : Bytes) :
    Stream.WriteLaw fun (l : Line k κ) acc =>
      ∀ left, written ++ acc ++ left = m.frame → Exchange d m (written ++ acc) read l.bridge where
  ok {s s' acc bs count} h hwrite left hleft := by
    simp only [Stream.write] at hwrite
    split at hwrite
    · cases hwrite
    · cases hwrite
      rw [Bytes.take_length_take, ← List.append_assoc] at hleft ⊢
      have hmoved := advance_exchange hk hm (h _ (by rw [← List.append_assoc]; exact hleft))
      exact hmoved.give rfl rfl hleft
  error {s s' acc bs kind} h hwrite left hleft := by
    have hmoved := advance_exchange hk hm (h left hleft)
    simp only [Stream.write] at hwrite
    split at hwrite
    next hempty =>
      cases hwrite
      rw [List.isEmpty_iff.mp hempty, List.append_nil]
      exact hmoved
    next => cases hwrite
  flush h := h

end Line

end BusBridge
