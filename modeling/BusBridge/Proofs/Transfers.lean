import BusBridge.Proofs.Polling
/-!
# The order of transfers

A tap keeps what passed in the order in which it passed, so its log can say more than what was taken and
given in the end: what was given before something was taken, and whether it had been flushed by then. A block
that is gathered adds pieces that were taken to the log, each of them at a moment at which the block was
still open (`Tap.gather_log`); a frame that is drained adds pieces that were given (`Tap.drain_log`).

A stream that `Accepts` frames takes them at its own pace, so that a poll gets a whole frame rid. One that `Supplies`
bytes hands them over without failures until they are used up, and fills every block that it has the bytes for. One
that `Dribbles` them may also have none for now; but it makes only so many pauses.
-/

namespace BusBridge

/-! ## Logs -/

namespace Transfer

/-- The bytes that were taken, in a log with the first transfer first. -/
def inflow (log : List Transfer) : Bytes :=
  log.flatMap fun
    | .taken bytes => bytes
    | _ => []

/-- The bytes that were given. -/
def outflow (log : List Transfer) : Bytes :=
  log.flatMap fun
    | .given bytes => bytes
    | _ => []

/-- The bytes that were given since the last flush. -/
def unflushed (log : List Transfer) : Bytes :=
  log.foldl (fun held transfer =>
    match transfer with
    | .taken _ => held
    | .given bytes => held ++ bytes
    | .flushed => []) []

@[simp] theorem inflow_append (log more : List Transfer) : inflow (log ++ more) = inflow log ++ inflow more :=
  List.flatMap_append

@[simp] theorem outflow_append (log more : List Transfer) : outflow (log ++ more) = outflow log ++ outflow more :=
  List.flatMap_append

@[simp] theorem unflushed_flushed (log : List Transfer) : unflushed (log ++ [.flushed]) = [] := by
  rw [unflushed, List.foldl_append]
  rfl

@[simp] theorem inflow_taken (pieces : List Bytes) : inflow (pieces.map .taken) = pieces.flatten := by
  rw [inflow, List.flatMap_map, List.flatten_eq_flatMap]
  rfl

@[simp] theorem outflow_taken (pieces : List Bytes) : outflow (pieces.map .taken) = [] := by
  rw [outflow, List.flatMap_map, List.flatMap_eq_nil_iff]
  intro piece _
  rfl

@[simp] theorem inflow_given (pieces : List Bytes) : inflow (pieces.map .given) = [] := by
  rw [inflow, List.flatMap_map, List.flatMap_eq_nil_iff]
  intro piece _
  rfl

@[simp] theorem outflow_given (pieces : List Bytes) : outflow (pieces.map .given) = pieces.flatten := by
  rw [outflow, List.flatMap_map, List.flatten_eq_flatMap]
  rfl

@[simp] theorem inflow_flushed : inflow [.flushed] = [] := rfl

@[simp] theorem outflow_flushed : outflow [.flushed] = [] := rfl

/-- Taking leaves what is not flushed. -/
@[simp] theorem unflushed_taken (log : List Transfer) (pieces : List Bytes) :
    unflushed (log ++ pieces.map .taken) = unflushed log := by
  rw [unflushed, List.foldl_append, List.foldl_map]
  induction pieces with
  | nil => rfl
  | cons piece rest ih => exact ih

end Transfer

/-! ## Blocks through a tap -/

namespace Tap

open Transfer

variable {σ : Type}

/-- What passed through a tap, the first transfer first. -/
def history (t : Tap σ) : List Transfer :=
  t.log.reverse

theorem taken_eq (t : Tap σ) : t.taken = inflow t.history := rfl

theorem given_eq (t : Tap σ) : t.given = outflow t.history := rfl

/-- What pieces that were taken change. -/
theorem history_taken {t t' : Tap σ} {pieces : List Bytes} (h : t'.history = t.history ++ pieces.map .taken) :
    t'.taken = t.taken ++ pieces.flatten ∧ t'.given = t.given ∧ unflushed t'.history = unflushed t.history := by
  refine ⟨?_, ?_, ?_⟩
  · rw [taken_eq, taken_eq, h, inflow_append, inflow_taken]
  · rw [given_eq, given_eq, h, outflow_append, outflow_taken, List.append_nil]
  · rw [h, unflushed_taken]

/-- What pieces that were given and flushed change. -/
theorem history_given {t t' : Tap σ} {pieces : List Bytes}
    (h : t'.history = t.history ++ pieces.map .given ++ [.flushed]) :
    t'.taken = t.taken ∧ t'.given = t.given ++ pieces.flatten ∧ unflushed t'.history = [] := by
  refine ⟨?_, ?_, ?_⟩
  · simp only [taken_eq, h, inflow_append, inflow_given, inflow_flushed, List.append_nil]
  · simp only [given_eq, h, outflow_append, outflow_given, outflow_flushed, List.append_nil]
  · rw [h, unflushed_flushed]

variable [Stream σ]

theorem read_ok {t t' : Tap σ} {want : Nat} {bytes : Bytes} (h : Stream.read t want = (.ok bytes, t')) :
    bytes.take want = bytes ∧ t'.history = t.history ++ [.taken bytes] := by
  simp only [Stream.read] at h
  split at h
  next whole stream _ =>
    cases h
    exact ⟨List.take_of_length_le (List.length_take_le _ _), List.reverse_cons⟩
  next kind stream _ => cases h

theorem read_error {t t' : Tap σ} {want : Nat} {kind : IoKind} (h : Stream.read t want = (.error kind, t')) :
    t'.history = t.history := by
  simp only [Stream.read] at h
  split at h
  next whole stream _ => cases h
  next kind stream _ =>
    cases h
    rfl

theorem write_ok {t t' : Tap σ} {bytes : Bytes} {count : Nat} (h : Stream.write t bytes = (.ok count, t')) :
    t'.history = t.history ++ [.given (bytes.take count)] := by
  simp only [Stream.write] at h
  split at h
  next count stream _ =>
    cases h
    exact List.reverse_cons
  next kind stream _ => cases h

theorem write_error {t t' : Tap σ} {bytes : Bytes} {kind : IoKind} (h : Stream.write t bytes = (.error kind, t')) :
    t'.history = t.history := by
  simp only [Stream.write] at h
  split at h
  next count stream _ => cases h
  next kind stream _ =>
    cases h
    rfl

theorem flush_ok {t : Tap σ} (h : (Stream.flush t).value.1 = .ok ()) :
    (Stream.flush t).value.2.history = t.history ++ [.flushed] := by
  simp only [Stream.flush, Trace.value_bind] at h ⊢
  split at h
  next stream _ => exact List.reverse_cons
  next kind stream _ => cases h

theorem flush_error {t : Tap σ} {kind : IoKind} (h : (Stream.flush t).value.1 = .error kind) :
    (Stream.flush t).value.2.history = t.history := by
  simp only [Stream.flush, Trace.value_bind] at h ⊢
  split at h
  next stream _ => cases h
  next kind stream _ => rfl

/-- A block is gathered in pieces, which are never too many, and before each of them some of the wanted bytes are
missing. -/
theorem gather_log (want : Nat) (t : Tap σ) (got : Bytes) :
    ∃ pieces : List Bytes, (Stream.gather want t got).2.2.history = t.history ++ pieces.map .taken ∧
      (Stream.gather want t got).2.1 = pieces.flatten.reverse ++ got ∧ pieces.flatten.length ≤ want ∧
      ((Stream.gather want t got).1 = .complete ↔ pieces.flatten.length = want) ∧
      ∀ early piece late, pieces = early ++ piece :: late → early.flatten.length < want := by
  fun_induction Stream.gather want t got with
  | case1 t got => exact ⟨[], by simp, by simp, by simp, by simp, by simp⟩
  | case2 want t got hwant kind t' hread =>
    exact ⟨[], by simp [read_error hread], by simp, by simp, by simpa using Ne.symm hwant, by simp⟩
  | case3 want t got hwant bytes t' hread hnone =>
    obtain ⟨hwhole, hlog⟩ := read_ok hread
    rw [hwhole] at hnone
    have hnil : bytes = [] := List.eq_nil_of_length_eq_zero hnone
    subst hnil
    refine ⟨[[]], hlog, rfl, Nat.zero_le _, by simpa using Ne.symm hwant, ?_⟩
    intro early piece late hpieces
    cases early with
    | nil => exact Nat.pos_of_ne_zero hwant
    | cons first rest =>
      have hlength := congrArg List.length hpieces
      simp at hlength
  | case4 want t got hwant bytes t' hread hsome ih =>
    obtain ⟨hwhole, hlog⟩ := read_ok hread
    have hle : bytes.length ≤ want := hwhole ▸ List.length_take_le _ _
    rw [hwhole] at ih ⊢
    obtain ⟨pieces, hhistory, hgot, hfits, hcomplete, hopen⟩ := ih
    refine ⟨bytes :: pieces, ?_, ?_, ?_, ?_, ?_⟩
    · rw [hhistory, hlog, List.append_assoc]
      rfl
    · rw [hgot, List.flatten_cons, List.reverse_append, List.append_assoc]
    · rw [List.flatten_cons, List.length_append]
      omega
    · rw [hcomplete, List.flatten_cons, List.length_append]
      omega
    · intro early piece late hpieces
      cases early with
      | nil => exact Nat.pos_of_ne_zero hwant
      | cons first rest =>
        rw [List.cons_append, List.cons.injEq] at hpieces
        have hrest := hopen rest piece late hpieces.2
        rw [List.flatten_cons, List.length_append, ← hpieces.1]
        omega

/-- A frame is drained in pieces from its front, and they are all of it if nothing stopped them. -/
theorem drain_log (rest : Bytes) (t : Tap σ) (given : List Bytes) :
    ∃ pieces : List Bytes, (Stream.drain rest t given).2.2.history = t.history ++ pieces.map .given ∧
      (Stream.drain rest t given).2.1.flatten.length = given.flatten.length + pieces.flatten.length ∧
      pieces.flatten <+: rest ∧ ((Stream.drain rest t given).1 = .complete → pieces.flatten = rest) := by
  fun_induction Stream.drain rest t given with
  | case1 rest t given hnil =>
    have hnil : rest = [] := by simpa using hnil
    exact ⟨[], by simp, rfl, ⟨rest, rfl⟩, fun _ => hnil.symm⟩
  | case2 rest t given hsome kind t' hwrite => exact ⟨[], by simp [write_error hwrite], rfl, ⟨rest, rfl⟩, by simp⟩
  | case3 rest t given hsome t' hwrite => exact ⟨[rest.take 0], by simp [write_ok hwrite], by simp, by simp, by simp⟩
  | case4 rest t given hsome count t' hwrite hcount ih =>
    obtain ⟨pieces, hhistory, hlength, hfront, hcomplete⟩ := ih
    refine ⟨rest.take count :: pieces, ?_, ?_, ?_, ?_⟩
    · rw [hhistory, write_ok hwrite, List.append_assoc]
      rfl
    · rw [hlength, List.flatten_cons, List.flatten_cons, List.length_append, List.length_append]
      omega
    · have hwhole := (List.prefix_append_right_inj (rest.take count)).mpr hfront
      rwa [List.take_append_drop] at hwhole
    · intro hhalt
      rw [List.flatten_cons, hcomplete hhalt, List.take_append_drop]

end Tap

namespace StreamMedium

variable {σ : Type} [Stream σ]

/-- A poll of the reception takes pieces. -/
theorem pollReceive_log (m : StreamMedium (Tap σ)) (block : Bytes) :
    (Medium.pollReceive m block).2.2.sent = m.sent ∧ ∃ pieces : List Bytes,
      (Medium.pollReceive m block).2.2.stream.history = m.stream.history ++ pieces.map .taken := by
  obtain ⟨pieces, hhistory, _⟩ := Tap.gather_log (block.length - m.received) m.stream []
  exact ⟨rfl, pieces, hhistory⟩

/-- A poll of the emission gives pieces, and flushes them if they are the last ones. -/
theorem pollSend_log (m : StreamMedium (Tap σ)) (block : Bytes) :
    ∃ (pieces : List Bytes) (stream : Tap σ) (result : Except IoKind Bool),
      (Medium.pollSend m block).value = (result, { m with stream, sent := m.sent + pieces.flatten.length }) ∧
      ((result ≠ .ok true ∧ pieces.flatten <+: block.drop m.sent ∧
          stream.history = m.stream.history ++ pieces.map .given) ∨
        (result = .ok true ∧ pieces.flatten = block.drop m.sent ∧
          stream.history = m.stream.history ++ pieces.map .given ++ [.flushed])) := by
  obtain ⟨pieces, hhistory, hlength, hfront, hwhole⟩ := Tap.drain_log (block.drop m.sent) m.stream []
  rcases hdrain : Stream.drain (block.drop m.sent) m.stream [] with ⟨halt, given, stream⟩
  rw [hdrain] at hhistory hlength hwhole
  rw [List.flatten_nil, List.length_nil, Nat.zero_add] at hlength
  cases halt with
  | nothing =>
    refine ⟨pieces, stream, Halt.toPoll .writeZero .nothing, ?_, .inl ⟨?_, hfront, hhistory⟩⟩
    · simp only [Medium.pollSend, pollSend, hdrain, hlength]
      rfl
    · intro h
      cases h
  | failed kind =>
    refine ⟨pieces, stream, Halt.toPoll .writeZero (.failed kind), ?_, .inl ⟨?_, hfront, hhistory⟩⟩
    · simp only [Medium.pollSend, pollSend, hdrain, hlength]
      rfl
    · intro h
      cases toPoll_eq_true.mp h
  | complete =>
    rcases hflush : (Stream.flush stream).value with ⟨flushed, stream'⟩
    refine ⟨pieces, stream', Halt.toPoll .writeZero (.ofFlush flushed), ?_, ?_⟩
    · simp only [Medium.pollSend, pollSend, hdrain, Trace.value_bind, hflush, hlength]
      rfl
    · cases flushed with
      | error kind =>
        have hkept := @Tap.flush_error σ _ stream kind (by rw [hflush])
        rw [hflush] at hkept
        refine .inl ⟨?_, hfront, hkept.trans hhistory⟩
        intro h
        cases toPoll_eq_true.mp h
      | ok _ =>
        have hlogged := @Tap.flush_ok σ _ stream (by rw [hflush])
        rw [hflush] at hlogged
        refine .inr ⟨rfl, hwhole rfl, ?_⟩
        rw [hlogged, hhistory]

end StreamMedium

/-! ## Polls through a tap -/

namespace Endpoint

variable {n : Nat} {σ η : Type} [Stream σ] [Handler η]

/-- What a poll of the emission does with the frame on the link, where `pieces` are given to the stream. -/
inductive Gives (e : Endpoint n (StreamMedium (Tap σ)) η) (frame : Bytes) (pieces : List Bytes) (stream : Tap σ) :
    Except PollError Bool → Endpoint n (StreamMedium (Tap σ)) η → Prop where
  /-- the frame is still on its way -/
  | wait {result : Except PollError Bool} : result ≠ .ok true → pieces.flatten <+: frame.drop e.link.medium.sent →
      stream.history = e.link.medium.stream.history ++ pieces.map .given →
      Gives e frame pieces stream result (e.release pieces.flatten stream)
  /-- the rest of the frame was given and flushed, and reported then -/
  | report {handler : η} {link : Link n (StreamMedium (Tap σ))} : pieces.flatten = frame.drop e.link.medium.sent →
      stream.history = e.link.medium.stream.history ++ pieces.map .given ++ [.flushed] →
      (Handler.onSent e.handler { (e.release pieces.flatten stream).link with sending := none }).result =
        .ok (handler, link) →
      Gives e frame pieces stream (.ok true) { e.release pieces.flatten stream with handler, link }

theorem gives_of_pollSend {e e' : Endpoint n (StreamMedium (Tap σ)) η} {frame : Bytes} {result : Except PollError Bool}
    (hframe : e.link.armed? = some frame) (hrun : e.pollSend.result = .ok (result, e')) :
    ∃ pieces, e.Gives frame pieces (Medium.pollSend e.link.medium frame).value.2.stream result e' := by
  unfold Endpoint.pollSend at hrun
  simp only [hframe, Run.result_bind, Run.result_lift, Outcomes.ok_bind] at hrun
  obtain ⟨pieces, stream, sent, hpoll, ⟨hopen, hfront, hhistory⟩ | ⟨rfl, hwhole, hhistory⟩⟩ :=
    StreamMedium.pollSend_log e.link.medium frame
  · rw [hpoll] at hrun ⊢
    refine ⟨pieces, ?_⟩
    rcases sent with kind | done
    · cases hrun
      exact .wait (by simp) hfront hhistory
    · cases done with
      | false =>
        cases hrun
        exact .wait (by simp) hfront hhistory
      | true => exact absurd rfl hopen
  · rw [hpoll] at hrun ⊢
    have harmed : (e.release pieces.flatten stream).link.armed? = some frame := hframe
    have hreport : ((e.release pieces.flatten stream).blockSent >>= fun e => pure (.ok true, e)).result =
        .ok (result, e') :=
      hrun
    rw [Run.result_bind, blockSent_result harmed] at hreport
    obtain ⟨e₁, hsent, hrest⟩ := Outcomes.bind_eq_ok.mp hreport
    obtain ⟨⟨handler, link⟩, honSent, hlast⟩ := Outcomes.bind_eq_ok.mp hsent
    cases hlast
    cases hrest
    exact ⟨pieces, .report hwhole hhistory honSent⟩

/-- A poll of the reception takes pieces into the armed block, and reports the block if they complete it. -/
theorem pollReceive_tapped {e e' : Endpoint n (StreamMedium (Tap σ)) η} {result : Except PollError Bool}
    (hroom : e.reception.offset + e.armedSize ≤ n) (hopen : e.link.medium.received < e.armedSize)
    (hrun : e.pollReceive.result = .ok (result, e')) :
    ∃ (pieces : List Bytes) (stream : Tap σ), stream.history = e.link.medium.stream.history ++ pieces.map .taken ∧
      ((e.link.medium.received + pieces.flatten.length < e.armedSize ∧ result ≠ .ok true ∧
          e' = e.absorb pieces.flatten stream) ∨
        (e.link.medium.received + pieces.flatten.length = e.armedSize ∧
          ∃ report, (e.absorb pieces.flatten stream).blockReceived.result = .ok (report, e') ∧
            result = reportOf report)) := by
  obtain ⟨pieces, hhistory, hgot, hle, hcomplete, _⟩ :=
    Tap.gather_log (e.armedSize - e.link.medium.received) e.link.medium.stream []
  rcases hgather : Stream.gather (e.armedSize - e.link.medium.received) e.link.medium.stream [] with ⟨halt, got, stream⟩
  rw [hgather] at hhistory hgot hcomplete
  have hgot : got = pieces.flatten.reverse := by simpa using hgot
  subst hgot
  rw [pollReceive_absorb hroom (by omega) hgather] at hrun
  refine ⟨pieces, stream, hhistory, ?_⟩
  by_cases hfull : pieces.flatten.length = e.armedSize - e.link.medium.received
  · rw [StreamMedium.toPoll_eq_true.mpr (hcomplete.mpr hfull)] at hrun
    obtain ⟨⟨report, e₁⟩, hreport, hrest⟩ := Outcomes.bind_eq_ok.mp hrun
    cases hrest
    exact .inr ⟨by omega, report, hreport, rfl⟩
  · have hnot : halt.toPoll .unexpectedEof ≠ .ok true :=
      fun h => hfull (hcomplete.mp (StreamMedium.toPoll_eq_true.mp h))
    refine .inl ⟨by omega, ?_⟩
    rcases htoPoll : halt.toPoll .unexpectedEof with kind | done
    · rw [htoPoll] at hrun
      cases hrun
      exact ⟨by simp, rfl⟩
    · rw [htoPoll] at hrun hnot
      cases done with
      | true => exact absurd rfl hnot
      | false =>
        cases hrun
        exact ⟨by simp, rfl⟩

end Endpoint

/-! ## Streams that do not fail -/

namespace Stream

variable {σ : Type} [Stream σ]

/-- A stream that takes at least one byte of every write and that can always be flushed. What it shows to `view` does
not depend on that. -/
structure Accepts {α : Type} (view : σ → α) : Prop where
  write : ∀ (s : σ) {bytes : Bytes}, bytes ≠ [] → ∃ count s', Stream.write s bytes = (.ok count, s') ∧
    0 < count ∧ view s' = view s
  flush : ∀ s : σ, (Stream.flush s).value.1 = .ok () ∧ view (Stream.flush s).value.2 = view s

namespace Accepts

variable {α : Type} {view : σ → α}

/-- A frame is written as a whole. -/
theorem drain (h : Accepts view) (rest : Bytes) (s : σ) (given : List Bytes) :
    ∃ pieces s', drain rest s given = (.complete, pieces, s') ∧ view s' = view s := by
  fun_induction Stream.drain rest s given with
  | case1 rest s given hnil => exact ⟨given, s, rfl, rfl⟩
  | case2 rest s given hsome kind s' hwrite =>
    obtain ⟨count, s₁, hok, _⟩ := h.write s (show rest ≠ [] by simpa using hsome)
    rw [hwrite] at hok
    cases hok
  | case3 rest s given hsome s' hwrite =>
    obtain ⟨count, s₁, hok, hpos, _⟩ := h.write s (show rest ≠ [] by simpa using hsome)
    rw [hwrite] at hok
    cases hok
    exact absurd hpos (Nat.lt_irrefl 0)
  | case4 rest s given hsome count s' hwrite hcount ih =>
    obtain ⟨count', s₁, hok, _, hview⟩ := h.write s (show rest ≠ [] by simpa using hsome)
    rw [hwrite] at hok
    cases hok
    obtain ⟨pieces, s₂, hdrain, hview₂⟩ := ih
    exact ⟨pieces, s₂, hdrain, hview₂.trans hview⟩

/-- A tap on such a stream is one, too. -/
theorem tap (h : Accepts view) : Accepts fun t : Tap σ => view t.stream where
  write t bytes hbytes := by
    obtain ⟨count, s', hwrite, hpos, hview⟩ := h.write t.stream hbytes
    refine ⟨count, ⟨s', .given (bytes.take count) :: t.log⟩, ?_, hpos, hview⟩
    simp only [Stream.write, hwrite]
  flush t := by
    obtain ⟨hok, hview⟩ := h.flush t.stream
    rcases hflush : (Stream.flush t.stream).value with ⟨result, s'⟩
    rw [hflush] at hok hview
    cases hok
    simp only [Stream.flush, Trace.value_bind, hflush]
    exact ⟨rfl, hview⟩

/-- A poll of the emission completes its frame. -/
theorem pollSend (h : Accepts view) (m : StreamMedium σ) (block : Bytes) :
    (Medium.pollSend m block).value.1 = .ok true ∧ view (Medium.pollSend m block).value.2.stream = view m.stream := by
  obtain ⟨pieces, s, hdrain, hview⟩ := h.drain (block.drop m.sent) m.stream []
  obtain ⟨hok, hflush⟩ := h.flush s
  simp only [Medium.pollSend, StreamMedium.pollSend, hdrain, Trace.value_bind, hok]
  exact ⟨rfl, hflush.trans hview⟩

theorem pollSend_ok {n : Nat} {η : Type} [Handler η] {e e' : Endpoint n (StreamMedium σ) η} {frame : Bytes}
    {result : Except PollError Bool} (h : Accepts view) (hframe : e.link.armed? = some frame)
    (hrun : e.pollSend.result = .ok (result, e')) : result = .ok true := by
  have hdone := (h.pollSend e.link.medium frame).1
  unfold Endpoint.pollSend at hrun
  simp only [hframe, Run.result_bind, Run.result_lift, Outcomes.ok_bind, hdone] at hrun
  obtain ⟨e₁, _, hrest⟩ := Outcomes.bind_eq_ok.mp hrun
  cases hrest
  rfl

end Accepts

/-- A stream with some bytes left to come. A read gives at least one of them while there are any, a write takes
at least one byte, and nothing fails. -/
structure Supplies (left : σ → Bytes) : Prop where
  read : ∀ (s : σ) {want : Nat}, 0 < want → ∃ piece s', Stream.read s want = (.ok piece, s') ∧
    piece.length ≤ want ∧ piece ++ left s' = left s ∧ (piece = [] → left s = [])
  write : ∀ (s : σ) {bytes : Bytes}, bytes ≠ [] → ∃ count s', Stream.write s bytes = (.ok count, s') ∧
    0 < count ∧ left s' = left s
  flush : ∀ s : σ, (Stream.flush s).value.1 = .ok () ∧ left (Stream.flush s).value.2 = left s

variable {left : σ → Bytes}

/-- A block is filled if there are bytes enough for it, and otherwise the rest of them is used up. -/
theorem Supplies.gather (h : Supplies left) (want : Nat) (s : σ) (got : Bytes) :
    ∃ s', gather want s got =
        (if want ≤ (left s).length then .complete else .nothing, ((left s).take want).reverse ++ got, s') ∧
      left s' = (left s).drop want := by
  fun_induction Stream.gather want s got with
  | case1 s got => exact ⟨s, by simp, by simp⟩
  | case2 want s got hwant kind s' hread =>
    obtain ⟨piece, s₁, hok, _⟩ := h.read s (Nat.pos_of_ne_zero hwant)
    rw [hread] at hok
    cases hok
  | case3 want s got hwant bytes s' hread hnone =>
    obtain ⟨piece, s₁, hok, hle, hleft, hend⟩ := h.read s (Nat.pos_of_ne_zero hwant)
    rw [hread] at hok
    cases hok
    rw [List.take_of_length_le hle] at hnone
    have hnil : bytes = [] := List.eq_nil_of_length_eq_zero hnone
    subst hnil
    rw [hend rfl] at hleft ⊢
    refine ⟨s', ?_, ?_⟩
    · rw [if_neg (by simpa using hwant)]
      simp
    · simpa using hleft
  | case4 want s got hwant bytes s' hread hsome ih =>
    obtain ⟨piece, s₁, hok, hle, hleft, hend⟩ := h.read s (Nat.pos_of_ne_zero hwant)
    rw [hread] at hok
    cases hok
    rw [List.take_of_length_le hle] at ih ⊢
    obtain ⟨s₂, hgather, hleft₂⟩ := ih
    refine ⟨s₂, ?_, ?_⟩
    · rw [hgather, ← hleft, List.length_append, List.take_append, List.take_of_length_le hle, List.reverse_append,
        List.append_assoc]
      have hiff : want - bytes.length ≤ (left s').length ↔ want ≤ bytes.length + (left s').length := by omega
      simp only [hiff]
    · rw [hleft₂, ← hleft, List.drop_append, List.drop_of_length_le hle, List.nil_append]

theorem Supplies.accepts (h : Supplies left) : Accepts left :=
  ⟨h.write, h.flush⟩

/-- A tap on such a stream is one, too. -/
theorem Supplies.tap (h : Supplies left) : Supplies fun t : Tap σ => left t.stream where
  read t want hwant := by
    obtain ⟨piece, s', hread, hle, hleft, hend⟩ := h.read t.stream hwant
    refine ⟨piece.take want, ⟨s', .taken (piece.take want) :: t.log⟩, ?_, List.length_take_le _ _, ?_, ?_⟩
    · simp only [Stream.read, hread]
    · rw [List.take_of_length_le hle]
      exact hleft
    · rw [List.take_of_length_le hle]
      exact hend
  write t bytes hbytes := h.accepts.tap.write t hbytes
  flush t := h.accepts.tap.flush t

/-- A stream with some bytes left to come, which it hands over at its own pace: a read gives at least one of them, or
nothing for now. While there are bytes left it can make only so many more pauses. -/
structure Dribbles (left : σ → Bytes) (pauses : σ → Nat) : Prop where
  read : ∀ (s : σ) {want : Nat}, 0 < want →
    (∃ piece s', Stream.read s want = (.ok piece, s') ∧ piece ≠ [] ∧ piece.length ≤ want ∧ piece ++ left s' = left s ∧
      pauses s' ≤ pauses s) ∨
    ∃ kind s', Stream.read s want = (.error kind, s') ∧ kind.isIdle = true ∧ left s' = left s ∧ pauses s' ≤ pauses s ∧
      (left s = [] ∨ pauses s' < pauses s)

variable {pauses : σ → Nat}

/-- A block is filled, unless the stream makes a pause or has nothing left before that. -/
theorem Dribbles.gather (h : Dribbles left pauses) (want : Nat) (s : σ) (got : Bytes) :
    ∃ halt new s', gather want s got = (halt, new.reverse ++ got, s') ∧ new ++ left s' = left s ∧ pauses s' ≤ pauses s ∧
      (halt = .complete ∧ new.length = want ∨
        (∃ kind, halt = .failed kind ∧ kind.isIdle = true) ∧ new.length < want ∧
          (left s' = [] ∨ pauses s' < pauses s)) := by
  fun_induction Stream.gather want s got with
  | case1 s got => exact ⟨_, [], s, rfl, rfl, Nat.le_refl _, .inl ⟨rfl, rfl⟩⟩
  | case2 want s got hwant kind s' hread =>
    obtain ⟨piece, s₁, hok, _⟩ | ⟨kind', s₁, herror, hidle, hleft, hfewer, hpause⟩ :=
      h.read s (Nat.pos_of_ne_zero hwant)
    · rw [hread] at hok
      cases hok
    · rw [hread] at herror
      cases herror
      exact ⟨_, [], s', rfl, hleft, hfewer, .inr ⟨⟨kind, rfl, hidle⟩, Nat.pos_of_ne_zero hwant, hleft.symm ▸ hpause⟩⟩
  | case3 want s got hwant bytes s' hread hnone =>
    obtain ⟨piece, s₁, hok, hsome, hle, _⟩ | ⟨kind', s₁, herror, _⟩ := h.read s (Nat.pos_of_ne_zero hwant)
    · rw [hread] at hok
      cases hok
      rw [List.take_of_length_le hle] at hnone
      exact absurd (List.eq_nil_of_length_eq_zero hnone) hsome
    · rw [hread] at herror
      cases herror
  | case4 want s got hwant bytes s' hread hsome ih =>
    obtain ⟨piece, s₁, hok, _, hle, hleft, hpauses⟩ | ⟨kind', s₁, herror, _⟩ := h.read s (Nat.pos_of_ne_zero hwant)
    · rw [hread] at hok
      cases hok
      rw [List.take_of_length_le hle] at ih ⊢
      obtain ⟨halt, new, s₂, hgather, hnew, hfewer, hcases⟩ := ih
      refine ⟨halt, bytes ++ new, s₂, ?_, ?_, Nat.le_trans hfewer hpauses, ?_⟩
      · rw [hgather, List.reverse_append, List.append_assoc]
      · rw [List.append_assoc, hnew, hleft]
      · rw [List.length_append]
        obtain ⟨hhalt, hlength⟩ | ⟨hhalt, hlength, hpause⟩ := hcases
        · exact .inl ⟨hhalt, by omega⟩
        · exact .inr ⟨hhalt, by omega, hpause.imp_right fun h => by omega⟩
    · rw [hread] at herror
      cases herror

/-- A tap on such a stream is one, too. -/
theorem Dribbles.tap (h : Dribbles left pauses) :
    Dribbles (fun t : Tap σ => left t.stream) (fun t => pauses t.stream) where
  read t want hwant := by
    obtain ⟨piece, s', hread, hsome, hle, hleft, hpauses⟩ | ⟨kind, s', hread, hpause⟩ := h.read t.stream hwant
    · refine .inl ⟨piece.take want, ⟨s', .taken (piece.take want) :: t.log⟩, ?_, ?_,
        List.length_take_le _ _, ?_, hpauses⟩
      · simp only [Stream.read, hread]
      · rwa [List.take_of_length_le hle]
      · rwa [List.take_of_length_le hle]
    · refine .inr ⟨kind, ⟨s', t.log⟩, ?_, hpause⟩
      simp only [Stream.read, hread]

end Stream

/-- A stream that hands over and takes one byte at a time, and makes a pause where there is none in the list. -/
structure Drip where
  items : List (Option UInt8)

instance : Stream Drip where
  read d _ :=
    match d.items with
    | [] => (.error .wouldBlock, d)
    | none :: rest => (.error .wouldBlock, ⟨rest⟩)
    | some b :: rest => (.ok [b], ⟨rest⟩)
  write d _ := (.ok 1, d)
  flush d := pure (.ok (), d)

namespace Drip

def left (d : Drip) : Bytes :=
  d.items.filterMap id

def pauses (d : Drip) : Nat :=
  d.items.countP Option.isNone

theorem accepts {α : Type} (view : Drip → α) : Stream.Accepts view where
  write d _ _ := ⟨1, d, rfl, Nat.one_pos, rfl⟩
  flush _ := ⟨rfl, rfl⟩

theorem dribbles : Stream.Dribbles left pauses where
  read d want hwant := by
    rcases d with ⟨_ | ⟨_ | b, rest⟩⟩
    · exact .inr ⟨.wouldBlock, ⟨[]⟩, rfl, rfl, rfl, Nat.le_refl _, .inl rfl⟩
    · have hless : pauses ⟨rest⟩ < pauses ⟨none :: rest⟩ := by simp [pauses]
      exact .inr ⟨.wouldBlock, ⟨rest⟩, rfl, rfl, rfl, Nat.le_of_lt hless, .inr hless⟩
    · refine .inl ⟨[b], ⟨rest⟩, rfl, by simp, hwant, ?_, ?_⟩
      · simp [left]
      · simp [pauses]

end Drip

namespace Endpoint

variable {n : Nat} {σ η : Type}

/-- The stream of an endpoint, without its tap. -/
def line (e : Endpoint n (StreamMedium (Tap σ)) η) : σ :=
  e.link.medium.stream.stream

/-- The second endpoint is the first one after some bytes were taken from its stream. -/
structure Consumes (left : σ → Bytes) (pauses : σ → Nat) (e e' : Endpoint n (StreamMedium (Tap σ)) η) : Prop where
  taken : e'.link.medium.stream.taken ++ left e'.line = e.link.medium.stream.taken ++ left e.line
  left : (left e'.line).length ≤ (left e.line).length
  pauses : pauses e'.line ≤ pauses e.line

variable {left : σ → Bytes} {pauses : σ → Nat} {e e' e'' : Endpoint n (StreamMedium (Tap σ)) η}

theorem Consumes.refl (e : Endpoint n (StreamMedium (Tap σ)) η) : Consumes left pauses e e :=
  ⟨rfl, Nat.le_refl _, Nat.le_refl _⟩

theorem Consumes.trans (h : Consumes left pauses e e') (h' : Consumes left pauses e' e'') :
    Consumes left pauses e e'' :=
  ⟨h'.taken.trans h.taken, Nat.le_trans h'.left h.left, Nat.le_trans h'.pauses h.pauses⟩

/-- Receiving takes what the stream hands over, if the handler leaves the stream alone. If that does not complete the
block, the stream has made a pause or has nothing left. -/
theorem pollReceive_consumes [Stream σ] [Handler η] {result : Except PollError Bool}
    (hline : Stream.Dribbles left pauses) (hwaits : e.Waits) (hopen : e.link.medium.received < e.armedSize)
    (hkept : ∀ (e₁ : Endpoint n (StreamMedium (Tap σ)) η) report, e₁.link.armed? = e.link.armed? →
      e₁.blockReceived.result = .ok (report, e') → e'.link.medium.stream = e₁.link.medium.stream)
    (hrun : e.pollReceive.result = .ok (result, e')) :
    Consumes left pauses e e' ∧
      ((result = .ok false ∧ (left e'.line = [] ∨ pauses e'.line < pauses e.line)) ∨
        ((∃ report, result = reportOf report) ∧ (left e'.line).length < (left e.line).length)) := by
  obtain ⟨halt, new, stream, hgather, hnew, hpauses, hcases⟩ :=
    hline.tap.gather (e.armedSize - e.link.medium.received) e.link.medium.stream []
  obtain ⟨pieces, hhistory, hgot, _⟩ := Tap.gather_log (e.armedSize - e.link.medium.received) e.link.medium.stream []
  rw [hgather] at hhistory hgot
  rw [List.append_nil] at hgather
  have hpieces : pieces.flatten = new := List.reverse_inj.mp (by simpa using hgot.symm)
  have htaken : stream.taken = e.link.medium.stream.taken ++ new := by rw [(Tap.history_taken hhistory).1, hpieces]
  have hlength : new.length + (left stream.stream).length = (left e.line).length := by
    rw [← List.length_append, hnew]
    rfl
  -- whatever becomes of the block, the stream is where the reading has left it
  have hconsumes : e'.link.medium.stream = stream → Consumes left pauses e e' := by
    intro hstream
    have hline : e'.line = stream.stream := congrArg Tap.stream hstream
    refine ⟨?_, ?_, ?_⟩
    · rw [hline, hstream, htaken, List.append_assoc, hnew]
      rfl
    · rw [hline]
      omega
    · rw [hline]
      exact hpauses
  obtain ⟨rfl, hfull⟩ | ⟨⟨kind, rfl, hkind⟩, hshort, hpause⟩ := hcases
  · rw [pollReceive_absorb hwaits.room (by omega) hgather] at hrun
    obtain ⟨⟨report, e₁⟩, hreport, hrest⟩ := Outcomes.bind_eq_ok.mp hrun
    cases hrest
    have hstream : e₁.link.medium.stream = stream := hkept (e.absorb new stream) report rfl hreport
    refine ⟨hconsumes hstream, .inr ⟨⟨report, rfl⟩, ?_⟩⟩
    rw [line, hstream]
    omega
  · rw [pollReceive_absorb hwaits.room (by omega) hgather, Halt.toPoll, if_pos hkind] at hrun
    cases hrun
    exact ⟨hconsumes rfl, .inl ⟨rfl, hpause⟩⟩

end Endpoint

end BusBridge
