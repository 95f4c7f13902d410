import BusBridge.Proofs.Accesses
import BusBridge.Proofs.Outlets
/-!
# What the send buffer held before

The send buffer of a link is used for one response after the other, and nobody wipes it. Services write their replies
into it in place, let hardware fill parts of it, and start again where something failed. Here two runs are compared
that differ in nothing but the content of the buffer: what can be seen of them is the same.

Of a reply can be seen what is written of it, not what stands behind that (`Reply.face`). Every operation on a draft
keeps faces apart from contents, up to `Reply.settle`, which counts bytes as written that were put in place before: they
have to be there. Hardware is trusted in one thing, that a read which succeeds leaves in its slice what does not depend
on what the slice held before (`Overwrites`). From a service (`Service.Forgets`) this goes to the router's reply, also
where it replaces one that did not fit, and through `Link.commit_outlet` to the frame that is armed.

The main statement is `Peripheral.residue_unseen`. Its last part is about whole sessions: whatever is left in the buffer
before each request, the frames are the same, so no byte of a response shows in a later one.
-/

namespace BusBridge

theorem Trace.map_bind_same {α β γ : Type} {x x' : Trace α} {k k' : α → Trace β} {g : β → γ}
    (hevents : x.events = x'.events) (hk : g <$> k x.value = g <$> k' x'.value) :
    g <$> (x >>= k) = g <$> (x' >>= k') := by
  rw [map_bind, map_bind]
  apply Trace.ext
  · show x.events ++ (g <$> k x.value).events = x'.events ++ (g <$> k' x'.value).events
    rw [hevents, hk]
  · show (g <$> k x.value).value = (g <$> k' x'.value).value
    rw [hk]

theorem Trace.map_bind_alike {α β γ ε : Type} {x x' : Trace α} {f : α → ε} {k k' : α → Trace β} {g : β → γ}
    (hx : f <$> x = f <$> x') (hk : ∀ a a', f a = f a' → g <$> k a = g <$> k' a') :
    g <$> (x >>= k) = g <$> (x' >>= k') := by
  have hevents : x.events ++ [] = x'.events ++ [] := congrArg Trace.events hx
  rw [List.append_nil, List.append_nil] at hevents
  exact map_bind_same hevents (hk _ _ (congrArg Trace.value hx))

/-! ## Faces -/

namespace Draft

/-- What can be seen of a draft: what is written, and the size of the block. -/
def face (d : Draft) : Bytes × Nat :=
  (d.written, d.block.length)

variable {d d' : Draft}

theorem space_face (h : d.face = d'.face) : d.space = d'.space := by
  obtain ⟨hwritten, hsize⟩ := Prod.mk.inj h
  rw [space, space, hsize, ← d.length_written, ← d'.length_written, hwritten]

theorem put_face (h : d.face = d'.face) (bytes : Bytes) : (d.put bytes).map face = (d'.put bytes).map face := by
  obtain ⟨hwritten, hsize⟩ := Prod.mk.inj h
  have hspace := space_face h
  by_cases hfit : bytes.length ≤ d.space
  · obtain ⟨d₁, hput, hwritten₁, hremaining₁⟩ := put_eq hfit
    obtain ⟨d₂, hput₂, hwritten₂, hremaining₂⟩ := put_eq (hspace ▸ hfit)
    have hface : d₁.face = d₂.face := by
      simp only [face, length_block, hwritten₁, hwritten₂, hremaining₁, hremaining₂, List.length_drop, length_remaining,
        hwritten, hspace]
    rw [hput, hput₂]
    exact congrArg Except.ok hface
  · rw [put_full (Nat.lt_of_not_le hfit), put_full (hspace ▸ Nat.lt_of_not_le hfit)]

/-- Operations that look alike have failed both, or both left drafts that look alike. -/
theorem face_cases {x x' : Except CapacityError Draft} (h : x.map face = x'.map face) :
    (∃ e e', x = .error e ∧ x' = .error e') ∨ ∃ d d', x = .ok d ∧ x' = .ok d' ∧ d.face = d'.face := by
  cases x with
  | error e =>
    cases x' with
    | error e' => exact .inl ⟨e, e', rfl, rfl⟩
    | ok d' => cases h
  | ok d =>
    cases x' with
    | error e' => cases h
    | ok d' => exact .inr ⟨d, d', rfl, rfl, Except.ok.inj h⟩

theorem putAll_face (h : d.face = d'.face) (pieces : List Bytes) :
    (d.putAll pieces).1 = (d'.putAll pieces).1 ∧ (d.putAll pieces).2.face = (d'.putAll pieces).2.face := by
  induction pieces generalizing d d' with
  | nil => exact ⟨rfl, h⟩
  | cons piece rest ih =>
    rw [putAll, putAll]
    obtain ⟨e, e', hleft, hright⟩ | ⟨d₁, d₂, hleft, hright, hface⟩ := face_cases (put_face h piece)
    · rw [hleft, hright]
      exact ⟨rfl, h⟩
    · rw [hleft, hright]
      exact ih hface

/-- What is put into the space left is not seen. -/
theorem fill_face (d : Draft) (data : Bytes) : (d.fill data).face = d.face := by
  have hsize : (d.fill data).block.length = d.block.length := Bytes.length_overlay _ _ _
  rw [face, face, d.written_fill data, hsize]

/-- The same data that was put in place is counted as written, or there is no room for it. -/
theorem advance_face (h : d.face = d'.face) (data : Bytes) :
    ((d.fill data).advance data.length).map face = ((d'.fill data).advance data.length).map face := by
  have hspace := space_face h
  by_cases hfit : data.length ≤ d.space
  · rw [advance_fill hfit, advance_fill (hspace ▸ hfit)]
    exact put_face h data
  · have hleft := space_face (d.fill_face data)
    have hright := space_face (d'.fill_face data)
    rw [advance, advance, dif_neg (hleft.symm ▸ hfit), dif_neg (hright.symm ▸ hspace ▸ hfit)]

end Draft

namespace Reply

/-- What can be seen of a reply. -/
def face (r : Reply) : UInt8 × Bytes × Nat :=
  (r.operation, r.draft.face)

variable {r r' : Reply}

theorem face_ext (hoperation : r.operation = r'.operation) (hdraft : r.draft.face = r'.draft.face) : r.face = r'.face :=
  Prod.ext hoperation hdraft

theorem put_face (h : r.face = r'.face) (pieces : List Bytes) :
    (r.put pieces).1 = (r'.put pieces).1 ∧ (r.put pieces).2.face = (r'.put pieces).2.face := by
  obtain ⟨hoperation, hdraft⟩ := Prod.mk.inj h
  obtain ⟨hresult, hface⟩ := Draft.putAll_face hdraft pieces
  exact ⟨hresult, face_ext hoperation hface⟩

theorem finish_face (h : r.face = r'.face) (status : Status) (body : List Bytes) :
    (r.finish status body).1 = (r'.finish status body).1 ∧
      (r.finish status body).2.face = (r'.finish status body).2.face := by
  obtain ⟨hresult, hface⟩ := put_face h (wire status :: body)
  exact ⟨congrArg (Except.map fun _ => Outcome.replied) hresult, hface⟩

/-- A reply that starts again shows nothing of what was written. -/
theorem clear_face (h : r.face = r'.face) : r.clear.face = r'.clear.face := by
  obtain ⟨hoperation, hdraft⟩ := Prod.mk.inj h
  exact face_ext hoperation (Prod.ext rfl (Prod.mk.inj hdraft).2)

theorem length_room? {count : Nat} {slice : Bytes} (h : r.room? count = some slice) : slice.length = count := by
  unfold room? at h
  split at h
  next hfit =>
    cases h
    rw [List.length_take, Draft.length_remaining, Nat.min_eq_left hfit]
  next => cases h

theorem room?_face (h : r.face = r'.face) (count : Nat) :
    (r.room? count).map List.length = (r'.room? count).map List.length := by
  have hspace := Draft.space_face (Prod.mk.inj h).2
  simp only [room?, hspace]
  split
  · simp only [Option.map_some, List.length_take, Draft.length_remaining, hspace]
  · rfl

/-- Data in place is counted as written only after a success: then it has to be the same, and all of it has to be
there. -/
theorem settle_face (h : r.face = r'.face) {count : Nat} {status : Status} {data data' : Bytes} (rest : List Bytes)
    (hdata : status = .ok → data = data' ∧ data.length = count) :
    (r.settle count status data rest).1 = (r'.settle count status data' rest).1 ∧
      (r.settle count status data rest).2.face = (r'.settle count status data' rest).2.face := by
  obtain ⟨hoperation, hdraft⟩ := Prod.mk.inj h
  have hdrafts : (r.draft.fill data).face = (r'.draft.fill data').face := by
    rw [Draft.fill_face, Draft.fill_face, hdraft]
  have hfilled :
      Reply.face { r with draft := r.draft.fill data } = Reply.face { r' with draft := r'.draft.fill data' } :=
    face_ext hoperation hdrafts
  unfold settle
  by_cases hstatus : status = .ok
  · obtain ⟨rfl, hcount⟩ := hdata hstatus
    simp only [if_pos hstatus, ← hcount]
    obtain ⟨e, e', hleft, hright⟩ | ⟨d₁, d₂, hleft, hright, hface⟩ := Draft.face_cases (Draft.advance_face hdraft data)
    · rw [hleft, hright]
      exact ⟨rfl, hfilled⟩
    · rw [hleft, hright]
      exact ⟨rfl, face_ext hoperation hface⟩
  · simp only [if_neg hstatus]
    exact finish_face (clear_face hfilled) status rest

end Reply

/-! ## Services -/

section Shown

variable {α κ ω : Type}

/-- What is shown of a served request: how it went, the reply, and so much of the service as `look` tells. -/
def shown (look : κ → ω) (left : α × Reply × κ) : α × (UInt8 × Bytes × Nat) × ω :=
  (left.1, left.2.1.face, look left.2.2)

/-- The service replies the same, whatever the block held before. -/
def Service.Forgets [Service κ] (look : κ → ω) (service : κ) : Prop :=
  ∀ (request : Message) (r r' : Reply), r.face = r'.face →
    shown look <$> Service.handle service request r = shown look <$> Service.handle service request r'

variable {r r' : Reply}

theorem shown_finish (look : κ → ω) (h : r.face = r'.face) (body : List Bytes) (x : Trace (Status × κ)) :
    shown look <$> r.finishAfter body x = shown look <$> r'.finishAfter body x := by
  apply Trace.map_bind_same rfl
  obtain ⟨hresult, hface⟩ := Reply.finish_face h x.value.1 body
  simp only [map_pure, shown, hresult, hface]

/-- Two attempts at one access look alike, and the data of a success is the same. -/
structure AccessedAlike (look : κ → ω) (count : Nat) (x x' : Trace (Status × Bytes × κ)) : Prop where
  events : x.events = x'.events
  status : x.value.1 = x'.value.1
  data : x.value.1 = .ok → x.value.2.1 = x'.value.2.1 ∧ x.value.2.1.length = count
  service : look x.value.2.2 = look x'.value.2.2

theorem AccessedAlike.refused (look : κ → ω) (count : Nat) (service : κ) :
    AccessedAlike look count (pure (.invalidArguments, [], service)) (pure (.invalidArguments, [], service)) where
  events := rfl
  status := rfl
  data hok := by cases (hok : Status.invalidArguments = .ok)
  service := rfl

theorem shown_inPlace (look : κ → ω) (h : r.face = r'.face) (head rest : List Bytes) {count : Nat} (service : κ)
    {access : Option Bytes → Trace (Status × Bytes × κ)}
    (haccess : ∀ slice? slice?', slice?.map List.length = slice?'.map List.length →
      (∀ slice, slice? = some slice → slice.length = count) →
      AccessedAlike look count (access slice?) (access slice?')) :
    shown look <$> r.inPlace head rest count service access =
      shown look <$> r'.inPlace head rest count service access := by
  obtain ⟨hresult, hface⟩ := Reply.put_face h head
  rcases hleft : r.put head with ⟨result, started⟩
  rcases hright : r'.put head with ⟨result', started'⟩
  rw [hleft, hright] at hresult hface
  cases hresult
  cases result with
  | error e => simp only [Reply.inPlace, hleft, hright, map_pure, shown, hface]
  | ok _ =>
    have halike := haccess _ _ (Reply.room?_face hface count) fun slice hslice => Reply.length_room? hslice
    simp only [Reply.inPlace, hleft, hright]
    apply Trace.map_bind_same halike.events
    obtain ⟨hsettled, hshown⟩ := Reply.settle_face hface rest halike.data
    simp only [map_pure, shown, ← halike.status, hsettled, hshown, halike.service]

end Shown

/-- Whether a read succeeds does not depend on what the slice held before, and a read that succeeds leaves the same in
the slice, whatever it held. -/
structure Overwrites {φ β : Type} (read : Bytes → Except φ Unit × Bytes × β) : Prop where
  result : ∀ {slice slice' : Bytes}, slice.length = slice'.length → (read slice).1 = (read slice').1
  content : ∀ {slice slice' : Bytes}, slice.length = slice'.length → (read slice).1 = .ok () →
    Bytes.overlay slice 0 (read slice).2.1 = Bytes.overlay slice' 0 (read slice').2.1

/-- Moreover the port afterwards does not depend on it. -/
structure Blind {φ β : Type} (read : Bytes → Except φ Unit × Bytes × β) : Prop extends Overwrites read where
  port : ∀ {slice slice' : Bytes}, slice.length = slice'.length → (read slice).2.2 = (read slice').2.2

section Reading

variable {φ β κ ω : Type}

/-- Read into a slice, if there is one, and put the port back to its place. -/
def readInto (read : Bytes → Except φ Unit × Bytes × β) (report : Except φ Unit → Trace Status) (event : Nat → Event)
    (place : β → κ) (service : κ) : Option Bytes → Trace (Status × Bytes × κ)
  | none => pure (.invalidArguments, [], service)
  | some slice => do
    emit (event slice.length)
    let (result, data, port) := read slice
    pure (← report result, Bytes.overlay slice 0 data, place port)

/-- What is read into slices of one size does not tell them apart. -/
theorem readInto_alike {read : Bytes → Except φ Unit × Bytes × β} (h : Overwrites read)
    {report : Except φ Unit → Trace Status} (hreport : ∀ result, (report result).value = .ok → result = .ok ())
    (event : Nat → Event) {place : β → κ} (service : κ) {look : κ → ω}
    (hlook : ∀ slice slice', slice.length = slice'.length →
      look (place (read slice).2.2) = look (place (read slice').2.2))
    {slice? slice?' : Option Bytes} (hsizes : slice?.map List.length = slice?'.map List.length) {count : Nat}
    (hcount : ∀ slice, slice? = some slice → slice.length = count) :
    AccessedAlike look count (readInto read report event place service slice?)
      (readInto read report event place service slice?') := by
  cases slice? with
  | none =>
    cases slice?' with
    | none => exact .refused look count service
    | some slice' => cases hsizes
  | some slice =>
    cases slice?' with
    | none => cases hsizes
    | some slice' =>
      have hsize : slice.length = slice'.length := Option.some.inj hsizes
      have hresult := h.result hsize
      refine ⟨?_, ?_, ?_, hlook slice slice' hsize⟩
      · show [event slice.length] ++ ((report (read slice).1).events ++ []) =
          [event slice'.length] ++ ((report (read slice').1).events ++ [])
        rw [hsize, hresult]
      · show (report (read slice).1).value = (report (read slice').1).value
        rw [hresult]
      · intro hok
        exact ⟨h.content hsize (hreport _ hok), (Bytes.length_overlay _ _ _).trans (hcount slice rfl)⟩

end Reading

namespace Board

variable {ω : Type} {look : Board → ω}

theorem forgets (b : Board) : Service.Forgets look b := by
  intro request r r' h
  have hfinish (status : Status) (body : List Bytes) := shown_finish look h body (pure (status, b))
  simp only [Service.handle]
  unfold answer
  split
  · exact hfinish .ok _
  split
  · exact hfinish .ok _
  split
  · exact hfinish .ok _
  split
  · exact hfinish .ok _
  split
  · unfold wait
    split
    next d _ =>
      exact shown_finish look h [] do
        note (.delaying d.milliseconds)
        emit (.delay d.milliseconds)
        pure (.ok, b)
    next e _ =>
      exact shown_finish look h [] do
        note (.delayRefused e)
        pure (.invalidArguments, b)
  · simp only [pure_bind, map_pure, shown, h]

end Board

namespace I2cPorts

variable {β ω : Type} [I2cPort β] {m : I2cPorts β} {look : I2cPorts β → ω}

theorem report_ok (result : Except I2cFault Unit) (h : (report result).value = .ok) : result = .ok () := by
  cases result with
  | ok _ => rfl
  | error fault =>
    have hfailed : (if fault.isNack then Status.slaveNotConnected else .unknownError) ≠ .ok := by
      split <;> decide
    exact absurd h hfailed

theorem read_alike {channel : UInt8} (address : UInt16)
    (hports : ∀ port ∈ m.ports, ∀ address, Overwrites (I2cPort.read port address))
    (hlook : ∀ port ∈ m.ports, ∀ address slice slice', slice.length = slice'.length →
      look (m.setPort channel (I2cPort.read port address slice).2.2) =
        look (m.setPort channel (I2cPort.read port address slice').2.2))
    {slice? slice?' : Option Bytes} (hsizes : slice?.map List.length = slice?'.map List.length) {count : Nat}
    (hcount : ∀ slice, slice? = some slice → slice.length = count) :
    AccessedAlike look count (m.read channel address slice?) (m.read channel address slice?') := by
  rcases hport : m.port? channel with _ | port
  · simp only [read, hport]
    exact .refused look count m
  rcases hseven : sevenBits? address with _ | low
  · simp only [read, hport, hseven]
    exact .refused look count m
  have hread : m.read channel address =
      readInto (I2cPort.read port low) report (fun size => .i2c channel.toNat (.read low size))
        (m.setPort channel) m := by
    ext1 slice?
    cases slice? <;> simp only [read, hport, hseven, readInto]
  have hmem : port ∈ m.ports := List.mem_of_getElem? hport
  rw [hread]
  exact readInto_alike (hports port hmem low) report_ok _ m (hlook port hmem low) hsizes hcount

theorem forgets (hports : ∀ port ∈ m.ports, ∀ address, Overwrites (I2cPort.read port address))
    (hlook : ∀ channel, ∀ port ∈ m.ports, ∀ address slice slice', slice.length = slice'.length →
      look (m.setPort channel (I2cPort.read port address slice).2.2) =
        look (m.setPort channel (I2cPort.read port address slice').2.2)) : Service.Forgets look m := by
  intro request r r' h
  show shown look <$> m.answer request r = shown look <$> m.answer request r'
  unfold answer
  split
  · exact shown_finish look h [] (m.configure _ _)
  split
  · split
    next arguments _ => exact shown_finish look h [wire arguments.address] (m.write _ arguments)
    next => exact shown_finish look h [] (pure (.invalidArguments, m))
  split
  · split
    next arguments _ =>
      rw [replyRead_inPlace, replyRead_inPlace]
      apply shown_inPlace look h
      intro slice? slice?' hsizes hcount
      exact read_alike arguments.address hports (hlook _) hsizes hcount
    next => exact shown_finish look h [] (pure (.invalidArguments, m))
  · simp only [map_pure, shown, h]

end I2cPorts

namespace SpiPorts

variable {β ω : Type} [SpiPort β] {m : SpiPorts β} {look : SpiPorts β → ω}

theorem report_ok (result : Except SpiFault Unit) (h : (report result).value = .ok) : result = .ok () := by
  cases result with
  | ok _ => rfl
  | error fault => cases h

theorem read_alike {channel : UInt8} (hports : ∀ port ∈ m.ports, Overwrites (SpiPort.read port))
    (hlook : ∀ port ∈ m.ports, ∀ slice slice', slice.length = slice'.length →
      look (m.setPort channel (SpiPort.read port slice).2.2) = look (m.setPort channel (SpiPort.read port slice').2.2))
    {slice? slice?' : Option Bytes} (hsizes : slice?.map List.length = slice?'.map List.length) {count : Nat}
    (hcount : ∀ slice, slice? = some slice → slice.length = count) :
    AccessedAlike look count (m.read channel slice?) (m.read channel slice?') := by
  rcases hport : m.port? channel with _ | port
  · simp only [read, hport]
    exact .refused look count m
  have hread : m.read channel =
      readInto (SpiPort.read port) report (fun size => .spi channel.toNat (.read size)) (m.setPort channel) m := by
    ext1 slice?
    cases slice? <;> simp only [read, hport, readInto]
  have hmem : port ∈ m.ports := List.mem_of_getElem? hport
  rw [hread]
  exact readInto_alike (hports port hmem) report_ok _ m (hlook port hmem) hsizes hcount

/-- A transfer is given what it sends, not what the block held. -/
theorem transfer_alike {channel : UInt8} {slice? slice?' : Option Bytes} (data : Bytes)
    (hsizes : slice?.map List.length = slice?'.map List.length) :
    AccessedAlike look data.length (m.transfer channel (slice?.map fun _ => data))
      (m.transfer channel (slice?'.map fun _ => data)) := by
  have hsame : slice?'.map (fun _ => data) = slice?.map fun _ => data := by
    cases slice? <;> cases slice?' <;> first | rfl | cases hsizes
  rw [hsame]
  refine ⟨rfl, rfl, fun hok => ⟨rfl, ?_⟩, rfl⟩
  rcases hport : m.port? channel with _ | port
  · simp only [transfer, hport] at hok
    cases hok
  rcases slice? with _ | slice
  · simp only [transfer, hport, Option.map_none] at hok
    cases hok
  · simp only [transfer, hport, Option.map_some]
    exact Bytes.length_overlay _ _ _

theorem forgets (hports : ∀ port ∈ m.ports, Overwrites (SpiPort.read port))
    (hlook : ∀ channel, ∀ port ∈ m.ports, ∀ slice slice', slice.length = slice'.length →
      look (m.setPort channel (SpiPort.read port slice).2.2) =
        look (m.setPort channel (SpiPort.read port slice').2.2)) :
    Service.Forgets look m := by
  intro request r r' h
  show shown look <$> m.answer request r = shown look <$> m.answer request r'
  unfold answer
  split
  · exact shown_finish look h [wire m.count] (pure (.ok, m))
  split
  · exact shown_finish look h [] (m.configure _ _)
  split
  · split
    next arguments _ =>
      rw [replyInPlace_inPlace, replyInPlace_inPlace]
      apply shown_inPlace look h
      intro slice? slice?' hsizes hcount
      exact read_alike hports (hlook _) hsizes hcount
    next => exact shown_finish look h [] (pure (.invalidArguments, m))
  split
  · exact shown_finish look h [] (m.write _ _)
  split
  · rw [replyInPlace_inPlace, replyInPlace_inPlace]
    apply shown_inPlace look h
    intro slice? slice?' hsizes _
    exact transfer_alike request.payload hsizes
  · simp only [map_pure, shown, h]

end SpiPorts

/-! ## Routers -/

namespace Router

variable {κ ω ω' : Type} [Service κ]

/-- A reply is the same on blocks of one size, also if it is replaced because it did not fit. -/
theorem reply_forgets {look : κ → ω} {service : κ} (h : Service.Forgets look service) (request : Message)
    {block block' : Bytes} (hsize : block.length = block'.length) :
    shown look <$> reply service request block = shown look <$> reply service request block' := by
  have hstart : (Reply.start request.operation block).face = (Reply.start request.operation block').face :=
    Reply.face_ext rfl (Prod.ext rfl hsize)
  apply Trace.map_bind_alike (h request _ _ hstart)
  rintro ⟨result, r, service₁⟩ ⟨result', r', service₂⟩ hsame
  obtain ⟨rfl, hrest⟩ := Prod.mk.inj hsame
  obtain ⟨hface, hlook⟩ := Prod.mk.inj hrest
  cases result with
  | ok outcome => simp only [map_pure, shown, hface, hlook]
  | error e =>
    have hagain : Reply.face { r.clear with operation := responseTo request.operation } =
        Reply.face { r'.clear with operation := responseTo request.operation } :=
      Reply.face_ext rfl (Prod.mk.inj (Reply.clear_face hface)).2
    apply Trace.map_bind_same rfl
    simp only [map_pure, shown, (Reply.put_face hagain _).2, hlook]

variable {n : Nat} {δ φ : Type} [Medium δ φ]

/-- The frame of a reply is armed as it was written. -/
theorem commit_face (hn : Header.size < n) {l l' : Link n δ} (hidle : l.sending = none) (h : l.outlet = l'.outlet)
    {r r' : Reply} (hface : r.face = r'.face) (component channel : UInt8) :
    Link.onOutlet <$> (l.writePayload r.draft.block).commit component r.operation channel r.draft.length =
      Link.onOutlet <$> (l'.writePayload r'.draft.block).commit component r'.operation channel r'.draft.length := by
  have hidle' := Link.idle_of_same h hidle
  obtain ⟨hoperation, hdraft⟩ := Prod.mk.inj hface
  have hwritten : r.draft.written = r'.draft.written := (Prod.mk.inj hdraft).1
  have hlength : r.draft.length = r'.draft.length := by
    rw [← r.draft.length_written, hwritten, r'.draft.length_written]
  rw [Link.commit_outlet hn, Link.commit_outlet hn, Link.outlet_writePayload hidle, Link.outlet_writePayload hidle', h,
    ← hlength, ← hoperation]
  by_cases hfit : r.draft.length ≤ n - Header.size
  · -- the start of the payload is what was written
    have hpayload (l : Link n δ) (d : Draft) (hd : d.length ≤ n - Header.size) :
        (l.writePayload d.block).payload.take d.length = d.written := by
      rw [Link.payload_writePayload, Bytes.take_overlay_zero (by rwa [Link.length_payload]) d.length_le]
      rfl
    have hright := hpayload l' r'.draft (hlength ▸ hfit)
    rw [← hlength] at hright
    rw [hpayload l r.draft hfit, hright, hwritten]
  · have hfull : min (n - Header.size) maxPayload < r.draft.length := by omega
    have hframe : l'.outlet.frame = none := Link.outlet_idle hidle'
    rw [Link.refusal_full hfull, Outlet.post_refused hframe, Outlet.post_refused hframe]

/-- What is seen of a router and its link. -/
def onView (view : Router κ → ω') (p : Router κ × Link n δ) : ω' × Outlet δ :=
  (view p.1, p.2.outlet)

/-- A request is dispatched alike over links that look alike. -/
theorem dispatch_forgets (look : κ → ω) (view : Router κ → ω') (hn : Header.size < n) {l l' : Link n δ}
    (h : l.outlet = l'.outlet) {router : Router κ} {request : Message}
    (hservice : ∀ service, router.get? request.component = some service → Service.Forgets look service)
    (hview : ∀ service service' tally, look service = look service' →
      view { router.update request.component service with tally } =
        view { router.update request.component service' with tally }) :
    onView view <$> router.dispatch request l = onView view <$> router.dispatch request l' := by
  unfold dispatch
  cases hget : router.get? request.component with
  | none =>
    apply Run.map_bind_after
    intro _
    simp only [map_pure, onView, h]
  | some service =>
    have hbusy : l.isBusy = l'.isBusy := by
      have hframe : l.armed?.isSome = l'.armed?.isSome := congrArg (fun o => o.frame.isSome) h
      simpa only [Link.isBusy, Link.armed?, Option.isSome_map] using hframe
    simp only [← hbusy]
    cases hsending : l.sending with
    | some size =>
      simp only [Link.isBusy, hsending, Option.isSome_some, if_true]
      apply Run.map_bind_after
      intro _
      simp only [map_pure, onView, h]
    | none =>
      simp only [Link.isBusy, hsending, Option.isSome_none, Bool.false_eq_true, if_false]
      apply Run.map_bind_after
      intro _
      have hpayload : l.payload.length = l'.payload.length := by rw [Link.length_payload, Link.length_payload]
      have hreply := congrArg (liftM : Trace _ → Run _) (reply_forgets (hservice service hget) request hpayload)
      rw [liftM_map, liftM_map] at hreply
      apply Run.map_bind_alike hreply
      rintro ⟨outcome, r, service₁⟩ ⟨outcome', r', service₂⟩ hsame
      obtain ⟨rfl, hrest⟩ := Prod.mk.inj hsame
      obtain ⟨hface, hlook⟩ := Prod.mk.inj hrest
      have hidle' := Link.idle_of_same h hsending
      cases outcome with
      | notImplemented =>
        apply Run.map_bind_after
        intro _
        simp only [map_pure, onView, Link.outlet_writePayload hsending, Link.outlet_writePayload hidle', h]
        rw [hview service₁ service₂ _ hlook]
        rfl
      | replied =>
        apply Run.map_bind_alike (commit_face hn hsending h hface request.component request.channel)
        rintro ⟨sent, l₁⟩ ⟨sent', l₂⟩ hsent
        obtain ⟨rfl, hlinks⟩ := Prod.mk.inj hsent
        have hrouters := hview service₁ service₂ { router.tally with handled := router.tally.handled.plus 1 } hlook
        cases sent with
        | ok _ =>
          simp only [map_pure, onView, hlinks]
          exact congrArg (fun v => pure (v, l₂.outlet)) hrouters
        | error e =>
          apply Run.map_bind_after
          intro _
          simp only [map_pure, onView, hlinks]
          exact congrArg (fun v => pure (v, l₂.outlet)) hrouters

/-- Serve requests one after the other. Before each request bytes are left in the send buffer, and after it the
response is sent: the frames of the responses. -/
def session (router : Router κ) (l : Link n δ) : List (Bytes × Message) → Run (List (Option Bytes) × Router κ)
  | [] => pure ([], router)
  | (residue, request) :: rest => do
    let (router, l) ← router.dispatch request (l.writePayload residue)
    let (frames, router) ← router.session { l with sending := none } rest
    pure (l.armed? :: frames, router)

/-- What is left in the buffer is not seen in a session. -/
theorem session_forgets (hn : Header.size < n) (hservices : ∀ service : κ, Service.Forgets id service)
    (router : Router κ) {l l' : Link n δ} (hidle : l.sending = none) (h : l.outlet = l'.outlet)
    {work work' : List (Bytes × Message)} (hwork : work.map Prod.snd = work'.map Prod.snd) :
    router.session l work = router.session l' work' := by
  induction work generalizing router l l' work' with
  | nil =>
    cases work' with
    | nil => rfl
    | cons _ _ => cases hwork
  | cons first rest ih =>
    cases work' with
    | nil => cases hwork
    | cons first' rest' =>
      obtain ⟨residue, request⟩ := first
      obtain ⟨residue', request'⟩ := first'
      obtain ⟨rfl, hrest⟩ := List.cons.inj hwork
      have hidle' := Link.idle_of_same h hidle
      have houtlets : (l.writePayload residue).outlet = (l'.writePayload residue').outlet := by
        rw [Link.outlet_writePayload hidle, Link.outlet_writePayload hidle', h]
      have hupdate (service service' : κ) (tally : Tally) (heq : id service = id service') :
          id { router.update request.component service with tally } =
            id { router.update request.component service' with tally } := by
        rw [show service = service' from heq]
      have hdispatch := dispatch_forgets id id hn houtlets (fun service _ => hservices service) hupdate
      rw [session, session, ← id_map (router.dispatch request (l.writePayload residue) >>= _),
        ← id_map (router.dispatch request (l'.writePayload residue') >>= _)]
      apply Run.map_bind_alike hdispatch
      rintro ⟨router₁, l₁⟩ ⟨router₂, l₂⟩ hsame
      obtain ⟨hrouter, hlinks⟩ : router₁ = router₂ ∧ l₁.outlet = l₂.outlet := Prod.mk.inj hsame
      have hframe : l₁.armed? = l₂.armed? := congrArg Outlet.frame hlinks
      subst hrouter
      simp only [ih router₁ rfl (Link.outlet_complete hlinks) hrest, hframe]

end Router

/-! ## The services of a bridge -/

/-- A board, I2C ports or SPI ports. -/
inductive Peripheral (β γ : Type) where
  | board (b : Board)
  | i2c (m : I2cPorts β)
  | spi (m : SpiPorts γ)

namespace Peripheral

variable {β γ : Type} [I2cPort β] [SpiPort γ]

instance : Service (Peripheral β γ) where
  handle
    | board b, request, r => do
      let (outcome, r, b) ← Service.handle b request r
      pure (outcome, r, board b)
    | i2c m, request, r => do
      let (outcome, r, m) ← Service.handle m request r
      pure (outcome, r, i2c m)
    | spi m, request, r => do
      let (outcome, r, m) ← Service.handle m request r
      pure (outcome, r, spi m)

/-- Reads of the ports leave in a slice what does not depend on what it held before. -/
def Overwriting : Peripheral β γ → Prop
  | board _ => True
  | i2c m => ∀ port ∈ m.ports, ∀ address, Overwrites (I2cPort.read port address)
  | spi m => ∀ port ∈ m.ports, Overwrites (SpiPort.read port)

/-- A service among others forgets what it forgets by itself. -/
theorem forgets_wrap {κ ω : Type} [Service κ] {service : κ} {wrap : κ → Peripheral β γ} {look : Peripheral β γ → ω}
    (hhandle : ∀ request r, Service.handle (wrap service) request r = (do
      let (outcome, r, service) ← Service.handle service request r
      pure (outcome, r, wrap service)))
    (h : Service.Forgets (look ∘ wrap) service) : Service.Forgets look (wrap service) := by
  intro request r r' hface
  rw [hhandle, hhandle]
  apply Trace.map_bind_alike (h request r r' hface)
  rintro ⟨outcome, r₁, service₁⟩ ⟨outcome', r₂, service₂⟩ hsame
  simp only [map_pure]
  exact congrArg pure hsame

theorem forgets_reply {service : Peripheral β γ} (h : service.Overwriting) : Service.Forgets (fun _ => ()) service := by
  cases service with
  | board b => exact forgets_wrap (fun _ _ => rfl) b.forgets
  | i2c m => exact forgets_wrap (fun _ _ => rfl) (I2cPorts.forgets h fun _ _ _ _ _ _ _ => rfl)
  | spi m => exact forgets_wrap (fun _ _ => rfl) (SpiPorts.forgets h fun _ _ _ _ _ _ => rfl)

theorem forgets_all (hi2c : ∀ (port : β) (address : UInt8), Blind (I2cPort.read port address))
    (hspi : ∀ port : γ, Blind (SpiPort.read port)) (service : Peripheral β γ) : Service.Forgets id service := by
  cases service with
  | board b => exact forgets_wrap (fun _ _ => rfl) b.forgets
  | i2c m =>
    apply forgets_wrap (fun _ _ => rfl)
    apply I2cPorts.forgets (fun port _ address => (hi2c port address).toOverwrites)
    intro channel port _ address slice slice' hsize
    simp only [Function.comp, (hi2c port address).port hsize]
  | spi m =>
    apply forgets_wrap (fun _ _ => rfl)
    apply SpiPorts.forgets (fun port _ => (hspi port).toOverwrites)
    intro channel port _ slice slice' hsize
    simp only [Function.comp, (hspi port).port hsize]

/-- Whatever the send buffer held before, a service takes a request in the same way, a router arms the same response for
it, and the responses of a session are the same. -/
theorem residue_unseen {n : Nat} {δ φ : Type} [Medium δ φ] (hn : Header.size < n) :
    (∀ service : Peripheral β γ, service.Overwriting → ∀ (request : Message) (r r' : Reply),
      r.operation = r'.operation → r.written = r'.written → r.draft.block.length = r'.draft.block.length →
        let left := Service.handle service request r
        let left' := Service.handle service request r'
        left.events = left'.events ∧ left.value.1 = left'.value.1 ∧
          left.value.2.1.operation = left'.value.2.1.operation ∧ left.value.2.1.written = left'.value.2.1.written) ∧
    (∀ (router : Router (Peripheral β γ)) (request : Message),
      (∀ service, router.get? request.component = some service → service.Overwriting) →
        ∀ l l' : Link n δ, l.medium = l'.medium → l.armed? = l'.armed? → l.dump = l'.dump →
          (fun p => (p.1.tally, p.2.medium, p.2.armed?)) <$> router.dispatch request l =
            (fun p => (p.1.tally, p.2.medium, p.2.armed?)) <$> router.dispatch request l') ∧
    ((∀ (port : β) (address : UInt8), Blind (I2cPort.read port address)) → (∀ port : γ, Blind (SpiPort.read port)) →
      ∀ (router : Router (Peripheral β γ)) (l : Link n δ), l.sending = none →
        ∀ work work' : List (Bytes × Message), work.map Prod.snd = work'.map Prod.snd →
          router.session l work = router.session l work') := by
  refine ⟨?_, ?_, ?_⟩
  · intro service hservice request r r' hoperation hwritten hsize
    have hforgets := forgets_reply hservice request r r' (Reply.face_ext hoperation (Prod.ext hwritten hsize))
    have hevents := congrArg Trace.events hforgets
    change _ ++ [] = _ ++ [] at hevents
    rw [List.append_nil, List.append_nil] at hevents
    obtain ⟨houtcome, hreply⟩ := Prod.mk.inj (congrArg Trace.value hforgets)
    obtain ⟨hface, _⟩ := Prod.mk.inj hreply
    obtain ⟨hop, hdraft⟩ := Prod.mk.inj hface
    exact ⟨hevents, houtcome, hop, (Prod.mk.inj hdraft).1⟩
  · intro router request hservices l l' hmedium hframe hdump
    have houtlet : l.outlet = l'.outlet := by simp only [Link.outlet, hmedium, hframe, hdump]
    have hdispatch := Router.dispatch_forgets (fun _ => ()) Router.tally hn houtlet
      (fun service hget => forgets_reply (hservices service hget)) (fun _ _ _ _ => rfl)
    have hseen := congrArg (fun x => (fun p => (p.1, p.2.medium, p.2.frame)) <$> x) hdispatch
    simp only [Functor.map_map] at hseen
    exact hseen
  · intro hi2c hspi router l hidle work work' hwork
    exact router.session_forgets hn (forgets_all hi2c hspi) hidle rfl hwork

end Peripheral

/-- A port whose slaves answer every read with their address. -/
structure Chorus where

namespace Chorus

instance : I2cPort Chorus where
  configure port _ _ _ := (.ok (), port)
  write port _ _ := (.ok (), port)
  read port address slice := (.ok (), slice.map fun _ => address, port)

theorem blind (port : Chorus) (address : UInt8) : Blind (I2cPort.read port address) where
  result _ := rfl
  content {slice slice'} hsize _ := by
    show Bytes.overlay slice 0 (slice.map fun _ => address) = Bytes.overlay slice' 0 (slice'.map fun _ => address)
    rw [Bytes.overlay_whole (List.length_map _), Bytes.overlay_whole (List.length_map _), List.map_const',
      List.map_const', hsize]
  port _ := rfl

end Chorus

theorem Bench.SpiSim.blind (port : Bench.SpiSim) : Blind (SpiPort.read port) where
  result _ := rfl
  content {slice slice'} hsize _ := by
    show Bytes.overlay slice 0 (slice.mapIdx fun i _ => UInt8.ofNat i) =
      Bytes.overlay slice' 0 (slice'.mapIdx fun i _ => UInt8.ofNat i)
    rw [Bytes.overlay_whole List.length_mapIdx, Bytes.overlay_whole List.length_mapIdx]
    apply List.ext_getElem
    · rw [List.length_mapIdx, List.length_mapIdx, hsize]
    · intro i _ _
      rw [List.getElem_mapIdx, List.getElem_mapIdx]
  port _ := rfl

/-- Reads over a buffer that holds other bytes, after a description that does not fit. -/
theorem Peripheral.residue_unseen_reads :
    let i2c : Peripheral Chorus Bench.SpiSim := .i2c ⟨[⟨⟩]⟩
    let router : Router (Peripheral Chorus Bench.SpiSim) :=
      { capacity := 3, services := [(0, .board ⟨"bridge with two ports", 1, []⟩), (1, i2c),
        (2, .spi ⟨[⟨none, none⟩]⟩)] }
    let l : Link 16 Detached := .idle ⟨⟩
    (Service.handle i2c ⟨1, 2, 0, [0, 0x23, 2]⟩ (.start 2 [7, 7, 7, 7, 7])).value.2.1.written =
        (Service.handle i2c ⟨1, 2, 0, [0, 0x23, 2]⟩ (.start 2 [0, 0, 0, 0, 0])).value.2.1.written ∧
      (fun p => (p.1.tally, p.2.medium, p.2.armed?)) <$> router.dispatch ⟨2, 2, 0, [0, 4]⟩ (l.writePayload [7, 7, 7]) =
        (fun p => (p.1.tally, p.2.medium, p.2.armed?)) <$> router.dispatch ⟨2, 2, 0, [0, 4]⟩ l ∧
      router.session l [([7], ⟨0, 1, 0, []⟩), ([7, 7, 7, 7], ⟨1, 2, 0, [0, 0x23, 4]⟩), ([9], ⟨2, 2, 0, [0, 3]⟩)] =
        router.session l [([], ⟨0, 1, 0, []⟩), ([], ⟨1, 2, 0, [0, 0x23, 4]⟩), ([], ⟨2, 2, 0, [0, 3]⟩)] := by
  intro i2c router l
  obtain ⟨hhandle, hdispatch, hsession⟩ :=
    residue_unseen (β := Chorus) (γ := Bench.SpiSim) (n := 16) (δ := Detached) (by decide)
  refine ⟨?_, ?_, ?_⟩
  · exact (hhandle i2c (fun port _ address => (port.blind address).toOverwrites) _ _ _ rfl rfl rfl).2.2.2
  · have hservices : ∀ service, router.get? 2 = some service → service.Overwriting := by
      intro service hget
      cases hget
      exact fun port _ => port.blind.toOverwrites
    exact hdispatch router ⟨2, 2, 0, [0, 4]⟩ hservices (l.writePayload [7, 7, 7]) l rfl rfl rfl
  · exact hsession Chorus.blind Bench.SpiSim.blind router l rfl _ _ rfl

end BusBridge
