import BusBridge.Proofs.Accesses
/-!
# The advertised channels

SPI ports tell how many they are, in one byte. The channels are meant to be those below that number. A channel is a
byte as well, so there can be one channel more than the byte can tell of: `SpiPorts.channels_served` says which channels
are served, with any number of ports, and `SpiPorts.channel_unadvertised` that the last one may be served without
being advertised. With fewer than 256 ports the number is exact.
-/

namespace BusBridge

namespace SpiPorts

variable {β : Type}

theorem toNat_count (m : SpiPorts β) : m.count.toNat = min m.ports.length 255 := by
  have hlt : min m.ports.length 255 < UInt8.size := Nat.lt_of_le_of_lt (Nat.min_le_right _ _) (by decide)
  exact UInt8.toNat_ofNat_of_lt' hlt

/-- A channel has a port if it is below the advertised number, or if it is the last one of so many ports that a byte
cannot tell of it. -/
theorem lt_ports_iff (m : SpiPorts β) (channel : UInt8) :
    channel.toNat < m.ports.length ↔ channel < m.count ∨ channel = 255 ∧ 255 < m.ports.length := by
  have hcount := m.toNat_count
  have hbyte : channel.toNat ≤ 255 := Nat.le_of_lt_succ channel.toNat_lt
  have hlast : channel = 255 ↔ channel.toNat = 255 := UInt8.toNat_inj.symm
  rw [UInt8.lt_iff_toNat_lt, hcount, hlast]
  omega

variable [SpiPort β]

/-- The ports answer with this number when they are asked for their channels, whatever else the request says. -/
def Advertises (m : SpiPorts β) (count : UInt8) : Prop :=
  ∀ (request : Message) (r : Reply), request.operation = Command.spiChannels.operation → r.draft.length = 0 →
    1 < r.draft.block.length →
      (Service.handle m request r).value.1 = .ok .replied ∧
        Command.spiChannels.readAnswer (Service.handle m request r).value.2.1.written = .ok ⟨count⟩

/-- The channel has a port, and every access that a request on this channel asks for is made there. -/
structure Serves (m : SpiPorts β) (channel : UInt8) : Prop where
  port : (m.port? channel).isSome
  reached : ∀ (request : Message) (r : Reply) (a : SpiAccess), request.channel = channel → r.draft.length = 0 →
    0 < r.draft.block.length →
      SpiAccess.asked? r.draft.block.length request.operation request.payload = some a →
        .spi channel.toNat a ∈ (Service.handle m request r).events

/-- The channel has no port, and no request on this channel accesses any. -/
structure Refuses (m : SpiPorts β) (channel : UInt8) : Prop where
  port : m.port? channel = none
  untouched : ∀ (request : Message) (r : Reply) (e : Event), request.channel = channel → r.draft.length = 0 →
    0 < r.draft.block.length → e ∈ (Service.handle m request r).events → e.isAccess = false

theorem advertises_count (m : SpiPorts β) : m.Advertises m.count := by
  intro request r hop hblank hroom
  have hfirst : request.operation = 0 := hop
  have hseen := m.count_conduct hfirst hblank hroom
  rw [conduct, if_pos hfirst] at hseen
  have houtcome := congrArg Conduct.outcome hseen
  have hwritten := congrArg Conduct.written hseen
  simp only [Conduct.seen] at houtcome hwritten
  rw [hwritten]
  exact ⟨houtcome, rfl⟩

/-- With room for a status, a request makes the access that it asks for, on its own channel, and no other. -/
theorem mem_events (m : SpiPorts β) (request : Message) {r : Reply} (hblank : r.draft.length = 0)
    (hroom : 0 < r.draft.block.length) (e : Event) :
    e ∈ (Service.handle m request r).events ∧ e.isAccess ↔
      ∃ a, SpiAccess.asked? r.draft.block.length request.operation request.payload = some a ∧
        request.channel.toNat < m.ports.length ∧ e = .spi request.channel.toNat a := by
  rw [← m.mem_conduct request r e]
  by_cases hop : request.operation = 0
  · have hevents : (Service.handle m request r).events = [] := congrArg Trace.events (if_pos hop)
    rw [hevents, conduct, if_pos hop]
    simp only [List.not_mem_nil, false_and]
  · rw [← m.access_conduct hop hblank hroom]
    exact List.mem_filter.symm

theorem serves_of_lt {m : SpiPorts β} {channel : UInt8} (h : channel.toNat < m.ports.length) : m.Serves channel where
  port := by
    rw [port?, List.getElem?_eq_getElem h]
    rfl
  reached := by
    rintro request r a rfl hblank hroom hasked
    exact ((m.mem_events request hblank hroom _).mpr ⟨a, hasked, h, rfl⟩).1

theorem refuses_of_le {m : SpiPorts β} {channel : UInt8} (h : m.ports.length ≤ channel.toNat) : m.Refuses channel where
  port := List.getElem?_eq_none h
  untouched := by
    rintro request r e rfl hblank hroom hmem
    cases haccess : e.isAccess with
    | false => rfl
    | true =>
      obtain ⟨_, _, hlt, _⟩ := (m.mem_events request hblank hroom e).mp ⟨hmem, haccess⟩
      exact absurd hlt (Nat.not_lt_of_le h)

/-- No channel is both. -/
theorem Serves.not_refuses {m : SpiPorts β} {channel : UInt8} (h : m.Serves channel) : ¬m.Refuses channel := by
  intro hrefuses
  have hport := h.port
  rw [hrefuses.port] at hport
  cases hport

theorem serves_iff (m : SpiPorts β) (channel : UInt8) : m.Serves channel ↔ channel.toNat < m.ports.length := by
  refine ⟨fun hserves => ?_, serves_of_lt⟩
  apply Nat.lt_of_not_le
  intro hle
  exact hserves.not_refuses (refuses_of_le hle)

theorem refuses_iff (m : SpiPorts β) (channel : UInt8) : m.Refuses channel ↔ m.ports.length ≤ channel.toNat := by
  refine ⟨fun hrefuses => ?_, refuses_of_le⟩
  apply Nat.le_of_not_lt
  intro hlt
  exact (serves_of_lt hlt).not_refuses hrefuses

/-- Ports advertise their number, 255 if there are more. The channels below that number are served, and with more
ports than that the channel 255 as well; all others are refused. -/
theorem channels_served (m : SpiPorts β) (channel : UInt8) :
    m.Advertises m.count ∧ m.count.toNat = min m.ports.length 255 ∧
      (m.Serves channel ↔ channel < m.count ∨ channel = 255 ∧ 255 < m.ports.length) ∧
      (m.Refuses channel ↔ ¬(channel < m.count ∨ channel = 255 ∧ 255 < m.ports.length)) := by
  refine ⟨m.advertises_count, m.toNat_count, ?_, ?_⟩
  · rw [← m.lt_ports_iff channel]
    exact m.serves_iff channel
  · rw [← m.lt_ports_iff channel, Nat.not_lt]
    exact m.refuses_iff channel

/-- With two ports, a request on channel 1 reaches the hardware and the same request on channel 2 does not. -/
theorem channels_served_pair :
    let m : SpiPorts Bench.SpiSim := ⟨[⟨none, none⟩, ⟨none, none⟩]⟩
    m.Advertises 2 ∧ .spi 1 (.write [7]) ∈ (Service.handle m ⟨2, 3, 1, [7]⟩ (.start 3 [0xee])).events ∧
      m.Refuses 2 := by
  intro m
  obtain ⟨hcount, _, hserves, _⟩ := channels_served m 1
  obtain ⟨_, _, _, hrefuses⟩ := channels_served m 2
  exact ⟨hcount, (hserves.mpr (.inl (by decide))).reached _ _ _ rfl rfl (by decide) rfl, hrefuses.mpr (by decide)⟩

/-- Of 256 ports the last one is served and not advertised. -/
theorem channel_unadvertised :
    let m : SpiPorts Bench.SpiSim := ⟨List.replicate 256 ⟨none, none⟩⟩
    ∃ count : UInt8, m.Advertises count ∧ m.Serves 255 ∧ ¬255 < count := by
  intro m
  have hports : m.ports.length = 256 := List.length_replicate
  have hcount := m.toNat_count
  rw [hports] at hcount
  refine ⟨m.count, m.advertises_count, serves_of_lt (hports.symm ▸ by decide), ?_⟩
  rw [UInt8.lt_iff_toNat_lt, hcount]
  decide

end SpiPorts

end BusBridge
