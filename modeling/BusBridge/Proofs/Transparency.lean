import BusBridge.Bench.Device
import BusBridge.Proofs.Answers
import BusBridge.Proofs.Dispatch
import BusBridge.Proofs.Feeding
/-!
# Remote calls are transparent

A host that sends a request of the protocol over a line, and reads the answer out of the response, gets
what it would get if it held the hardware itself: `Endpoint.requests_transparent`. The request is any of
the protocol, with arguments of any value and on any channel; the board, the ports and what their
hardware does are arbitrary, and so are the media on both sides and whatever else the bridge serves.

The way goes through the frame that the host starts, the bridge that is fed it, the service that its
router finds, and the payload of the one response that is armed then. A bridge may hold its services in
any type, as long as those of the three kinds act there as they do by themselves (`Fittings`).

What is not established here is that the bytes of the frames arrive: the line is the business of
`Endpoint.polls_deliver_parse` and `Caller.calls_agree`.
-/

namespace BusBridge

/-- Services of one kind among all the services of a bridge. -/
structure Fitting (τ κ : Type) [Service τ] [Service κ] where
  wrap : τ → κ
  handle_wrap : ∀ (service : τ) (request : Message) (reply : Reply),
    let left := (Service.handle service request reply).value
    (Service.handle (wrap service) request reply).value = (left.1, left.2.1, wrap left.2.2)

/-- The services of a board and of both kinds of ports among all the services of a bridge. -/
structure Fittings (β γ κ : Type) [I2cPort β] [SpiPort γ] [Service κ] where
  board : Fitting Board κ
  i2c : Fitting (I2cPorts β) κ
  spi : Fitting (SpiPorts γ) κ

section Serving

variable {β γ κ : Type} [I2cPort β] [SpiPort γ] [Service κ]

/-- The router has a board and ports at their places. -/
structure Router.Holds (router : Router κ) (fittings : Fittings β γ κ) (o : Outfit β γ) : Prop where
  board : router.get? ComponentId.bridge.toByte = some (fittings.board.wrap o.board)
  i2c : router.get? ComponentId.i2cMaster.toByte = some (fittings.i2c.wrap o.i2c)
  spi : router.get? ComponentId.spiMaster.toByte = some (fittings.spi.wrap o.spi)

/-- A service answers in a bridge as it does by itself. -/
theorem Request.AnsweredBy.wrap {τ : Type} [Service τ] (fitting : Fitting τ κ) {r : Request} {channel : UInt8}
    {block : Bytes} {service : τ} {expected : Except Status r.command.Answer}
    (h : r.AnsweredBy channel block service expected) :
    r.AnsweredBy channel block (fitting.wrap service) expected := by
  have hwrap := fitting.handle_wrap service (r.message channel) (.start r.command.operation block)
  unfold AnsweredBy
  rw [hwrap]
  exact h

/-- A request of the protocol finds a service that answers it. -/
theorem Router.Holds.answered {router : Router κ} {fittings : Fittings β γ κ} {o : Outfit β γ}
    (h : router.Holds fittings o) (channel : UInt8) {block : Bytes} (hroom : 3 ≤ block.length) {r : Request}
    (hknown : r.isKnown = true) :
    ∃ service, router.get? r.command.component = some service ∧
      r.AnsweredBy channel block service (r.expected o channel block) := by
  have hcomponent : r.command.component = ComponentId.bridge.toByte ∨
      r.command.component = ComponentId.i2cMaster.toByte ∨
      r.command.component = ComponentId.spiMaster.toByte := by
    cases r with
    | protocolVersion | hardwareInfo | firmwareVersion | supportedComponents | delay => exact .inl rfl
    | i2cConfig | i2cWrite | i2cRead => exact .inr (.inl rfl)
    | spiChannels | spiConfig | spiRead | spiWrite | spiTransfer => exact .inr (.inr rfl)
    | other => cases hknown
  rcases hcomponent with hc | hc | hc
  · exact ⟨_, hc ▸ h.board, (Board.answers o channel hroom hknown hc).wrap fittings.board⟩
  · exact ⟨_, hc ▸ h.i2c, (I2cPorts.answers o channel hroom hknown hc).wrap fittings.i2c⟩
  · exact ⟨_, hc ▸ h.spi, (SpiPorts.answers o channel hroom hknown hc).wrap fittings.spi⟩

/-- The response to a request of the protocol reads as expected. -/
theorem Desk.serve_expected {d : Desk κ} {fittings : Fittings β γ κ} {o : Outfit β γ} (h : d.router.Holds fittings o)
    (channel : UInt8) (hroom : 3 ≤ d.block.length) (hmax : d.block.length ≤ maxPayload) {r : Request}
    (hknown : r.isKnown = true) :
    ∃ response d', d.serve (r.message channel) = some (response, d') ∧ response.component = r.command.component ∧
      response.operation = responseTo r.command.operation ∧ response.channel = channel ∧
      r.command.readAnswer response.payload = (r.expected o channel d.block).mapError .status := by
  obtain ⟨service, hget, hanswered⟩ := h.answered channel hroom hknown
  obtain ⟨reply, hreply, hoperation, hblock, hreads⟩ := Router.reply_answered rfl (by omega) rfl hanswered
  have hlength : reply.draft.length ≤ d.block.length := hblock ▸ reply.draft.length_le
  obtain ⟨d', hserve⟩ := serve_replied hget hreply ⟨hlength, Nat.le_trans hlength hmax⟩
  exact ⟨_, d', hserve, rfl, hoperation, rfl, hreads⟩

end Serving

namespace Endpoint

variable {β γ κ δ ε φ ψ : Type} [I2cPort β] [SpiPort γ] [Service κ] [Medium δ φ] [Medium ε ψ] {n k : Nat}

/-- A request of the protocol that fits on both sides arms one response at an idle bridge, and the host
reads out of it what the request gets from the hardware. -/
theorem requests_transparent (host : Link n ε) (bridge : Endpoint k δ (Router κ)) (fittings : Fittings β γ κ)
    (o : Outfit β γ) (r : Request) (channel : UInt8) (hknown : r.isKnown = true) (hn : Header.size < n) (hk : 8 ≤ k)
    (hk' : k ≤ 65540) (hsends : r.layout.length ≤ n - Header.size) (hreceives : r.layout.length ≤ k - Header.size)
    (hhost : host.sending = none) (hidle : bridge.link.sending = none) (hheader : bridge.reception = .header)
    (hholds : bridge.handler.Holds fittings o) :
    ∃ host' results bridge', ∃ response : Message,
      (host.sendRequest channel r).result = .ok (.ok (), host') ∧ host'.armed? = some (r.message channel).frame ∧
      (bridge.feed (r.message channel).frame).result = .ok (results, [], bridge') ∧
        (∀ result ∈ results, result = .ok ()) ∧
      bridge'.link.armed? = some response.frame ∧
      bridge'.link.medium = Medium.armReceive
        (Medium.armSend (armedFor bridge.link.medium (r.message channel)) response.frame.length) Header.size ∧
      response.component = r.command.component ∧ response.operation = responseTo r.command.operation ∧
      response.channel = channel ∧
      r.command.readAnswer response.payload = (r.expected o channel bridge.link.payload).mapError .status := by
  have hsize : bridge.link.payload.length = k - 5 := bridge.link.length_payload
  have hmax : r.layout.length ≤ maxPayload := Nat.le_trans hreceives (show k - 5 ≤ 65535 by omega)
  obtain ⟨host', hsend, hcarries⟩ := @Link.sendRequest_fits n ε _ _ host channel r hn hhost hsends hmax
  obtain ⟨response, d, hserve, hcomponent, hoperation, hchannel, hreads⟩ :=
    @Desk.serve_expected β γ κ _ _ _ ⟨bridge.handler, bridge.link.payload⟩ fittings o hholds channel
      (show 3 ≤ bridge.link.payload.length by omega) (show bridge.link.payload.length ≤ 65535 by omega) r hknown
  -- the link that the router is given has the same buffer, so the desk is the same
  obtain ⟨router, link, hdispatch, hstarted⟩ := bridge.handler.dispatch_idle (r.message channel)
    (show Header.size < k from Nat.lt_of_lt_of_le (by decide) hk)
    (show ({ bridge.link with medium := armedFor bridge.link.medium (r.message channel) } : Link k δ).sending =
      none from hidle)
  obtain ⟨response', d', hserve', _, _, hresponse⟩ | ⟨hnone, _, _⟩ := hstarted
  · cases hserve.symm.trans hserve'
    obtain ⟨results, bridge', hfeed, hresults, _, _, hlink⟩ := feed_frame
      (show Header.size < k from Nat.lt_of_lt_of_le (by decide) hk) hheader hmax hreceives hdispatch
    refine ⟨host', results, bridge', response, hsend, hcarries.armed, hfeed, hresults, ?_, ?_, hcomponent, hoperation,
      hchannel, hreads⟩
    · rw [hlink]
      exact hresponse.armed
    · rw [hlink, hresponse.medium]
  · cases hserve.symm.trans hnone

/-- A simulated bridge is one of its kind. -/
def simulated : Fittings Bench.I2cSim Bench.SpiSim Bench.Device where
  board := ⟨.board, fun _ _ _ => rfl⟩
  i2c := ⟨.i2c, fun _ _ _ => rfl⟩
  spi := ⟨.spi, fun _ _ _ => rfl⟩

/-- Two I2C ports, the second one with a slave, and one SPI port. -/
def twoPorts : Outfit Bench.I2cSim Bench.SpiSim where
  board := ⟨"two ports", 3, [.bridge, .i2cMaster, .spiMaster]⟩
  i2c := ⟨[⟨[], none⟩, ⟨[⟨0x50, [7, 8, 9], none⟩], none⟩]⟩
  spi := ⟨[⟨none, none⟩]⟩

/-- A bridge over these ports, with frames of 16 bytes. -/
def twoPortBridge : Endpoint 16 Detached (Router Bench.Device) where
  link := .idle ⟨⟩
  inbox := .zeroed 16
  reception := .header
  handler := { capacity := 3, services := [(0, .board twoPorts.board), (1, .i2c twoPorts.i2c), (2, .spi twoPorts.spi)] }
  oversized := 0

/-- A host that holds frames of 13 bytes sends a request to this bridge, and reads an answer out of the response. -/
def Gets (channel : UInt8) (r : Request) (answer : Except AnswerError r.command.Answer) : Prop :=
  ∃ (host : Link 13 Detached) (results : List (Except Oversized Unit))
    (bridge : Endpoint 16 Detached (Router Bench.Device)) (response : Message),
    (Link.sendRequest (.idle ⟨⟩) channel r).result = .ok (.ok (), host) ∧ host.armed? = some (r.message channel).frame ∧
    (twoPortBridge.feed (r.message channel).frame).result = .ok (results, [], bridge) ∧
    bridge.link.armed? = some response.frame ∧ r.command.readAnswer response.payload = answer

/-- Four bytes are read from the slave, and three exchanged over SPI. There is no second SPI port, and none takes words
of three bits. -/
theorem requests_transparent_twoPorts :
    twoPortBridge.handler.Holds simulated twoPorts ∧
    Gets 1 (.i2cRead ⟨0x50, 4⟩) (.ok (⟨0x50, [7, 8, 9, 7]⟩ : I2c.Data)) ∧
    Gets 0 (.i2cRead ⟨0x50, 4⟩) (.error (.status .slaveNotConnected)) ∧
    Gets 0 (.spiTransfer ⟨[1, 2, 3]⟩) (.ok (⟨[254, 253, 252]⟩ : Raw)) ∧
    Gets 1 (.spiTransfer ⟨[1, 2, 3]⟩) (.error (.status .invalidArguments)) ∧
    Gets 0 (.spiConfig ⟨8, .msbFirst, 0, 1, 1000⟩) (.ok ()) ∧
    Gets 0 (.spiConfig ⟨3, .msbFirst, 0, 1, 1000⟩) (.error (.status .invalidArguments)) := by
  have hholds : twoPortBridge.handler.Holds simulated twoPorts := ⟨rfl, rfl, rfl⟩
  have hgets (channel : UInt8) (r : Request) (hknown : r.isKnown = true) (hsize : r.layout.length ≤ 8) :
      Gets channel r ((r.expected twoPorts channel twoPortBridge.link.payload).mapError .status) := by
    obtain ⟨host, results, bridge, response, hsend, harmed, hfeed, _, hresponse, _, _, _, _, hreads⟩ :=
      requests_transparent (.idle ⟨⟩ : Link 13 Detached) twoPortBridge simulated twoPorts r channel hknown (by decide)
        (by decide) (by decide) hsize (Nat.le_trans hsize (by decide)) rfl rfl rfl hholds
    exact ⟨host, results, bridge, response, hsend, harmed, hfeed, hresponse, hreads⟩
  exact ⟨hholds, hgets _ _ rfl (by decide), hgets _ _ rfl (by decide), hgets _ _ rfl (by decide),
    hgets _ _ rfl (by decide), hgets _ _ rfl (by decide), hgets _ _ rfl (by decide)⟩

end Endpoint

end BusBridge
