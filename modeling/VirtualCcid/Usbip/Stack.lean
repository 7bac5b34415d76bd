import VirtualCcid.Nfc.PollCache
import VirtualCcid.Nfc.PollRate
import VirtualCcid.Ccid.Calls
import VirtualCcid.Usbip.Requests

/-! The whole stack, from the requests of the host down to the commands that the PN532 is sent. -/
namespace VirtualCcid.Usbip
open Rust Nfc Ccid Runs

/-- The bytes that the host has written to the bulk OUT endpoint. -/
def written (usb : UsbIp) {β : Type*} (h : List (Event (UsbDevice β) UsbRequest UsbReply)) :
    List UInt8 :=
  (opsOf usb h).flatMap TransportOp.written

section AnyBridge
variable {β : Type*} [BridgeOps β]

/-- The bridge handles only commands of frames contiguous in the bytes written to bulk OUT and the
`Abort` of control requests, and refreshes only for interrupt transfers. -/
theorem bridge_asked (usb : UsbIp) (bridge : β)
    {h : List (Event (UsbDevice β) UsbRequest UsbReply)} {d : UsbDevice β}
    (hr : Run (usbMachine usb β) (buildVirtualCcidDevice bridge) h d) :
    ∃ is, d.transport.bridge.value = (bridgeOpsMachine β).final bridge is ∧
      (∀ command, .command command ∈ is →
        (∃ frame, frame <:+: written usb h ∧ CcidCommand.decode frame = .ok command) ∨
        ∃ seq, command = .abort 0 seq ∧ ∃ value, u16ToLeBytes value = (0, seq) ∧
          .controlRequest 0x21 ccidAbort value ∈ opsOf usb h) ∧
      (.refresh ∈ is → .interruptIn ∈ opsOf usb h) := by
  obtain ⟨is, hbridge, -, his⟩ := bridge_asked_by_host (run_transport hr)
  rw [Machine.history_inputs] at his
  refine ⟨is, hbridge, fun command hcommand => ?_, fun hrefresh => his _ hrefresh⟩
  rcases his _ hcommand with ⟨frame, command', hframe, hd, heq⟩ | ⟨value, seq, hop, hvalue, hc⟩
  · obtain rfl := BridgeInput.command.inj heq
    exact Or.inl ⟨frame, hframe, hd⟩
  · exact Or.inr ⟨seq, hc, value, hvalue, hop⟩

/-- The host writes an `IccPowerOn` and an `XfrBlock`, the second one in two packets. -/
def blockRequests : List UsbRequest :=
  [.interface ⟨⟨0x01, .bulk, 64, 0⟩, 10, ⟨0, 0, 0, 0, 0⟩, [0x62, 0, 0, 0, 0, 0, 1, 0, 0, 0]⟩,
    .interface ⟨⟨0x01, .bulk, 64, 0⟩, 6, ⟨0, 0, 0, 0, 0⟩, [0x6f, 1, 0, 0, 0, 0]⟩,
    .interface ⟨⟨0x01, .bulk, 64, 0⟩, 5, ⟨0, 0, 0, 0, 0⟩, [2, 0, 0, 0, 0x00]⟩]

theorem blocks_asked :
    let d := (usbMachine .standard (CcidBridge FakeReader)).final
      (buildVirtualCcidDevice statusBridge) blockRequests
    ∃ is, d.transport.bridge.value =
      (bridgeOpsMachine (CcidBridge FakeReader)).final statusBridge is ∧ .refresh ∉ is := by
  intro d
  obtain ⟨is, hbridge, -, hrefresh⟩ := bridge_asked .standard statusBridge
    (Machine.run_of_inputs (usbMachine .standard (CcidBridge FakeReader)) _ blockRequests)
  refine ⟨is, hbridge, fun hmem => ?_⟩
  have hpoll := hrefresh hmem
  rw [opsOf, Machine.history_inputs] at hpoll
  exact absurd hpoll (by decide)

end AnyBridge

/-- The bridge of the PN532 backend, over a device that notes its commands. -/
abbrev Pn532Bridge (δ : Type*) := CcidBridge (Pn532UartReader (RecordedDevice δ))

variable {δ : Type*} [Pn532Device δ]

/-- The commands that the PN532 has been sent. -/
def UsbDevice.sent (d : UsbDevice (Pn532Bridge δ)) : List DeviceCall :=
  d.transport.bridge.value.reader.pn532.calls

def exported (device : δ) : UsbDevice (Pn532Bridge δ) :=
  buildVirtualCcidDevice (.new (.opened ⟨device, []⟩))

/-- Every `InDataExchange` is sent while the field is on by the device's last word, to the target
named last, with the normalised APDU of an `XfrBlock` contiguous in the bytes written. -/
theorem exchanges_of_host (usb : UsbIp) (device : δ)
    {h : List (Event (UsbDevice (Pn532Bridge δ)) UsbRequest UsbReply)} {d : UsbDevice (Pn532Bridge δ)}
    (hr : Run (usbMachine usb (Pn532Bridge δ)) (exported device) h d)
    {pre post : List DeviceCall} {data : List UInt8} {result : Except Pn532Error (List UInt8)}
    (hs : d.sent = pre ++ .dynamic (.inDataExchange data) result :: post) :
    FieldOn (pre.map .call) ∧ data.length ≤ 311 ∧
      ∃ target apdu, Selected (pre.map .call) target ∧ data = target :: apdu ∧
        ∃ frame slot seq bwi levelParameter payload, frame <:+: written usb h ∧
          CcidCommand.decode frame = .ok (.xfrBlock slot seq bwi levelParameter payload) ∧
          apdu = if payload[1]? = some apduGetResponseIns then payload.set 0 0x00 else payload := by
  obtain ⟨is, hbridge, -, his⟩ := bridge_asked_by_host (run_transport hr)
  rw [bridgeOpsMachine_bridge] at hbridge
  obtain ⟨opss, hopss, hreader⟩ := (bridge_drives_reader _).final
    (CcidBridge.new (Pn532UartReader.opened (⟨device, []⟩ : RecordedDevice δ))) is
  rw [← hbridge] at hreader
  have hbackend := Machine.run_of_inputs (backendMachine (Pn532UartReader (RecordedDevice δ)))
    (.opened ⟨device, []⟩) opss.flatten
  have hsent : d.sent = ((backendMachine (Pn532UartReader (RecordedDevice δ))).final
      (.opened ⟨device, []⟩) opss.flatten).pn532.calls :=
    congrArg (fun r => r.pn532.calls) hreader
  obtain ⟨hfield, target, htarget, apdu, hapdu, hdata, hlength⟩ :=
    backend_exchanges hbackend (hsent.symm.trans hs)
  rw [Machine.history_inputs] at hapdu
  obtain ⟨i, hi, ops, hcalls, hmem⟩ := exists_cause hopss hapdu
  obtain ⟨slot, seq, bwi, levelParameter, payload, rfl, hnormalized⟩ := hcalls.exchange hmem
  have hasked := his _ hi
  rw [Machine.history_inputs] at hasked
  rcases hasked with ⟨frame, command, hframe, hd, heq⟩ | ⟨value, seq', -, -, habort⟩
  · obtain rfl := BridgeInput.command.inj heq
    exact ⟨hfield, hlength, target, apdu, htarget, hdata, frame, slot, seq, bwi, levelParameter,
      payload, hframe, hd, CcidBridge.normalizeApduForExchange_ok hnormalized⟩
  · cases habort

theorem blocks_exchanged :
    let d := (usbMachine .standard (Pn532Bridge ScriptedDevice)).final (exported listedCard)
      blockRequests
    FieldOn ((d.sent.take 2).map .call) ∧
      ∃ target, Selected ((d.sent.take 2).map .call) target ∧ target = 1 := by
  intro d
  have hsplit : d.sent = d.sent.take 2 ++
      .dynamic (.inDataExchange [1, 0x00]) (.ok [0x00, 0x90, 0x00]) :: [] := rfl
  obtain ⟨hfield, -, target, apdu, htarget, hdata, -⟩ := exchanges_of_host .standard listedCard
    (Machine.run_of_inputs _ _ blockRequests) hsplit
  exact ⟨hfield, target, htarget, (List.cons.inj hdata).1.symm⟩

omit [Pn532Device δ] in
theorem sent_of_transport {d d' : UsbDevice (Pn532Bridge δ)}
    (h : d'.transport.bridge.value = d.transport.bridge.value) : d'.sent = d.sent :=
  congrArg (fun b => b.reader.pn532.calls) h

theorem sent_of_inputs {d d' : UsbDevice (Pn532Bridge δ)} {is : List BridgeInput}
    (h : d'.transport.bridge.value =
      (bridgeOpsMachine (Pn532Bridge δ)).final d.transport.bridge.value is) :
    ∃ opss cs, List.Forall₂ BridgeInput.Calls is opss ∧ d'.sent = d.sent ++ cs ∧
      ExchangesAmong (opss.flatten.flatMap ReaderOp.apdus) cs := by
  rw [bridgeOpsMachine_bridge] at h
  obtain ⟨opss, hopss, hreader⟩ := (bridge_drives_reader _).final d.transport.bridge.value is
  obtain ⟨cs, hcalls, hamong⟩ :=
    Pn532UartReader.final_notes d.transport.bridge.value.reader opss.flatten
  rw [← hreader, ← h] at hcalls
  exact ⟨opss, cs, hopss, hcalls, hamong⟩

theorem exchange_of_inputs {is : List BridgeInput} {opss : List (List ReaderOp)}
    {cs : List DeviceCall} (hopss : List.Forall₂ BridgeInput.Calls is opss)
    (hamong : ExchangesAmong (opss.flatten.flatMap ReaderOp.apdus) cs) {data : List UInt8}
    {result : Except Pn532Error (List UInt8)} (hmem : .dynamic (.inDataExchange data) result ∈ cs) :
    ∃ slot seq bwi levelParameter payload,
      .command (.xfrBlock slot seq bwi levelParameter payload) ∈ is := by
  obtain ⟨target, apdu, hapdu, -⟩ := hamong data result hmem
  obtain ⟨op, hop, hapdu⟩ := List.mem_flatMap.mp hapdu
  obtain ⟨i, hi, ops, hcalls, hmem⟩ := exists_cause hopss hop
  have hop' : op = .exchangeApdu apdu := by
    cases op with
    | exchangeApdu apdu' => rw [List.mem_singleton.mp hapdu]
    | pollCard | powerOff => cases hapdu
  rw [hop'] at hmem
  obtain ⟨slot, seq, bwi, levelParameter, payload, rfl, -⟩ := hcalls.exchange hmem
  exact ⟨slot, seq, bwi, levelParameter, payload, hi⟩

/-- Only bulk OUT and interrupt transfers reach the PN532. An interrupt transfer exchanges nothing,
and sends nothing during a session; bulk OUT exchanges only for a block in the bytes it completes. -/
theorem requests_reaching_card (usb : UsbIp) (d : UsbDevice (Pn532Bridge δ))
    (request : UsbRequest) :
    let d' := ((usbMachine usb (Pn532Bridge δ)).step d request).2
    match request.op usb with
    | none | some (.controlRequest ..) | some (.bulkIn _) => d'.sent = d.sent
    | some .interruptIn =>
      (∃ cs, d'.sent = d.sent ++ cs ∧ ∀ c ∈ cs, c.isExchange = false) ∧
        (d.transport.bridge.value.slotPowered = true →
          d.transport.bridge.value.currentCard.isSome = true → d'.sent = d.sent)
    | some (.bulkOut bytes) =>
      ∃ cs, d'.sent = d.sent ++ cs ∧ ∀ c ∈ cs, c.isExchange = true →
        ∃ frame slot seq bwi levelParameter payload,
          frame <:+: d.transport.pendingOutBuffer ++ bytes ∧
          CcidCommand.decode frame = .ok (.xfrBlock slot seq bwi levelParameter payload) := by
  intro d'
  cases hop : request.op usb with
  | none => exact sent_of_transport (congrArg (·.bridge.value) (step_of_no_op hop d))
  | some op =>
    have hstep : d'.transport = ((transportMachine _).step d.transport op).2 := (step_of_op hop d).2
    cases op with
    | bulkIn maxLen =>
      have h := (d.transport.handleBulkIn_advances maxLen).bridge
      exact sent_of_transport ((congrArg (·.bridge.value) hstep).trans h)
    | controlRequest requestType request value =>
      obtain ⟨is, his, h⟩ := d.transport.handleControlRequest_advances requestType request value
      have hsame : (bridgeOpsMachine (Pn532Bridge δ)).final d.transport.bridge.value is =
          d.transport.bridge.value := by
        -- An `Abort` leaves the bridge as it is.
        rcases his with rfl | ⟨-, -, seq, -, rfl⟩
        · rfl
        · rfl
      exact sent_of_transport ((congrArg (·.bridge.value) hstep).trans (h.bridge.trans hsame))
    | interruptIn =>
      obtain ⟨⟨is, his, h⟩, -⟩ := d.transport.handleInterruptIn_drives
      have hbridge := (congrArg (·.bridge.value) hstep).trans h
      refine ⟨?_, fun hpowered hcard => ?_⟩
      · obtain ⟨opss, cs, hopss, hsent, hamong⟩ := sent_of_inputs hbridge
        refine ⟨cs, hsent, fun c hc => ?_⟩
        by_contra hexchange
        match c with
        | .dynamic (.inDataExchange data) result =>
          obtain ⟨_, _, _, _, _, hmem⟩ := exchange_of_inputs hopss hamong hc
          rcases his with rfl | rfl
          · cases hmem
          · cases List.mem_singleton.mp hmem
        | .dynamic .inListOneIsoATarget _ | .dynamic (.rfConfiguration _) _ | .process _ _ =>
          exact hexchange rfl
      · rcases his with rfl | rfl
        · exact sent_of_transport hbridge
        · have hsame : d.transport.bridge.value.refreshCardPresence =
              (.ok true, d.transport.bridge.value) := if_pos ⟨hpowered, hcard⟩
          have hrefresh : (bridgeOpsMachine (Pn532Bridge δ)).final d.transport.bridge.value
              [.refresh] = d.transport.bridge.value := congrArg Prod.snd hsame
          exact sent_of_transport (hbridge.trans hrefresh)
    | bulkOut bytes =>
      obtain ⟨is, his, h⟩ := d.transport.handleBulkOut_advances bytes
      have hbridge := (congrArg (·.bridge.value) hstep).trans h.bridge
      obtain ⟨opss, cs, hopss, hsent, hamong⟩ := sent_of_inputs hbridge
      refine ⟨cs, hsent, fun c hc hexchange => ?_⟩
      match c with
      | .dynamic (.inDataExchange data) result =>
        obtain ⟨slot, seq, bwi, levelParameter, payload, hmem⟩ :=
          exchange_of_inputs hopss hamong hc
        obtain ⟨frame, command, hframe, hd, heq⟩ := his _ hmem
        obtain rfl := BridgeInput.command.inj heq
        exact ⟨frame, slot, seq, bwi, levelParameter, payload, hframe, hd⟩
      | .dynamic .inListOneIsoATarget _ | .dynamic (.rfConfiguration _) _ | .process _ _ =>
        cases hexchange

abbrev ClockedBridge (δ : Type*) := CcidBridge (Pn532UartReader (ClockedDevice δ))

def UsbDevice.clocked (d : UsbDevice (ClockedBridge δ)) : List ClockedCall :=
  d.transport.bridge.value.reader.pn532.calls

def exportedClocked (device : δ) : UsbDevice (ClockedBridge δ) :=
  buildVirtualCcidDevice (.new (.opened ⟨device, []⟩))

/-- If no frame written is an `IccPowerOff` or an `XfrBlock`, the reader is only polled. -/
theorem run_polls (usb : UsbIp) (device : δ)
    {h : List (Event (UsbDevice (ClockedBridge δ)) UsbRequest UsbReply)}
    {d : UsbDevice (ClockedBridge δ)}
    (hr : Run (usbMachine usb (ClockedBridge δ)) (exportedClocked device) h d) :
    ∃ ops, d.clocked = ((backendMachine (Pn532UartReader (ClockedDevice δ))).final
        (.opened ⟨device, []⟩) ops).pn532.calls ∧
      ((∀ frame, frame <:+: written usb h →
        (∀ slot seq, CcidCommand.decode frame ≠ .ok (.iccPowerOff slot seq)) ∧
        ∀ slot seq bwi levelParameter payload,
          CcidCommand.decode frame ≠ .ok (.xfrBlock slot seq bwi levelParameter payload)) →
        ∀ op ∈ ops, op = .pollCard) := by
  obtain ⟨is, hbridge, -, his⟩ := bridge_asked_by_host (run_transport hr)
  rw [bridgeOpsMachine_bridge] at hbridge
  obtain ⟨opss, hopss, hreader⟩ := (bridge_drives_reader _).final
    (CcidBridge.new (Pn532UartReader.opened (⟨device, []⟩ : ClockedDevice δ))) is
  rw [← hbridge] at hreader
  refine ⟨opss.flatten, congrArg (fun r => r.pn532.calls) hreader, fun hquiet op hop => ?_⟩
  obtain ⟨i, hi, ops, hcalls, hmem⟩ := exists_cause hopss hop
  have hasked := his i hi
  rw [Machine.history_inputs] at hasked
  refine hcalls.polls (fun slot seq hoff => ?_)
    (fun slot seq bwi levelParameter payload hblock => ?_) op hmem
  · subst hoff
    rcases hasked with ⟨frame, command, hframe, hd, heq⟩ | ⟨value, seq', -, -, habort⟩
    · obtain rfl := BridgeInput.command.inj heq
      exact (hquiet frame hframe).1 slot seq hd
    · cases habort
  · subst hblock
    rcases hasked with ⟨frame, command, hframe, hd, heq⟩ | ⟨value, seq', -, -, habort⟩
    · obtain rfl := BridgeInput.command.inj heq
      exact (hquiet frame hframe).2 slot seq bwi levelParameter payload hd
    · cases habort

/-- Two listing commands with none between them are two seconds apart if the first found no target,
and one second if it named one, unless the field was switched off or an exchange failed in between.
A host that writes neither `IccPowerOff` nor `XfrBlock` has them a second apart in any case. -/
theorem targets_asked_at_pace (usb : UsbIp) (device : δ)
    {h : List (Event (UsbDevice (ClockedBridge δ)) UsbRequest UsbReply)}
    {d : UsbDevice (ClockedBridge δ)}
    (hr : Run (usbMachine usb (ClockedBridge δ)) (exportedClocked device) h d)
    {pre mid post : List ClockedCall} {answer answer' : Except Pn532Error (List UInt8)}
    (hs : d.clocked = pre ++ .call (.dynamic .inListOneIsoATarget answer) ::
      (mid ++ .call (.dynamic .inListOneIsoATarget answer') :: post))
    (hmid : ∀ c ∈ mid, c.isListing = false) :
    ∃ first second, ClockShows pre first ∧
      ClockShows (pre ++ .call (.dynamic .inListOneIsoATarget answer) :: mid) second ∧
      (listed answer = some false → first + fromMillis 2000 ≤ second) ∧
      (listed answer = some true → (∀ c ∈ mid, c.releases = false) →
        first + fromMillis 1000 ≤ second) ∧
      ((∀ frame, frame <:+: written usb h →
        (∀ slot seq, CcidCommand.decode frame ≠ .ok (.iccPowerOff slot seq)) ∧
        ∀ slot seq bwi levelParameter payload,
          CcidCommand.decode frame ≠ .ok (.xfrBlock slot seq bwi levelParameter payload)) →
        first + fromMillis 1000 ≤ second) := by
  obtain ⟨ops, hcalls, hpolls⟩ := run_polls usb device hr
  rw [hcalls] at hs
  have haccepts := backend_paced true device ops fun _ _ => Or.inr rfl
  obtain ⟨first, second, hfirst, hsecond, habsent, hpresent, -⟩ := listings_apart haccepts hs hmid
  refine ⟨first, second, hfirst, hsecond, habsent, hpresent, fun hquiet => ?_⟩
  have hpolled := backend_paced false device ops
    fun op hop => Or.inl (hpolls hquiet op hop)
  obtain ⟨first', second', hfirst', hsecond', -, -, hapart⟩ := listings_apart hpolled hs hmid
  rw [hfirst.unique hfirst', hsecond.unique hsecond']
  exact hapart rfl

def vacantDevice : TimedDevice where
  times := [0, fromMillis 2000]
  answers := [.ok [0x00], .ok [0x00]]

def interruptRequests : List UsbRequest :=
  [.interface ⟨⟨0x82, .interrupt, 8, 255⟩, 8, ⟨0, 0, 0, 0, 0⟩, []⟩,
    .interface ⟨⟨0x82, .interrupt, 8, 255⟩, 8, ⟨0, 0, 0, 0, 0⟩, []⟩]

theorem vacant_asked_at_pace :
    let d := (usbMachine .standard (ClockedBridge TimedDevice)).final
      (exportedClocked vacantDevice) interruptRequests
    ∃ first second, ClockShows (d.clocked.take 2) first ∧ ClockShows (d.clocked.take 6) second ∧
      first + fromMillis 2000 ≤ second := by
  intro d
  have hsplit : d.clocked = d.clocked.take 2 ++ .call (.dynamic .inListOneIsoATarget (.ok [0x00])) ::
      ((d.clocked.drop 3).take 3 ++
        .call (.dynamic .inListOneIsoATarget (.ok [0x00])) :: d.clocked.drop 7) := rfl
  obtain ⟨first, second, hfirst, hsecond, habsent, -⟩ := targets_asked_at_pace .standard vacantDevice
    (Machine.run_of_inputs _ _ interruptRequests) hsplit (by decide)
  exact ⟨first, second, hfirst, hsecond, habsent rfl⟩

end VirtualCcid.Usbip
