import VirtualCcid.Ccid.Inputs
import VirtualCcid.Ccid.Packets
import VirtualCcid.Usbip.Device

/-! Runs of the USB device: they are runs of the transport with the remote wake-up feature beside
it, and a reply is longer than its transfer allows in two cases only. -/
namespace VirtualCcid.Usbip
open Rust Nfc Ccid Runs

variable {β : Type*} [BridgeOps β] {usb : UsbIp}

/-- A transfer does with the transport what its call does, and replies so. -/
theorem step_interface (d : UsbDevice β) (urb : Urb) :
    (usbMachine usb β).step d (.interface urb) =
      match urb.op usb with
      | none => (.ok [], d)
      | some op =>
        (ofTransport ((transportMachine β).step d.transport op).1,
          { d with interfaceHandler := ⟨((transportMachine β).step d.transport op).2⟩ }) := by
  have h := handleUrb_eq usb d.interfaceHandler urb
  show ((d.interfaceHandler.handleUrb usb urb).1,
    { d with interfaceHandler := (d.interfaceHandler.handleUrb usb urb).2 }) = _
  rw [h]
  cases urb.op usb with
  | none => rfl
  | some op => rfl

theorem step_of_no_op {request : UsbRequest} (h : request.op usb = none) (d : UsbDevice β) :
    ((usbMachine usb β).step d request).2.transport = d.transport := by
  cases request with
  | device transferBufferLength setup => rfl
  | interface urb =>
    have hop : urb.op usb = none := h
    rw [step_interface, hop]

theorem step_of_op {request : UsbRequest} {op : TransportOp} (h : request.op usb = some op)
    (d : UsbDevice β) :
    ((usbMachine usb β).step d request).1 =
        ofTransport ((transportMachine β).step d.transport op).1 ∧
      ((usbMachine usb β).step d request).2.transport =
        ((transportMachine β).step d.transport op).2 := by
  cases request with
  | device transferBufferLength setup => cases h
  | interface urb =>
    have hop : urb.op usb = some op := h
    rw [step_interface, hop]
    exact ⟨rfl, rfl⟩

theorem usb_drives_transport (usb : UsbIp) (β : Type*) [BridgeOps β] :
    Drives (usbMachine usb β) (transportMachine β) UsbDevice.transport
      fun request ops => ops = (request.op usb).toList := by
  constructor
  intro d request
  refine ⟨_, rfl, ?_⟩
  cases hop : request.op usb with
  | none => exact step_of_no_op hop d
  | some op => exact (step_of_op hop d).2

/-- The transfers that are calls of the transport, with their replies. -/
def callsOf (usb : UsbIp) (h : List (Event (UsbDevice β) UsbRequest UsbReply)) :
    List (TransportOp × UsbReply) :=
  h.filterMap fun e => (e.input.op usb).map fun op => (op, e.output)

variable (usb) in
theorem callsOf_history (d : UsbDevice β) (requests : List UsbRequest) :
    callsOf usb ((usbMachine usb β).history d requests) =
      ((transportMachine β).history d.transport (requests.filterMap (UsbRequest.op usb))).map
        fun e => (e.input, ofTransport e.output) := by
  induction requests generalizing d with
  | nil => rfl
  | cons request requests ih =>
    have hrest := ih ((usbMachine usb β).step d request).2
    have hinput : ((usbMachine usb β).event d request).input = request := rfl
    cases hop : request.op usb with
    | none =>
      rw [step_of_no_op hop] at hrest
      rw [Machine.history, callsOf, List.filterMap_cons_none (by rw [hinput, hop]; rfl),
        List.filterMap_cons_none hop]
      exact hrest
    | some op =>
      obtain ⟨hreply, hafter⟩ := step_of_op hop d
      rw [hafter] at hrest
      rw [Machine.history, callsOf, List.filterMap_cons_some (by rw [hinput, hop]; rfl),
        List.filterMap_cons_some hop]
      exact congrArg₂ List.cons (congrArg (Prod.mk op) hreply) hrest

theorem filterMap_eq_flatten_toList {α γ : Type*} (f : α → Option γ) {xs : List α}
    {yss : List (List γ)} (h : List.Forall₂ (fun x ys => ys = (f x).toList) xs yss) :
    yss.flatten = xs.filterMap f := by
  induction h with
  | nil => rfl
  | @cons x ys xs yss hys _ ih =>
    rw [List.flatten_cons, ih, hys]
    cases hf : f x with
    | none => rw [List.filterMap_cons_none hf]; rfl
    | some y => rw [List.filterMap_cons_some hf]; rfl

def opsOf (usb : UsbIp) (h : List (Event (UsbDevice β) UsbRequest UsbReply)) : List TransportOp :=
  (h.map Event.input).filterMap (UsbRequest.op usb)

theorem run_transport {bridge : β} {h : List (Event (UsbDevice β) UsbRequest UsbReply)}
    {d : UsbDevice β} (hr : Run (usbMachine usb β) (buildVirtualCcidDevice bridge) h d) :
    Run (transportMachine β) (.new bridge)
      ((transportMachine β).history (.new bridge) (opsOf usb h)) d.transport := by
  obtain ⟨opss, hops, hrun⟩ := (usb_drives_transport usb β).run hr
  rw [filterMap_eq_flatten_toList _ hops] at hrun
  exact hrun

theorem run_calls {bridge : β} {h : List (Event (UsbDevice β) UsbRequest UsbReply)}
    {d : UsbDevice β} (hr : Run (usbMachine usb β) (buildVirtualCcidDevice bridge) h d) :
    callsOf usb h = ((transportMachine β).history (.new bridge) (opsOf usb h)).map
      fun e => (e.input, ofTransport e.output) := by
  have hcalls := callsOf_history usb (buildVirtualCcidDevice bridge) (h.map Event.input)
  rw [← hr.of_inputs.1] at hcalls
  exact hcalls

/-- Every run of the device is a run of its transport, by the transfers to the endpoints it serves
and to the default endpoint, with the same replies; transfers to other endpoints are answered with
nothing, and requests to the device itself leave the transport as it is. -/
theorem usb_run_refines_transport (usb : UsbIp) (bridge : β)
    {h : List (Event (UsbDevice β) UsbRequest UsbReply)} {d : UsbDevice β}
    (hr : Run (usbMachine usb β) (buildVirtualCcidDevice bridge) h d) :
    let calls := (transportMachine β).history (.new bridge) (opsOf usb h)
    Run (transportMachine β) (.new bridge) calls d.transport ∧
      callsOf usb h = calls.map (fun e => (e.input, ofTransport e.output)) ∧
      ∀ e ∈ h, e.input.op usb = none → e.after.transport = e.before.transport ∧
        ∀ urb, e.input = .interface urb → e.output = .ok [] := by
  refine ⟨run_transport hr, run_calls hr, fun e he hop => ?_⟩
  · obtain ⟨-, -, heq, -⟩ := hr.before e he
    rw [heq] at hop ⊢
    refine ⟨step_of_no_op hop e.before, fun urb hurb => ?_⟩
    have hinput : e.input = .interface urb := hurb
    have hnone : urb.op usb = none := by
      have hop' : e.input.op usb = none := hop
      rwa [hinput] at hop'
    show ((usbMachine usb β).step e.before e.input).1 = .ok []
    rw [hinput, step_interface, hnone]

/-- The host asks for the slot status, reads part of the answer and polls for notifications, and
the device answers a request of its own in between. -/
def statusRequests : List UsbRequest :=
  [.device 2 ⟨0x00, 3, 1, 0, 0⟩,
    .interface ⟨⟨0x01, .bulk, 64, 0⟩, 10, ⟨0, 0, 0, 0, 0⟩, [0x65, 0, 0, 0, 0, 0, 7, 0, 0, 0]⟩,
    .device 2 ⟨0x80, 0, 0, 0, 2⟩,
    .interface ⟨⟨0x81, .bulk, 64, 0⟩, 8, ⟨0, 0, 0, 0, 0⟩, []⟩,
    .interface ⟨⟨0x82, .interrupt, 8, 255⟩, 8, ⟨0, 0, 0, 0, 0⟩, []⟩]

def statusBridge : CcidBridge FakeReader := .new ⟨[], [], []⟩

theorem status_requests_refine :
    let M := usbMachine .standard (CcidBridge FakeReader)
    let h := M.history (buildVirtualCcidDevice statusBridge) statusRequests
    let calls := (transportMachine (CcidBridge FakeReader)).history (.new statusBridge)
      (opsOf .standard h)
    callsOf .standard h = calls.map fun e => (e.input, ofTransport e.output) :=
  (usb_run_refines_transport .standard statusBridge (Machine.run_of_inputs _ _ statusRequests)).2.1

/-- What the host leaves room for in the reply. -/
def UsbRequest.room (usb : UsbIp) : UsbRequest → ℕ
  | .device transferBufferLength setup => min transferBufferLength.toNat setup.length.toNat
  | .interface urb =>
    if usb.isEp0 urb.ep then min urb.transferBufferLength.toNat urb.setup.length.toNat
    else urb.transferBufferLength.toNat

/-- The class requests for the clock frequency and the data rate. -/
def UsbRequest.readsClassData (usb : UsbIp) : UsbRequest → Prop
  | .device .. => False
  | .interface urb => usb.isEp0 urb.ep = true ∧ urb.setup.requestType = 0xa1 ∧
      (urb.setup.request = ccidGetClockFrequencies ∨ urb.setup.request = ccidGetDataRates)

/-- The lengths of replies: class data and notifications have their own, whatever the room. -/
structure UsbRequest.Sizes (usb : UsbIp) (request : UsbRequest) (bytes : List UInt8) : Prop where
  classData : request.readsClassData usb → bytes.length = 4
  notification : request.op usb = some .interruptIn → bytes = [] ∨ bytes.length = 2
  others : ¬ request.readsClassData usb → request.op usb ≠ some .interruptIn →
    bytes.length ≤ request.room usb

namespace UsbRequest

theorem Sizes.overlong_iff {request : UsbRequest} {bytes : List UInt8}
    (h : request.Sizes usb bytes) :
    request.room usb < bytes.length ↔
      request.readsClassData usb ∧ request.room usb < 4 ∨
        request.op usb = some .interruptIn ∧ bytes ≠ [] ∧ request.room usb < 2 := by
  constructor
  · intro hover
    by_cases hdata : request.readsClassData usb
    · rw [h.classData hdata] at hover
      exact Or.inl ⟨hdata, hover⟩
    by_cases hop : request.op usb = some .interruptIn
    · rcases h.notification hop with rfl | htwo
      · exact absurd hover (Nat.not_lt_zero _)
      · rw [htwo] at hover
        exact Or.inr ⟨hop, List.ne_nil_of_length_pos (by omega), hover⟩
    · have hle := h.others hdata hop
      omega
  · rintro (⟨hdata, hroom⟩ | ⟨hop, hne, hroom⟩)
    · rwa [h.classData hdata]
    · rwa [(h.notification hop).resolve_left hne]

end UsbRequest

theorem deviceReply_length_le (handler : CcidUsbIpDeviceHandler) (transferBufferLength : UInt32)
    (setup : SetupPacket) {bytes : List UInt8}
    (h : (handler.handleUrb usb transferBufferLength setup).1 = .ok bytes) :
    bytes.length ≤ min transferBufferLength.toNat setup.length.toNat := by
  unfold CcidUsbIpDeviceHandler.handleUrb at h
  repeat' split at h
  · rw [← Except.ok.inj h]
    exact List.length_take_le _ _
  · rw [← Except.ok.inj h]
    exact List.length_take_le _ _
  · rw [← Except.ok.inj h]
    exact Nat.zero_le _
  · rw [← Except.ok.inj h]
    exact Nat.zero_le _
  · cases h

theorem controlReply_cases (t : CcidTransport β) (requestType request : UInt8) (value : UInt16)
    {bytes : List UInt8} (h : (t.handleControlRequest requestType request value).1 = .ok bytes) :
    (requestType = 0xa1 ∧ (request = ccidGetClockFrequencies ∨ request = ccidGetDataRates)) ∧
        bytes.length = 4 ∨
      requestType = 0x21 ∧ bytes = [] := by
  unfold CcidTransport.handleControlRequest at h
  split at h
  · next hclock =>
    rw [← Except.ok.inj h]
    exact Or.inl ⟨⟨hclock.1, Or.inl hclock.2⟩, rfl⟩
  split at h
  · next hrates =>
    rw [← Except.ok.inj h]
    exact Or.inl ⟨⟨hrates.1, Or.inr hrates.2⟩, rfl⟩
  split at h
  · next habort =>
    dsimp only at h
    split at h
    · cases h
    · rw [← Except.ok.inj h]
      exact Or.inr ⟨habort.1, rfl⟩
  · cases h

theorem controlReply_sizes (t : CcidTransport β) {urb : Urb} (hep : usb.isEp0 urb.ep = true)
    {bytes : List UInt8}
    (h : (t.handleControlRequest urb.setup.requestType urb.setup.request urb.setup.value).1 =
      .ok bytes) :
    (UsbRequest.interface urb).Sizes usb bytes := by
  have hop : (UsbRequest.interface urb).op usb ≠ some .interruptIn := by
    show (if _ then _ else _) ≠ _
    rw [if_pos hep]
    rintro ⟨⟩
  rcases controlReply_cases t _ _ _ h with ⟨hreads, hfour⟩ | ⟨htype, rfl⟩
  · exact ⟨fun _ => hfour, fun h => absurd h hop, fun h => absurd ⟨hep, hreads⟩ h⟩
  · refine ⟨fun hdata => ?_, fun _ => Or.inl rfl, fun _ _ => Nat.zero_le _⟩
    have hother : urb.setup.requestType = 0xa1 := hdata.2.1
    rw [htype] at hother
    exact absurd hother (by decide)

theorem transferReply_sizes {t : CcidTransport β} (ht : t.NotifiesInTwo) {urb : Urb}
    (hep : ¬ usb.isEp0 urb.ep = true) {op : TransportOp} (hop : urb.op usb = some op)
    {bytes : List UInt8} (h : ofTransport ((transportMachine β).step t op).1 = .ok bytes) :
    (UsbRequest.interface urb).Sizes usb bytes := by
  have hdata : ¬ (UsbRequest.interface urb).readsClassData usb := fun hdata => hep hdata.1
  have hroom : (UsbRequest.interface urb).room usb = urb.transferBufferLength.toNat := if_neg hep
  refine ⟨fun h => absurd h hdata, fun hinterrupt => ?_, fun _ hother => ?_⟩
  · obtain rfl : op = .interruptIn := Option.some.inj (hop.symm.trans hinterrupt)
    have htwo := (step_notifiesInTwo ht .interruptIn).2 t.handleInterruptIn.1 rfl
    rwa [← Except.ok.inj h]
  rw [hroom]
  unfold Urb.op at hop
  rw [if_neg hep] at hop
  split at hop
  · obtain rfl := Option.some.inj hop
    have hreply : ofTransport (.bulkOut (t.handleBulkOut urb.req).1) = .ok bytes := h
    cases hresult : (t.handleBulkOut urb.req).1 with
    | ok =>
      rw [hresult] at hreply
      rw [← Except.ok.inj hreply]
      exact Nat.zero_le _
    | error fault =>
      rw [hresult] at hreply
      cases hreply
  split at hop
  · obtain rfl := Option.some.inj hop
    rw [← Except.ok.inj h]
    exact t.handleBulkIn_length_le _
  split at hop
  · next hout hbulk hinterrupt =>
    refine absurd ?_ hother
    show urb.op usb = _
    rw [Urb.op, if_neg hep, if_neg hout, if_neg hbulk, if_pos hinterrupt]
  · cases hop

variable (usb) in
theorem step_sizes {d : UsbDevice β} (hd : d.transport.NotifiesInTwo) (request : UsbRequest) :
    ((usbMachine usb β).step d request).2.transport.NotifiesInTwo ∧
      ((usbMachine usb β).step d request).2.endpoints = d.endpoints ∧
      ∀ bytes, ((usbMachine usb β).step d request).1 = .ok bytes → request.Sizes usb bytes := by
  cases request with
  | device transferBufferLength setup =>
    refine ⟨hd, rfl, fun bytes hbytes => ⟨False.elim, nofun, fun _ _ => ?_⟩⟩
    have hreply : ofDevice (d.deviceHandler.handleUrb usb transferBufferLength setup).1 =
      .ok bytes := hbytes
    cases hresult : (d.deviceHandler.handleUrb usb transferBufferLength setup).1 with
    | error error =>
      rw [hresult] at hreply
      cases hreply
    | ok found =>
      rw [hresult] at hreply
      rw [← Except.ok.inj hreply]
      exact deviceReply_length_le d.deviceHandler transferBufferLength setup hresult
  | interface urb =>
    cases hop : urb.op usb with
    | none =>
      rw [step_interface, hop]
      have hep : ¬ usb.isEp0 urb.ep = true := by
        intro hep
        rw [Urb.op, if_pos hep] at hop
        cases hop
      have hother : (UsbRequest.interface urb).op usb = none := hop
      refine ⟨hd, rfl, fun bytes hbytes => ?_⟩
      rw [← Except.ok.inj hbytes]
      exact ⟨fun hdata => absurd hdata.1 hep, fun _ => Or.inl rfl, fun _ _ => Nat.zero_le _⟩
    | some op =>
      rw [step_interface, hop]
      refine ⟨(step_notifiesInTwo hd op).1, rfl, fun bytes hbytes => ?_⟩
      by_cases hep : usb.isEp0 urb.ep = true
      · rw [Urb.op, if_pos hep] at hop
        obtain rfl := Option.some.inj hop
        exact controlReply_sizes d.transport hep hbytes
      · exact transferReply_sizes hd hep hop hbytes

/-- Replies to the device and on bulk IN never exceed the room left for them, but the class data and
the notifications are not cut to it. A notification fits the packets of the interrupt endpoint. -/
theorem overlong_replies_iff (usb : UsbIp) (bridge : β)
    {h : List (Event (UsbDevice β) UsbRequest UsbReply)} {d : UsbDevice β}
    (hr : Run (usbMachine usb β) (buildVirtualCcidDevice bridge) h d) :
    ∀ e ∈ h, ∀ bytes, e.output = .ok bytes →
      (e.input.room usb < bytes.length ↔
        e.input.readsClassData usb ∧ e.input.room usb < 4 ∨
          e.input.op usb = some .interruptIn ∧ bytes ≠ [] ∧ e.input.room usb < 2) ∧
        (e.input.op usb = some .interruptIn → ∀ ep ∈ e.before.endpoints,
          ep.attributes = .interrupt → bytes.length ≤ ep.maxPacketSize.toNat) := by
  have hinv : ∀ {h d}, Run (usbMachine usb β) (buildVirtualCcidDevice bridge) h d →
      d.transport.NotifiesInTwo ∧ d.endpoints = CcidUsbIpInterfaceHandler.endpoints := by
    intro h d hr
    refine hr.invariant (A := fun _ => True)
      (P := fun _ d => d.transport.NotifiesInTwo ∧
        d.endpoints = CcidUsbIpInterfaceHandler.endpoints) ⟨nofun, rfl⟩ ?_ fun _ _ => trivial
    intro _ d request ⟨hd, hendpoints⟩ _
    obtain ⟨hafter, hsame, -⟩ := step_sizes usb hd request
    exact ⟨hafter, hsame.trans hendpoints⟩
  intro e he bytes hbytes
  obtain ⟨pre, hpre, heq, -⟩ := hr.before e he
  obtain ⟨hnotified, hendpoints⟩ := hinv hpre
  have hsizes : e.input.Sizes usb bytes := by
    rw [heq] at hbytes
    exact (step_sizes usb hnotified e.input).2.2 bytes hbytes
  refine ⟨hsizes.overlong_iff, fun hop ep hep hinterrupt => ?_⟩
  have htwo : bytes.length ≤ 2 := by
    rcases hsizes.notification hop with rfl | htwo
    · exact Nat.zero_le _
    · exact Nat.le_of_eq htwo
  rw [hendpoints, CcidUsbIpInterfaceHandler.endpoints] at hep
  simp only [List.mem_cons, List.not_mem_nil, or_false] at hep
  rcases hep with rfl | rfl | rfl
  · cases hinterrupt
  · cases hinterrupt
  · show bytes.length ≤ 8
    omega

def clockRequest : UsbRequest :=
  .interface ⟨⟨0x80, .control, 64, 0⟩, 1, ⟨0xa1, ccidGetClockFrequencies, 0, 0, 1⟩, []⟩

theorem clock_reply_overlong :
    let M := usbMachine .standard (CcidBridge FakeReader)
    let e := M.event (M.final (buildVirtualCcidDevice statusBridge) statusRequests) clockRequest
    e.output = .ok [0xfc, 0x0d, 0x00, 0x00] ∧ e.input.room .standard < 4 := by
  intro M e
  have hr := (M.run_of_inputs (buildVirtualCcidDevice statusBridge) statusRequests).step e.input
  have hbytes : e.output = .ok [0xfc, 0x0d, 0x00, 0x00] := rfl
  have he : e ∈ M.history (buildVirtualCcidDevice statusBridge) statusRequests ++ [e] :=
    List.mem_append_right _ (List.mem_singleton_self e)
  have hroom : e.input.room .standard = 1 := rfl
  have hdata : e.input.readsClassData .standard := ⟨rfl, rfl, Or.inl rfl⟩
  have hover := ((overlong_replies_iff .standard statusBridge hr e he _ hbytes).1).mpr
    (Or.inl ⟨hdata, by omega⟩)
  exact ⟨hbytes, hover⟩

/-- What a request to the device makes of the remote wake-up feature, if it is one for it. -/
def UsbRequest.setsWakeup (usb : UsbIp) : UsbRequest → Option Bool
  | .device _ setup =>
    if setup.requestType = 0x00 ∧ setup.value = usbFeatureRemoteWakeup then
      if setup.request = usb.setFeature then some true
      else if setup.request = usb.clearFeature then some false
      else none
    else none
  | .interface _ => none

def UsbRequest.readsStatus (usb : UsbIp) : UsbRequest → Prop
  | .device _ setup => setup.requestType = 0x80 ∧ setup.request = usb.getStatus
  | .interface _ => False

def UsbRequest.readsConfiguration (usb : UsbIp) : UsbRequest → Prop
  | .device _ setup => setup.requestType = 0x80 ∧ setup.request = usb.getConfiguration
  | .interface _ => False

theorem setsWakeup_of_reading {setup : SetupPacket} (h : setup.requestType = 0x80)
    (transferBufferLength : UInt32) :
    UsbRequest.setsWakeup usb (.device transferBufferLength setup) = none := by
  have hwrites : ¬ (setup.requestType = 0x00 ∧ setup.value = usbFeatureRemoteWakeup) := by
    rw [h]
    exact fun hand => absurd hand.1 (by decide)
  rw [UsbRequest.setsWakeup, if_neg hwrites]

variable (usb) in
/-- The cases of the device handler, by what the request is for. -/
theorem deviceRequest_cases (handler : CcidUsbIpDeviceHandler) (transferBufferLength : UInt32)
    (setup : SetupPacket) :
    let request := UsbRequest.device transferBufferLength setup
    let result := handler.handleUrb usb transferBufferLength setup
    (request.readsStatus usb → result.1 = .ok (CcidUsbIpDeviceHandler.limitedResponse
      transferBufferLength setup
        (CcidUsbIpDeviceHandler.statusBytes handler.remoteWakeupEnabled))) ∧
    (request.readsConfiguration usb →
      result.1 = .ok (CcidUsbIpDeviceHandler.limitedResponse transferBufferLength setup [1])) ∧
    (∀ enabled, request.setsWakeup usb = some enabled → result.1 = .ok []) ∧
    (¬ request.readsStatus usb → ¬ request.readsConfiguration usb →
      request.setsWakeup usb = none → result.1 = .error
        ⟨.unsupported, s!"unsupported device request: {usb.debug setup}"⟩) ∧
    result.2.remoteWakeupEnabled = (request.setsWakeup usb).getD handler.remoteWakeupEnabled := by
  intro request result
  by_cases hstatus : setup.requestType = 0x80 ∧ setup.request = usb.getStatus
  · have hnone : request.setsWakeup usb = none := setsWakeup_of_reading hstatus.1 _
    have hother : ¬ request.readsConfiguration usb :=
      fun hconf => usb.reads_differ (hstatus.2.symm.trans hconf.2)
    have hresult : result = (.ok _, handler) := if_pos hstatus
    rw [hresult, hnone]
    exact ⟨fun _ => rfl, fun hconf => absurd hconf hother, nofun, fun h => absurd hstatus h, rfl⟩
  by_cases hconf : setup.requestType = 0x80 ∧ setup.request = usb.getConfiguration
  · have hnone : request.setsWakeup usb = none := setsWakeup_of_reading hconf.1 _
    have hresult : result = (.ok _, handler) := (if_neg hstatus).trans (if_pos hconf)
    rw [hresult, hnone]
    exact ⟨fun h => absurd h hstatus, fun _ => rfl, nofun, fun _ h => absurd hconf h, rfl⟩
  by_cases hset : setup.requestType = 0x00 ∧ setup.request = usb.setFeature ∧
      setup.value = usbFeatureRemoteWakeup
  · have hsome : request.setsWakeup usb = some true :=
      (if_pos ⟨hset.1, hset.2.2⟩).trans (if_pos hset.2.1)
    have hresult : result = (.ok [], { handler with remoteWakeupEnabled := true }) :=
      (if_neg hstatus).trans ((if_neg hconf).trans (if_pos hset))
    rw [hresult, hsome]
    exact ⟨fun h => absurd h hstatus, fun h => absurd h hconf, fun _ _ => rfl, nofun, rfl⟩
  by_cases hclear : setup.requestType = 0x00 ∧ setup.request = usb.clearFeature ∧
      setup.value = usbFeatureRemoteWakeup
  · have hother : setup.request ≠ usb.setFeature :=
      fun h => usb.writes_differ (h.symm.trans hclear.2.1)
    have hsome : request.setsWakeup usb = some false :=
      (if_pos ⟨hclear.1, hclear.2.2⟩).trans ((if_neg hother).trans (if_pos hclear.2.1))
    have hresult : result = (.ok [], { handler with remoteWakeupEnabled := false }) :=
      (if_neg hstatus).trans ((if_neg hconf).trans ((if_neg hset).trans (if_pos hclear)))
    rw [hresult, hsome]
    exact ⟨fun h => absurd h hstatus, fun h => absurd h hconf, fun _ _ => rfl, nofun, rfl⟩
  have hnone : request.setsWakeup usb = none := by
    show (if _ then _ else _) = _
    split
    · next hwrites =>
      rw [if_neg fun h => hset ⟨hwrites.1, h, hwrites.2⟩,
        if_neg fun h => hclear ⟨hwrites.1, h, hwrites.2⟩]
    · rfl
  have hresult : result = (.error _, handler) :=
    (if_neg hstatus).trans ((if_neg hconf).trans ((if_neg hset).trans (if_neg hclear)))
  rw [hresult, hnone]
  exact ⟨fun h => absurd h hstatus, fun h => absurd h hconf, nofun, fun _ _ _ => rfl, rfl⟩

/-- What the host last made of the remote wake-up feature, which is off at first. -/
def WakeupInForce (usb : UsbIp) (requests : List UsbRequest) (enabled : Bool) : Prop :=
  Registers (UsbRequest.setsWakeup usb) (fun _ => false) false requests enabled

theorem run_wakeup {bridge : β} {h : List (Event (UsbDevice β) UsbRequest UsbReply)}
    {d : UsbDevice β} (hr : Run (usbMachine usb β) (buildVirtualCcidDevice bridge) h d) :
    WakeupInForce usb (h.map Event.input) d.deviceHandler.remoteWakeupEnabled := by
  refine hr.registers (UsbRequest.setsWakeup usb) (fun _ => false) Event.input
    (fun d => d.deviceHandler.remoteWakeupEnabled) rfl fun d request => ?_
  cases request with
  | interface urb => rfl
  | device transferBufferLength setup =>
    exact (deviceRequest_cases usb d.deviceHandler transferBufferLength setup).2.2.2.2

/-- `GET_STATUS` tells what the host last made of the remote wake-up feature, cut to the length asked
for; a request that is not handled is refused, and of the device a request changes this feature only. -/
theorem wakeup_last_write (usb : UsbIp) (bridge : β)
    {h pre post : List (Event (UsbDevice β) UsbRequest UsbReply)}
    {e : Event (UsbDevice β) UsbRequest UsbReply} {d : UsbDevice β}
    (hr : Run (usbMachine usb β) (buildVirtualCcidDevice bridge) h d)
    (hs : h = pre ++ e :: post) {transferBufferLength : UInt32} {setup : SetupPacket}
    (hdevice : e.input = .device transferBufferLength setup) :
    (e.input.readsStatus usb → ∃ enabled, WakeupInForce usb (pre.map Event.input) enabled ∧
      e.output = .ok (CcidUsbIpDeviceHandler.limitedResponse transferBufferLength setup
        [if enabled then 0x02 else 0x00, 0x00])) ∧
    (¬ e.input.readsStatus usb → ¬ e.input.readsConfiguration usb →
      e.input.setsWakeup usb = none →
        e.output = .error (.error
          ⟨.unsupported, s!"unsupported device request: {usb.debug setup}"⟩) ∧
        e.after = e.before) ∧
    e.after = { e.before with deviceHandler :=
      ⟨(e.input.setsWakeup usb).getD e.before.deviceHandler.remoteWakeupEnabled⟩ } := by
  obtain ⟨hpre, heq⟩ := hr.split hs
  obtain ⟨hstatus, -, -, hrefused, hafter⟩ :=
    deviceRequest_cases usb e.before.deviceHandler transferBufferLength setup
  have houtput : e.output =
      ofDevice (e.before.deviceHandler.handleUrb usb transferBufferLength setup).1 := by
    rw [heq, hdevice]
    rfl
  have hstate : e.after = { e.before with deviceHandler :=
      ⟨(e.input.setsWakeup usb).getD e.before.deviceHandler.remoteWakeupEnabled⟩ } := by
    have hstep : e.after = { e.before with deviceHandler :=
        (e.before.deviceHandler.handleUrb usb transferBufferLength setup).2 } := by
      rw [heq, hdevice]
      rfl
    rw [hstep, hdevice, ← hafter]
  refine ⟨fun hreads => ?_, fun hnoStatus hnoConf hnone => ?_, hstate⟩
  · rw [hdevice] at hreads
    refine ⟨e.before.deviceHandler.remoteWakeupEnabled, run_wakeup hpre, ?_⟩
    rw [houtput, hstatus hreads]
    cases e.before.deviceHandler.remoteWakeupEnabled with
    | true => rfl
    | false => rfl
  · rw [hnone] at hstate
    rw [hdevice] at hnoStatus hnoConf hnone
    rw [houtput, hrefused hnoStatus hnoConf hnone]
    exact ⟨rfl, hstate⟩

theorem status_reads_wakeup :
    let M := usbMachine .standard (CcidBridge FakeReader)
    let d := M.final (buildVirtualCcidDevice statusBridge) (statusRequests.take 2)
    ∃ enabled, WakeupInForce .standard (statusRequests.take 2) enabled ∧
      (M.event d (.device 2 ⟨0x80, 0, 0, 0, 2⟩)).output =
        .ok (CcidUsbIpDeviceHandler.limitedResponse 2 ⟨0x80, 0, 0, 0, 2⟩
          [if enabled then 0x02 else 0x00, 0x00]) := by
  intro M d
  have hr := (M.run_of_inputs (buildVirtualCcidDevice statusBridge) (statusRequests.take 2)).step
    (.device 2 ⟨0x80, 0, 0, 0, 2⟩)
  exact (wakeup_last_write .standard statusBridge hr rfl rfl).1 ⟨rfl, rfl⟩

end VirtualCcid.Usbip
