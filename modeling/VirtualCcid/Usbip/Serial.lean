import VirtualCcid.Nfc.Link
import VirtualCcid.Usbip.Responses

/-! The stack down to the serial port: what its commands are on the wire, and that the host cannot
tell the port from the PN532 at its other end. -/
namespace VirtualCcid.Usbip
open Rust Nfc Ccid Runs

variable {π : Type*} [SerialPort π]

def UsbDevice.onPort (d : UsbDevice (Pn532Bridge (RecordedPort π))) : List PortEvent :=
  d.transport.bridge.value.reader.pn532.inner.calls

/-- A run adds the events of its commands to those of the port. -/
theorem run_on_wire {usb : UsbIp} {port : RecordedPort π}
    {h : List (Event (UsbDevice (Pn532Bridge (RecordedPort π))) UsbRequest UsbReply)}
    {d : UsbDevice (Pn532Bridge (RecordedPort π))}
    (hr : Run (usbMachine usb (Pn532Bridge (RecordedPort π))) (exported port) h d) :
    ∃ parts, List.Forall₂ OnWire d.sent parts ∧ d.onPort = port.calls ++ parts.flatten := by
  have hstart : CallsOnWire port.calls (⟨port, []⟩ : RecordedDevice (RecordedPort π)) :=
    ⟨[], .nil, (List.append_nil _).symm⟩
  obtain ⟨-, -, hwire⟩ :=
    replies_alike (callsOnWire_alike π port.calls) usb ⟨rfl, hstart⟩ (h.map Event.input)
  rw [hr.of_inputs.2]
  exact hwire

theorem frame_of_answer {calls : List DeviceCall} {parts : List (List PortEvent)}
    (h : List.Forall₂ OnWire calls parts) {request : Request} {payload : List UInt8}
    (hmem : .dynamic request (.ok payload) ∈ calls) :
    ∃ frame, IsResponseFrame (request.command + 1) payload frame ∧
      [.sent request (.ok ()), .acknowledged (.ok ()), .received frame] <:+: parts.flatten := by
  induction h with
  | nil => cases hmem
  | @cons call part calls parts hcall _ ih =>
    rw [List.flatten_cons]
    rcases List.mem_cons.mp hmem with rfl | hmem
    · cases hcall with
      | answered hframe => exact ⟨_, hframe, (List.prefix_append _ _).isInfix⟩
    · obtain ⟨frame, hframe, hinfix⟩ := ih hmem
      exact ⟨frame, hframe, hinfix.trans (List.suffix_append _ _).isInfix⟩

/-- The events of the port are those of the commands sent to the PN532, in their order: each
answered command was sent, acknowledged and answered by a checked frame. -/
theorem sent_on_wire (usb : UsbIp) (port : π)
    {h : List (Event (UsbDevice (Pn532Bridge (RecordedPort π))) UsbRequest UsbReply)}
    {d : UsbDevice (Pn532Bridge (RecordedPort π))}
    (hr : Run (usbMachine usb (Pn532Bridge (RecordedPort π))) (exported ⟨port, []⟩) h d) :
    ∃ parts, List.Forall₂ OnWire d.sent parts ∧ d.onPort = parts.flatten :=
  run_on_wire hr

def promptPort : PromptPort := ⟨⟨[[1, 1, 0x00, 0x04, 0x20, 1, 0xaa], [0x00, 0x90, 0x00]], 0⟩, []⟩

theorem blocks_on_wire :
    let d := (usbMachine .standard (Pn532Bridge (RecordedPort PromptPort))).final
      (exported ⟨promptPort, []⟩) blockCalls
    ∃ parts, List.Forall₂ OnWire d.sent parts ∧ d.onPort = parts.flatten :=
  sent_on_wire .standard promptPort (Machine.run_of_inputs _ _ blockCalls)

/-- Every block answered with data was sent over the port, acknowledged, and answered by a checked
response frame that holds status zero and this data. -/
theorem responses_checked (usb : UsbIp) (port : π)
    {h : List (Event (UsbDevice (Pn532Bridge (RecordedPort π))) UsbRequest UsbReply)}
    {d : UsbDevice (Pn532Bridge (RecordedPort π))}
    (hr : Run (usbMachine usb (Pn532Bridge (RecordedPort π))) (exported ⟨port, []⟩) h d)
    (hunharmed : ∀ e ∈ h, Unharmed e.output)
    (hpolite : hostMonitor.Accepts .start (callsOf usb h)) {slot seq bwi : UInt8}
    {levelParameter : UInt16} {payload : List UInt8} {slot' seq' : UInt8} {status : SlotStatus}
    {error chain : UInt8} {response : List UInt8}
    (hmem : (CcidCommand.xfrBlock slot seq bwi levelParameter payload,
        CcidResponse.dataBlock slot' seq' status error chain response) ∈
      commandsAnswered (exported (⟨port, []⟩ : RecordedPort π)).transport.bridge.value
        (hostMonitor.after .start (callsOf usb h)).asked) :
    ∃ target frame, IsResponseFrame 0x41 (0x00 :: response) frame ∧
      [.sent (.inDataExchange (target :: CcidBridge.sentApdu payload)) (.ok ()),
        .acknowledged (.ok ()), .received frame] <:+: d.onPort := by
  have hpair : (CcidBridge.sentApdu payload, response) ∈ responses d.sent := by
    rw [run_responses hr hunharmed hpolite]
    exact List.mem_filterMap.mpr ⟨_, hmem, rfl⟩
  obtain ⟨call, hcall, hresponded⟩ := List.mem_filterMap.mp hpair
  obtain ⟨parts, hparts, hflatten⟩ := run_on_wire hr
  unfold DeviceCall.responded at hresponded
  split at hresponded
  · next target apdu status' response' =>
    split at hresponded
    · next hkeeps =>
      obtain ⟨rfl, rfl⟩ := Prod.mk.inj (Option.some.inj hresponded)
      obtain rfl : status' = 0x00 := by
        simpa [exchangeStatusKeepsTargetActive] using hkeeps
      obtain ⟨frame, hframe, hinfix⟩ := frame_of_answer hparts hcall
      rw [hflatten]
      exact ⟨target, frame, hframe, hinfix⟩
    · cases hresponded
  · cases hresponded

theorem block_checked :
    let d := (usbMachine .standard (Pn532Bridge (RecordedPort PromptPort))).final
      (exported ⟨promptPort, []⟩) blockCalls
    ∃ target frame, IsResponseFrame 0x41 [0x00, 0x90, 0x00] frame ∧
      [.sent (.inDataExchange [target, 0x00]) (.ok ()), .acknowledged (.ok ()), .received frame] <:+:
        d.onPort := by
  intro d
  let h := (usbMachine .standard (Pn532Bridge (RecordedPort PromptPort))).history
    (exported ⟨promptPort, []⟩) blockCalls
  have hcalls : callsOf .standard h = blockSights := by decide +kernel
  have hreplies : h.map Event.output = blockReplies.map .ok := by decide +kernel
  have hmem : (CcidCommand.xfrBlock 0 2 0 0 [0x00],
      CcidResponse.dataBlock 0 2 (.ok .active) 0 0 [0x90, 0x00]) ∈
        commandsAnswered (exported (⟨promptPort, []⟩ : RecordedPort PromptPort)).transport.bridge.value
          (hostMonitor.after .start (callsOf .standard h)).asked := by
    rw [hcalls]
    decide +kernel
  exact responses_checked .standard promptPort (Machine.run_of_inputs _ _ blockCalls)
    (unharmed_of_replies hreplies) (hcalls ▸ blockSights_polite) hmem

end VirtualCcid.Usbip
