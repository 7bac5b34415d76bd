import VirtualCcid.Ccid.Responses
import VirtualCcid.Usbip.Alike
import VirtualCcid.Usbip.Conversation

/-! The responses of the card that the host reads: they are those of the exchanges that the PN532
completed, and each of these is a checked frame on the serial port. -/
namespace VirtualCcid.Usbip
open Rust Nfc Ccid Runs

section AnyBridge
variable {β : Type*} [BridgeOps β]

/-- The commands among the inputs that the bridge answers, with their answers. -/
def commandsAnswered (bridge : β) (is : List BridgeInput) : List (CcidCommand × CcidResponse) :=
  ((bridgeOpsMachine β).history bridge is).filterMap fun e =>
    match e.input, e.output with
    | .command command, .response (.ok response) => some (command, response)
    | _, _ => none

theorem commandsAnswered_cons (bridge : β) (i : BridgeInput) (is : List BridgeInput) :
    commandsAnswered bridge (i :: is) = commandsAnswered bridge [i] ++
      commandsAnswered ((bridgeOpsMachine β).step bridge i).2 is := by
  show List.filterMap _ ([_] ++ _) = _
  rw [List.filterMap_append]
  rfl

theorem commandsAnswered_command (bridge : β) (command : CcidCommand) :
    commandsAnswered bridge [.command command] =
      ((BridgeOps.handleCommand bridge command).1.toOption.map (Prod.mk command)).toList := by
  cases h : (BridgeOps.handleCommand bridge command).1 with
  | error panic =>
    simp [commandsAnswered, Machine.history, Machine.event, bridgeOpsMachine, h, Except.toOption]
  | ok response =>
    simp [commandsAnswered, Machine.history, Machine.event, bridgeOpsMachine, h, Except.toOption]

theorem answersOf_eq (bridge : β) (is : List BridgeInput) :
    answersOf bridge is = (commandsAnswered bridge is).map Prod.snd := by
  induction is generalizing bridge with
  | nil => rfl
  | cons i is ih =>
    have hsplit := answersOf_append bridge [i] is
    have hfirst : answersOf bridge [i] = (commandsAnswered bridge [i]).map Prod.snd := by
      cases i with
      | refresh => rfl
      | command command =>
        rw [commandsAnswered_command]
        cases h : BridgeOps.handleCommand bridge command with
        | mk result bridge' =>
          cases result with
          | error panic =>
            simp [answersOf, Machine.history, Machine.event, bridgeOpsMachine, h, Except.toOption]
          | ok response =>
            rw [answersOf_command h]
            rfl
    rw [commandsAnswered_cons, List.map_append, ← hfirst, ← ih]
    exact hsplit

end AnyBridge

variable {δ : Type*} [Pn532Device δ]

/-- Over inputs of the bridge, the exchanges that end well are the blocks answered with their
responses. -/
theorem final_responses (bridge : Pn532Bridge δ) (is : List BridgeInput) :
    responses ((bridgeOpsMachine (Pn532Bridge δ)).final bridge is).reader.pn532.calls =
      responses bridge.reader.pn532.calls ++
        (commandsAnswered bridge is).filterMap blockResponse := by
  induction is generalizing bridge with
  | nil => exact (List.append_nil _).symm
  | cons i is ih =>
    have hrest := ih ((bridgeOpsMachine (Pn532Bridge δ)).step bridge i).2
    have hfirst : responses ((bridgeOpsMachine (Pn532Bridge δ)).step bridge i).2.reader.pn532.calls =
        responses bridge.reader.pn532.calls ++
          (commandsAnswered bridge [i]).filterMap blockResponse := by
      cases i with
      | refresh => exact bridge.refreshCardPresence_responses.trans (List.append_nil _).symm
      | command command =>
        rw [commandsAnswered_command]
        refine (bridge.handleCommand_responses command).trans (congrArg _ ?_)
        show _ = ((((bridge.handleCommand command).1.toOption.map (Prod.mk command))).toList).filterMap
          blockResponse
        cases ((bridge.handleCommand command).1.toOption.map (Prod.mk command)) with
        | none => rfl
        | some answered =>
          show (blockResponse answered).toList = List.filterMap blockResponse [answered]
          cases h : blockResponse answered with
          | none => simp [h]
          | some response => simp [h]
    rw [commandsAnswered_cons, List.filterMap_append, ← List.append_assoc, ← hfirst]
    exact hrest

theorem run_responses {usb : UsbIp} {device : δ}
    {h : List (Event (UsbDevice (Pn532Bridge δ)) UsbRequest UsbReply)} {d : UsbDevice (Pn532Bridge δ)}
    (hr : Run (usbMachine usb (Pn532Bridge δ)) (exported device) h d)
    (hunharmed : ∀ e ∈ h, Unharmed e.output)
    (hpolite : hostMonitor.Accepts .start (callsOf usb h)) :
    responses d.sent = (commandsAnswered (exported device).transport.bridge.value
      (hostMonitor.after .start (callsOf usb h)).asked).filterMap blockResponse := by
  obtain ⟨⟨e, ht, hattends⟩, -⟩ := run_attends hr hunharmed hpolite
  have hbridge : d.transport.bridge.value =
      (bridgeOpsMachine (Pn532Bridge δ)).final (exported device).transport.bridge.value
        (hostMonitor.after .start (callsOf usb h)).asked := by
    rw [ht]
    exact hattends.asked
  have hresponses := final_responses (exported device).transport.bridge.value
    (hostMonitor.after .start (callsOf usb h)).asked
  rw [← hbridge] at hresponses
  exact hresponses

/-- The transfers that the host has read are the answers to its commands in their order, and the blocks
answered with data are, one for one, the exchanges that the PN532 has completed with status zero. -/
theorem responses_read (usb : UsbIp) (device : δ)
    {h : List (Event (UsbDevice (Pn532Bridge δ)) UsbRequest UsbReply)} {d : UsbDevice (Pn532Bridge δ)}
    (hr : Run (usbMachine usb (Pn532Bridge δ)) (exported device) h d)
    (hunharmed : ∀ e ∈ h, Unharmed e.output)
    (hpolite : hostMonitor.Accepts .start (callsOf usb h)) :
    let host := hostMonitor.after .start (callsOf usb h)
    let answered := commandsAnswered (exported device).transport.bridge.value host.asked
    (host.awaiting = false → host.answers = answered.map fun a => a.2.encode) ∧
      answered.filterMap blockResponse = responses d.sent := by
  intro host answered
  obtain ⟨⟨e, -, hattends⟩, -⟩ := run_attends hr hunharmed hpolite
  refine ⟨fun hidle => ?_, (run_responses hr hunharmed hpolite).symm⟩
  have hanswers := (hattends.idle hidle).2.2
  rw [← hanswers]
  have hpairs : answersOf (exported device).transport.bridge.value host.asked =
      answered.map Prod.snd := answersOf_eq _ _
  exact (congrArg (List.map CcidResponse.encode) hpairs).trans List.map_map

def powerOnMessage : BulkMessage :=
  ⟨[0x62, 0, 0, 0, 0, 0, 1, 0, 0, 0], by decide, by decide, by decide⟩

def blockMessage : BulkMessage :=
  ⟨[0x6f, 1, 0, 0, 0, 0, 2, 0, 0, 0, 0x00], by decide, by decide, by decide⟩

/-- The host powers the card on, sends it a block in two packets and reads the answers. -/
def blockCalls : List UsbRequest :=
  [.interface ⟨⟨0x01, .bulk, 64, 0⟩, 10, ⟨0, 0, 0, 0, 0⟩, powerOnMessage.bytes⟩,
    .interface ⟨⟨0x81, .bulk, 64, 0⟩, 64, ⟨0, 0, 0, 0, 0⟩, []⟩,
    .interface ⟨⟨0x01, .bulk, 64, 0⟩, 6, ⟨0, 0, 0, 0, 0⟩, [0x6f, 1, 0, 0, 0, 0]⟩,
    .interface ⟨⟨0x01, .bulk, 64, 0⟩, 5, ⟨0, 0, 0, 0, 0⟩, [2, 0, 0, 0, 0x00]⟩,
    .interface ⟨⟨0x81, .bulk, 64, 0⟩, 64, ⟨0, 0, 0, 0, 0⟩, []⟩]

def blockReplies : List (List UInt8) :=
  [[], [0x80, 5, 0, 0, 0, 0, 1, 0, 0, 0, 0x3b, 0x80, 0x80, 0x01, 0x01], [], [],
    [0x80, 2, 0, 0, 0, 0, 2, 0, 0, 0, 0x90, 0x00]]

def blockSights : List Host.Sight :=
  [.bulkOut powerOnMessage.bytes, .bulkIn 64, .bulkOut [0x6f, 1, 0, 0, 0, 0],
    .bulkOut [2, 0, 0, 0, 0x00], .bulkIn 64].zip (blockReplies.map .ok)

theorem blockSights_polite : hostMonitor.Accepts .start blockSights :=
  ⟨⟨rfl, powerOnMessage, rfl, [], rfl⟩, ⟨rfl, by decide⟩,
    ⟨rfl, blockMessage, rfl, [2, 0, 0, 0, 0x00], rfl⟩, ⟨rfl, blockMessage, rfl, [], rfl⟩,
    ⟨rfl, by decide⟩, trivial⟩

theorem blocks_read :
    let h := (usbMachine .standard (Pn532Bridge ScriptedDevice)).history (exported listedCard)
      blockCalls
    let d := (usbMachine .standard (Pn532Bridge ScriptedDevice)).final (exported listedCard)
      blockCalls
    callsOf .standard h = blockSights ∧
      (commandsAnswered (exported listedCard).transport.bridge.value
        (hostMonitor.after .start blockSights).asked).filterMap blockResponse =
          responses d.sent := by
  intro h d
  have hcalls : callsOf .standard h = blockSights := by decide +kernel
  have hreplies : h.map Event.output = blockReplies.map .ok := by decide +kernel
  have hread := (responses_read .standard listedCard (Machine.run_of_inputs _ _ blockCalls)
    (unharmed_of_replies hreplies) (hcalls ▸ blockSights_polite)).2
  rw [show callsOf .standard h = blockSights from hcalls] at hread
  exact ⟨hcalls, hread⟩

end VirtualCcid.Usbip
