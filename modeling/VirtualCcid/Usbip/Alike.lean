import VirtualCcid.Ccid.Alike
import VirtualCcid.Nfc.OnWire
import VirtualCcid.Usbip.Stack

/-! Stacks over devices that answer alike: the host cannot tell them apart. -/
namespace VirtualCcid.Usbip
open Rust Nfc Ccid Runs

section AnyBridge
variable {β β' : Type*} [BridgeOps β] [BridgeOps β']

/-- Two devices that differ in the bridges behind their transports only. -/
structure UsbAlike (S : β → β' → Prop) (d : UsbDevice β) (d' : UsbDevice β') : Prop where
  deviceHandler : d.deviceHandler = d'.deviceHandler
  transport : TransportsAlike S d.transport d'.transport

theorem usb_lockstep {S : β → β' → Prop} (a : BridgesAgree S) (usb : UsbIp) :
    Lockstep (usbMachine usb β) (usbMachine usb β') (UsbAlike S) := by
  intro d d' request h
  cases request with
  | device transferBufferLength setup =>
    constructor
    · show ofDevice (d.deviceHandler.handleUrb usb transferBufferLength setup).1 =
        ofDevice (d'.deviceHandler.handleUrb usb transferBufferLength setup).1
      rw [h.deviceHandler]
    · constructor
      · show (d.deviceHandler.handleUrb usb transferBufferLength setup).2 =
          (d'.deviceHandler.handleUrb usb transferBufferLength setup).2
        rw [h.deviceHandler]
      · exact h.transport
  | interface urb =>
    rw [step_interface, step_interface]
    cases urb.op usb with
    | none => exact ⟨rfl, h⟩
    | some op =>
      obtain ⟨hreply, hafter⟩ := a.transport d.transport d'.transport op h.transport
      exact ⟨congrArg ofTransport hreply, h.deviceHandler, hafter⟩

end AnyBridge

variable {δ δ' : Type*} [Pn532Device δ] [Pn532Device δ']

/-- The device that exports a reader as `open` leaves it. -/
def exportedReader (device : δ) : UsbDevice (CcidBridge (Pn532UartReader δ)) :=
  buildVirtualCcidDevice (.new (.opened device))

/-- Over devices that answer alike every request has the same reply. -/
theorem replies_alike {R : δ → δ' → Prop} (a : DevicesAlike R) (usb : UsbIp) {device : δ}
    {device' : δ'} (h : R device device') (requests : List UsbRequest) :
    let M := usbMachine usb (CcidBridge (Pn532UartReader δ))
    let M' := usbMachine usb (CcidBridge (Pn532UartReader δ'))
    (M.history (exportedReader device) requests).map Event.output =
        (M'.history (exportedReader device') requests).map Event.output ∧
      R (M.final (exportedReader device) requests).transport.bridge.value.reader.pn532
        (M'.final (exportedReader device') requests).transport.bridge.value.reader.pn532 := by
  intro M M'
  have hstart : UsbAlike (BridgesAlike (ReadersAlike R)) (exportedReader device)
      (exportedReader device') := ⟨rfl, .new (.mk _ _ _ _ _ (.mk _ _ _ _ h))⟩
  obtain ⟨houtputs, hfinal⟩ :=
    (usb_lockstep (bridges_agree a.backend) usb).run hstart requests
  refine ⟨houtputs, ?_⟩
  generalize (M.final (exportedReader device) requests) = d at hfinal
  generalize (M'.final (exportedReader device') requests) = d' at hfinal
  have ht := hfinal.transport
  unfold UsbDevice.transport at ht ⊢
  generalize d.interfaceHandler.transport = t at ht ⊢
  generalize d'.interfaceHandler.transport = t' at ht ⊢
  cases ht with
  | mk _ _ _ _ _ _ _ _ _ hb =>
    cases hb with
    | mk _ _ _ _ _ hr =>
      cases hr with
      | mk _ _ _ _ hd => exact hd

end VirtualCcid.Usbip
