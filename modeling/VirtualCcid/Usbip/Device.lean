import VirtualCcid.Ccid.Transport
import VirtualCcid.Runs.Monitor
import VirtualCcid.Runs.Simulation

/-! The USB device that the USB/IP server exports: the handler of its control requests and that of
its CCID interface, which routes the transfers of three endpoints to the transport. -/
namespace VirtualCcid.Usbip
open Rust Ccid Runs

def ccidBulkInEndpoint : UInt8 := 0x81
def ccidBulkOutEndpoint : UInt8 := 0x01
def ccidInterruptInEndpoint : UInt8 := 0x82
def ccidFunctionalDescriptorType : UInt8 := 0x21
def ccidClockFrequencyKhz : Vector UInt8 4 := #v[0xfc, 0x0d, 0x00, 0x00]
def ccidDataRateBps : Vector UInt8 4 := #v[0x80, 0x25, 0x00, 0x00]
def usbFeatureRemoteWakeup : UInt16 := 0x0001

structure SetupPacket where
  requestType : UInt8
  request : UInt8
  value : UInt16
  index : UInt16
  length : UInt16
  deriving DecidableEq, Repr

inductive EndpointAttributes where
  | control
  | isochronous
  | bulk
  | interrupt
  deriving DecidableEq, Repr

inductive Direction where
  | dirIn
  | dirOut
  deriving DecidableEq, Repr

structure UsbEndpoint where
  address : UInt8
  attributes : EndpointAttributes
  maxPacketSize : UInt16
  interval : UInt8
  deriving DecidableEq, Repr

/-- What the handlers use of the `usbip` crate: the codes of four standard requests, the text of a
setup packet in an error, and the two questions about the address of an endpoint. -/
structure UsbIp where
  getStatus : UInt8
  clearFeature : UInt8
  setFeature : UInt8
  getConfiguration : UInt8
  debug : SetupPacket → String
  isEp0 : UsbEndpoint → Bool
  direction : UsbEndpoint → Direction
  reads_differ : getStatus ≠ getConfiguration
  writes_differ : setFeature ≠ clearFeature
  isEp0_iff : ∀ ep, isEp0 ep = true ↔ ep.address &&& 0x7f = 0
  direction_eq : ∀ ep, direction ep = if ep.address &&& 0x80 = 0 then .dirOut else .dirIn

def UsbIp.standard : UsbIp where
  getStatus := 0
  clearFeature := 1
  setFeature := 3
  getConfiguration := 8
  debug _ := "SetupPacket"
  isEp0 ep := ep.address &&& 0x7f = 0
  direction ep := if ep.address &&& 0x80 = 0 then .dirOut else .dirIn
  reads_differ := by decide
  writes_differ := by decide
  isEp0_iff _ := decide_eq_true_iff
  direction_eq _ := rfl

structure CcidUsbIpDeviceHandler where
  remoteWakeupEnabled : Bool
  deriving DecidableEq, Repr

namespace CcidUsbIpDeviceHandler

def default : CcidUsbIpDeviceHandler := ⟨false⟩

def limitedResponse (transferBufferLength : UInt32) (setup : SetupPacket) (payload : List UInt8) :
    List UInt8 :=
  payload.take (min transferBufferLength.toNat setup.length.toNat)

def statusBytes (remoteWakeupEnabled : Bool) : List UInt8 :=
  let status : UInt16 := if remoteWakeupEnabled then 0x0002 else 0x0000
  [(u16ToLeBytes status).1, (u16ToLeBytes status).2]

def handleUrb (usb : UsbIp) (h : CcidUsbIpDeviceHandler) (transferBufferLength : UInt32)
    (setup : SetupPacket) : Except IoError (List UInt8) × CcidUsbIpDeviceHandler :=
  if setup.requestType = 0x80 ∧ setup.request = usb.getStatus then
    (.ok (limitedResponse transferBufferLength setup (statusBytes h.remoteWakeupEnabled)), h)
  else if setup.requestType = 0x80 ∧ setup.request = usb.getConfiguration then
    (.ok (limitedResponse transferBufferLength setup [1]), h)
  else if setup.requestType = 0x00 ∧ setup.request = usb.setFeature ∧
      setup.value = usbFeatureRemoteWakeup then
    (.ok [], { h with remoteWakeupEnabled := true })
  else if setup.requestType = 0x00 ∧ setup.request = usb.clearFeature ∧
      setup.value = usbFeatureRemoteWakeup then
    (.ok [], { h with remoteWakeupEnabled := false })
  else (.error ⟨.unsupported, s!"unsupported device request: {usb.debug setup}"⟩, h)

end CcidUsbIpDeviceHandler

/-- A transfer for the interface: its endpoint, the length of its buffer, its setup packet and the
bytes it carries. -/
structure Urb where
  ep : UsbEndpoint
  transferBufferLength : UInt32
  setup : SetupPacket
  req : List UInt8
  deriving DecidableEq, Repr

structure CcidUsbIpInterfaceHandler (β : Type*) where
  transport : CcidTransport β

namespace CcidUsbIpInterfaceHandler
variable {β : Type*}

def new (bridge : β) : CcidUsbIpInterfaceHandler β := ⟨.new bridge⟩

def endpoints : List UsbEndpoint :=
  [⟨ccidBulkOutEndpoint, .bulk, 64, 0⟩, ⟨ccidBulkInEndpoint, .bulk, 64, 0⟩,
    ⟨ccidInterruptInEndpoint, .interrupt, 8, 255⟩]

def classSpecificDescriptor : List UInt8 :=
  [0x36, ccidFunctionalDescriptorType]
    ++ [0x10, 0x01]
    ++ [0x00]
    ++ [0x01]
    ++ [0x02, 0x00, 0x00, 0x00]
    ++ ccidClockFrequencyKhz.toList
    ++ ccidClockFrequencyKhz.toList
    ++ [0x00]
    ++ ccidDataRateBps.toList
    ++ ccidDataRateBps.toList
    ++ [0x00]
    ++ [0xfe, 0x00, 0x00, 0x00]
    ++ [0x00, 0x00, 0x00, 0x00]
    ++ [0x00, 0x00, 0x00, 0x00]
    ++ [0x40, 0x08, 0x04, 0x00]
    ++ [0x00, 0x0c, 0x00, 0x00]
    ++ [0xff]
    ++ [0xff]
    ++ [0x00, 0x00]
    ++ [0x00]
    ++ [0x01]

example : classSpecificDescriptor.length = 54 := rfl

def handleBulkIn (h : CcidUsbIpInterfaceHandler β) (maxLen : ℕ) :
    List UInt8 × CcidUsbIpInterfaceHandler β :=
  let (bytes, transport) := h.transport.handleBulkIn maxLen
  (bytes, { h with transport })

variable [BridgeOps β]

def handleBulkOut (h : CcidUsbIpInterfaceHandler β) (payload : List UInt8) :
    Except (Fault IoError) (List UInt8) × CcidUsbIpInterfaceHandler β :=
  match h.transport.handleBulkOut payload with
  | (.error fault, transport) => (.error fault, { h with transport })
  | (.ok (), transport) => (.ok [], { h with transport })

def handleInterruptIn (h : CcidUsbIpInterfaceHandler β) :
    List UInt8 × CcidUsbIpInterfaceHandler β :=
  let (bytes, transport) := h.transport.handleInterruptIn
  (bytes, { h with transport })

def handleUrb (usb : UsbIp) (h : CcidUsbIpInterfaceHandler β) (urb : Urb) :
    Except (Fault IoError) (List UInt8) × CcidUsbIpInterfaceHandler β :=
  if usb.isEp0 urb.ep then
    -- The answer is not cut to the length the setup packet asks for.
    let (result, transport) :=
      h.transport.handleControlRequest urb.setup.requestType urb.setup.request urb.setup.value
    (result, { h with transport })
  else if usb.direction urb.ep = .dirOut ∧ urb.ep.address = ccidBulkOutEndpoint then
    h.handleBulkOut urb.req
  else if usb.direction urb.ep = .dirIn ∧ urb.ep.address = ccidBulkInEndpoint then
    let (bytes, h) := h.handleBulkIn urb.transferBufferLength.toNat
    (.ok bytes, h)
  else if usb.direction urb.ep = .dirIn ∧ urb.ep.address = ccidInterruptInEndpoint then
    let (bytes, h) := h.handleInterruptIn
    (.ok bytes, h)
  else (.ok [], h)

end CcidUsbIpInterfaceHandler

structure UsbDevice (β : Type*) where
  deviceHandler : CcidUsbIpDeviceHandler
  interfaceHandler : CcidUsbIpInterfaceHandler β
  endpoints : List UsbEndpoint
  classSpecificDescriptor : List UInt8

def buildVirtualCcidDevice {β : Type*} (bridge : β) : UsbDevice β where
  deviceHandler := .default
  interfaceHandler := .new bridge
  endpoints := CcidUsbIpInterfaceHandler.endpoints
  classSpecificDescriptor := CcidUsbIpInterfaceHandler.classSpecificDescriptor

/-- What the server hands to the device: a control request for the device itself, or a transfer
for its interface. -/
inductive UsbRequest where
  | device (transferBufferLength : UInt32) (setup : SetupPacket)
  | interface (urb : Urb)
  deriving DecidableEq, Repr

/-- A reply is an `Err` of the device handler, or what became of a transfer. -/
abbrev UsbReply := Except (Fault IoError) (List UInt8)

def ofDevice : Except IoError (List UInt8) → UsbReply
  | .ok bytes => .ok bytes
  | .error error => .error (.error error)

/-- The device, with each request handled as a whole: either handler is behind a lock. -/
def usbMachine (usb : UsbIp) (β : Type*) [BridgeOps β] :
    Machine (UsbDevice β) UsbRequest UsbReply where
  step
    | d, .device transferBufferLength setup =>
      let (result, deviceHandler) := d.deviceHandler.handleUrb usb transferBufferLength setup
      (ofDevice result, { d with deviceHandler })
    | d, .interface urb =>
      let (result, interfaceHandler) := d.interfaceHandler.handleUrb usb urb
      (result, { d with interfaceHandler })

namespace UsbDevice

def transport {β : Type*} (d : UsbDevice β) : CcidTransport β := d.interfaceHandler.transport

end UsbDevice

/-- The call of the transport that a transfer is, if its endpoint is one of those served. -/
def Urb.op (usb : UsbIp) (urb : Urb) : Option TransportOp :=
  if usb.isEp0 urb.ep then
    some (.controlRequest urb.setup.requestType urb.setup.request urb.setup.value)
  else if urb.ep.address = ccidBulkOutEndpoint then some (.bulkOut urb.req)
  else if urb.ep.address = ccidBulkInEndpoint then some (.bulkIn urb.transferBufferLength.toNat)
  else if urb.ep.address = ccidInterruptInEndpoint then some .interruptIn
  else none

def UsbRequest.op (usb : UsbIp) : UsbRequest → Option TransportOp
  | .device .. => none
  | .interface urb => urb.op usb

/-- What the interface makes of a reply of the transport. -/
def ofTransport : TransportReply → UsbReply
  | .controlRequest result => result
  | .bulkOut (.ok ()) => .ok []
  | .bulkOut (.error fault) => .error fault
  | .bulkIn bytes | .interruptIn bytes => .ok bytes

variable {β : Type*} [BridgeOps β]

theorem handleUrb_eq (usb : UsbIp) (h : CcidUsbIpInterfaceHandler β) (urb : Urb) :
    h.handleUrb usb urb =
      match urb.op usb with
      | none => (.ok [], h)
      | some op =>
        (ofTransport ((transportMachine β).step h.transport op).1,
          ⟨((transportMachine β).step h.transport op).2⟩) := by
  unfold CcidUsbIpInterfaceHandler.handleUrb Urb.op
  by_cases hep0 : usb.isEp0 urb.ep = true
  · rw [if_pos hep0, if_pos hep0]
    rfl
  rw [if_neg hep0, if_neg hep0, usb.direction_eq]
  -- The direction bit of an address agrees with its number.
  by_cases hout : urb.ep.address = ccidBulkOutEndpoint
  · have hdir : ccidBulkOutEndpoint &&& 0x80 = 0 := by decide
    rw [hout, if_pos hdir, if_pos ⟨rfl, rfl⟩, if_pos rfl]
    unfold CcidUsbIpInterfaceHandler.handleBulkOut
    dsimp only [transportMachine]
    obtain ⟨result, t⟩ := h.transport.handleBulkOut urb.req
    cases result with
    | ok => rfl
    | error fault => rfl
  rw [if_neg (fun hand => hout hand.2), if_neg hout]
  by_cases hbulk : urb.ep.address = ccidBulkInEndpoint
  · have hdir : ¬ ccidBulkInEndpoint &&& 0x80 = 0 := by decide
    rw [hbulk, if_neg hdir, if_pos ⟨rfl, rfl⟩, if_pos rfl]
    rfl
  rw [if_neg (fun hand => hbulk hand.2), if_neg hbulk]
  by_cases hinterrupt : urb.ep.address = ccidInterruptInEndpoint
  · have hdir : ¬ ccidInterruptInEndpoint &&& 0x80 = 0 := by decide
    rw [hinterrupt, if_neg hdir, if_pos ⟨rfl, rfl⟩, if_pos rfl]
    rfl
  rw [if_neg (fun hand => hinterrupt hand.2), if_neg hinterrupt]

end VirtualCcid.Usbip
