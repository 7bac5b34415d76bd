import VirtualCcid.Rust.Std

/-! CCID messages: the commands of the host, the responses of the reader and their bytes. -/
namespace VirtualCcid.Ccid
open Rust

def pcToRdrIccPowerOn : UInt8 := 0x62
def pcToRdrIccPowerOff : UInt8 := 0x63
def pcToRdrGetSlotStatus : UInt8 := 0x65
def pcToRdrSetParameters : UInt8 := 0x61
def pcToRdrGetParameters : UInt8 := 0x6c
def pcToRdrResetParameters : UInt8 := 0x6d
def pcToRdrXfrBlock : UInt8 := 0x6f
def pcToRdrAbort : UInt8 := 0x72

def rdrToPcDataBlock : UInt8 := 0x80
def rdrToPcSlotStatus : UInt8 := 0x81
def rdrToPcParameters : UInt8 := 0x82

inductive CcidCommand where
  | iccPowerOn (slot seq powerSelect : UInt8)
  | iccPowerOff (slot seq : UInt8)
  | getSlotStatus (slot seq : UInt8)
  | getParameters (slot seq : UInt8)
  | resetParameters (slot seq : UInt8)
  | setParameters (slot seq protocolNum : UInt8) (payload : List UInt8)
  | xfrBlock (slot seq bwi : UInt8) (levelParameter : UInt16) (payload : List UInt8)
  | abort (slot seq : UInt8)
  | unknown (messageType slot seq : UInt8) (parameters : Vector UInt8 3) (payload : List UInt8)
  deriving DecidableEq, Repr

inductive IccStatus where
  | active
  | inactive
  | notPresent
  deriving DecidableEq, Repr

inductive CommandStatus where
  | noError
  | failed
  | timeExtension
  deriving DecidableEq, Repr

structure SlotStatus where
  icc : IccStatus
  command : CommandStatus
  deriving DecidableEq, Repr

inductive CcidResponse where
  | dataBlock (slot seq : UInt8) (status : SlotStatus) (error chainParameter : UInt8)
      (payload : List UInt8)
  | slotStatus (slot seq : UInt8) (status : SlotStatus) (error clockStatus : UInt8)
  | parameters (slot seq : UInt8) (status : SlotStatus) (error protocolNum : UInt8)
      (payload : List UInt8)
  deriving DecidableEq, Repr

def IccStatus.toUInt8 : IccStatus → UInt8
  | .active => 0
  | .inactive => 1
  | .notPresent => 2

def CommandStatus.toUInt8 : CommandStatus → UInt8
  | .noError => 0
  | .failed => 1
  | .timeExtension => 2

namespace SlotStatus

def ok (icc : IccStatus) : SlotStatus := ⟨icc, .noError⟩

def failed (icc : IccStatus) : SlotStatus := ⟨icc, .failed⟩

def encode (status : SlotStatus) : UInt8 :=
  (status.command.toUInt8 <<< 6) ||| status.icc.toUInt8

end SlotStatus

inductive CcidProtocolError where
  | frameTooShort (got : ℕ)
  | lengthMismatch (expected actual : ℕ)
  deriving DecidableEq, Repr

def CcidProtocolError.toString : CcidProtocolError → String
  | .frameTooShort got => s!"CCID frame is too short: got {got} bytes"
  | .lengthMismatch expected actual =>
    s!"CCID payload length mismatch: header says {expected}, frame has {actual}"

namespace CcidCommand

def decode (frame : List UInt8) : Except CcidProtocolError CcidCommand :=
  if h : frame.length < 10 then .error (.frameTooShort frame.length)
  else
    let messageType := frame[0]
    let payloadLength := u32FromLeBytes frame[1] frame[2] frame[3] frame[4]
    let slot := frame[5]
    let seq := frame[6]
    let parameters : Vector UInt8 3 := #v[frame[7], frame[8], frame[9]]
    let actualPayloadLength := frame.length - 10
    if payloadLength ≠ actualPayloadLength then
      .error (.lengthMismatch payloadLength actualPayloadLength)
    else
      let payload := frame.drop 10
      .ok <|
        if messageType = pcToRdrIccPowerOn then .iccPowerOn slot seq parameters[0]
        else if messageType = pcToRdrIccPowerOff then .iccPowerOff slot seq
        else if messageType = pcToRdrGetSlotStatus then .getSlotStatus slot seq
        else if messageType = pcToRdrGetParameters then .getParameters slot seq
        else if messageType = pcToRdrResetParameters then .resetParameters slot seq
        else if messageType = pcToRdrSetParameters then
          .setParameters slot seq parameters[0] payload
        else if messageType = pcToRdrXfrBlock then
          .xfrBlock slot seq parameters[0] (u16FromLeBytes parameters[1] parameters[2]) payload
        else if messageType = pcToRdrAbort then .abort slot seq
        else .unknown messageType slot seq parameters payload

def slot : CcidCommand → UInt8
  | iccPowerOn slot .. | iccPowerOff slot .. | getSlotStatus slot .. | getParameters slot ..
  | resetParameters slot .. | setParameters slot .. | xfrBlock slot .. | abort slot ..
  | unknown _ slot .. => slot

def seq : CcidCommand → UInt8
  | iccPowerOn _ seq .. | iccPowerOff _ seq | getSlotStatus _ seq | getParameters _ seq
  | resetParameters _ seq | setParameters _ seq .. | xfrBlock _ seq .. | abort _ seq
  | unknown _ _ seq .. => seq

def isAbort : CcidCommand → Bool
  | abort .. => true
  | _ => false

def writesParameters : CcidCommand → Bool
  | setParameters .. | resetParameters .. => true
  | _ => false

end CcidCommand

/-- The length of the frame that a header announces. -/
def frameLength (buffer : List UInt8) (h : ¬ buffer.length < 10) : ℕ :=
  10 + u32FromLeBytes buffer[1] buffer[2] buffer[3] buffer[4]

theorem ten_le_frameLength {buffer : List UInt8} (h : ¬ buffer.length < 10) :
    10 ≤ frameLength buffer h := Nat.le_add_right 10 _

/-- The ten bytes in front of every response. -/
def header (messageType : UInt8) (payloadLength : ℕ) (slot seq : UInt8)
    (params : Vector UInt8 3) : List UInt8 :=
  messageType :: u32ToLeBytes payloadLength ++ [slot, seq] ++ params.toList

theorem length_header (messageType : UInt8) (payloadLength : ℕ) (slot seq : UInt8)
    (params : Vector UInt8 3) : (header messageType payloadLength slot seq params).length = 10 := by
  simp [header, u32ToLeBytes]

theorem frameLength_header (messageType slot seq : UInt8) (params : Vector UInt8 3)
    {payload : List UInt8} (h : payload.length < 0x100000000) :
    ∃ hlen : ¬ (header messageType payload.length slot seq params ++ payload).length < 10,
      frameLength (header messageType payload.length slot seq params ++ payload) hlen =
        10 + payload.length := by
  have hlen : ¬ (header messageType payload.length slot seq params ++ payload).length < 10 := by
    rw [List.length_append, length_header]
    omega
  exact ⟨hlen, congrArg (10 + ·) (u32FromLeBytes_toLeBytes h)⟩

namespace CcidResponse

def encode : CcidResponse → List UInt8
  | dataBlock slot seq status error chainParameter payload =>
    header rdrToPcDataBlock payload.length slot seq #v[status.encode, error, chainParameter]
      ++ payload
  | slotStatus slot seq status error clockStatus =>
    header rdrToPcSlotStatus 0 slot seq #v[status.encode, error, clockStatus]
  | parameters slot seq status error protocolNum payload =>
    header rdrToPcParameters payload.length slot seq #v[status.encode, error, protocolNum]
      ++ payload

def slot : CcidResponse → UInt8
  | dataBlock slot .. | slotStatus slot .. | parameters slot .. => slot

def seq : CcidResponse → UInt8
  | dataBlock _ seq .. | slotStatus _ seq .. | parameters _ seq .. => seq

def status : CcidResponse → SlotStatus
  | dataBlock _ _ status .. | slotStatus _ _ status .. | parameters _ _ status .. => status

def error : CcidResponse → UInt8
  | dataBlock _ _ _ error .. | slotStatus _ _ _ error .. | parameters _ _ _ error .. => error

theorem ten_le_length_encode (r : CcidResponse) : 10 ≤ r.encode.length := by
  cases r <;> simp [encode, header, u32ToLeBytes]

/-- The host reads `bSeq` at offset 6 of whatever kind of response. -/
theorem encode_seq (r : CcidResponse) : r.encode[6]? = some r.seq := by
  cases r <;> simp [encode, header, u32ToLeBytes, seq]

theorem seq_eq_of_encode_eq {r r' : CcidResponse} (h : r.encode = r'.encode) :
    r.seq = r'.seq := by
  have h6 := congrArg (fun bytes => bytes[6]?) h
  simpa only [encode_seq, Option.some.injEq] using h6

end CcidResponse

example : CcidCommand.decode [0x6f, 4, 0, 0, 0, 0, 0x22, 0, 0x34, 0x12, 0x00, 0xa4, 0x04, 0x00] =
    .ok (.xfrBlock 0 0x22 0 0x1234 [0x00, 0xa4, 0x04, 0x00]) := by decide

end VirtualCcid.Ccid
