import VirtualCcid.Ccid.Reassembly

/-! The frames that are commands: what `decode` accepts is the format of a message, and the frame
that a host writes for a command is decoded to it. -/
namespace VirtualCcid.Ccid
open Rust

namespace CcidCommand

def messageType : CcidCommand → UInt8
  | iccPowerOn .. => pcToRdrIccPowerOn
  | iccPowerOff .. => pcToRdrIccPowerOff
  | getSlotStatus .. => pcToRdrGetSlotStatus
  | getParameters .. => pcToRdrGetParameters
  | resetParameters .. => pcToRdrResetParameters
  | setParameters .. => pcToRdrSetParameters
  | xfrBlock .. => pcToRdrXfrBlock
  | abort .. => pcToRdrAbort
  | unknown messageType .. => messageType

def knownTypes : List UInt8 :=
  [pcToRdrIccPowerOn, pcToRdrIccPowerOff, pcToRdrGetSlotStatus, pcToRdrGetParameters,
    pcToRdrResetParameters, pcToRdrSetParameters, pcToRdrXfrBlock, pcToRdrAbort]

/-- What a command has of the three bytes behind `bSeq` and of the payload. Those without a payload
accept any. -/
def Has (parameters : Vector UInt8 3) (payload : List UInt8) : CcidCommand → Prop
  | iccPowerOn _ _ powerSelect => powerSelect = parameters[0]
  | iccPowerOff .. | getSlotStatus .. | getParameters .. | resetParameters .. | abort .. => True
  | setParameters _ _ protocolNum payload' => protocolNum = parameters[0] ∧ payload' = payload
  | xfrBlock _ _ bwi levelParameter payload' =>
    bwi = parameters[0] ∧ levelParameter = u16FromLeBytes parameters[1] parameters[2] ∧
      payload' = payload
  | unknown messageType _ _ parameters' payload' =>
    messageType ∉ knownTypes ∧ parameters' = parameters ∧ payload' = payload

def ofMessage (messageType slot seq : UInt8) (parameters : Vector UInt8 3)
    (payload : List UInt8) : CcidCommand :=
  if messageType = pcToRdrIccPowerOn then .iccPowerOn slot seq parameters[0]
  else if messageType = pcToRdrIccPowerOff then .iccPowerOff slot seq
  else if messageType = pcToRdrGetSlotStatus then .getSlotStatus slot seq
  else if messageType = pcToRdrGetParameters then .getParameters slot seq
  else if messageType = pcToRdrResetParameters then .resetParameters slot seq
  else if messageType = pcToRdrSetParameters then .setParameters slot seq parameters[0] payload
  else if messageType = pcToRdrXfrBlock then
    .xfrBlock slot seq parameters[0] (u16FromLeBytes parameters[1] parameters[2]) payload
  else if messageType = pcToRdrAbort then .abort slot seq
  else .unknown messageType slot seq parameters payload

theorem decode_cons (messageType l0 l1 l2 l3 slot seq p0 p1 p2 : UInt8) (payload : List UInt8) :
    decode (messageType :: l0 :: l1 :: l2 :: l3 :: slot :: seq :: p0 :: p1 :: p2 :: payload) =
      if u32FromLeBytes l0 l1 l2 l3 ≠ payload.length then
        .error (.lengthMismatch (u32FromLeBytes l0 l1 l2 l3) payload.length)
      else .ok (ofMessage messageType slot seq #v[p0, p1, p2] payload) := by
  have hlen : ¬ (messageType :: l0 :: l1 :: l2 :: l3 :: slot :: seq :: p0 :: p1 :: p2 ::
      payload).length < 10 := by
    simp only [List.length_cons]
    omega
  unfold decode
  rw [dif_neg hlen]
  have hpayload : (messageType :: l0 :: l1 :: l2 :: l3 :: slot :: seq :: p0 :: p1 :: p2 ::
      payload).length - 10 = payload.length := rfl
  simp only [hpayload]
  rfl

theorem eq_cons_of_length {frame : List UInt8} (h : ¬ frame.length < 10) :
    ∃ messageType l0 l1 l2 l3 slot seq p0 p1 p2 payload,
      frame = messageType :: l0 :: l1 :: l2 :: l3 :: slot :: seq :: p0 :: p1 :: p2 :: payload := by
  have hcons : ∀ {n : ℕ} {bytes : List UInt8}, n + 1 ≤ bytes.length →
      ∃ byte rest, bytes = byte :: rest ∧ n ≤ rest.length := by
    intro n bytes hlen
    cases bytes with
    | nil => exact absurd hlen (Nat.not_succ_le_zero n)
    | cons byte rest => exact ⟨byte, rest, rfl, Nat.le_of_succ_le_succ hlen⟩
  obtain ⟨messageType, frame, rfl, h9⟩ := hcons (Nat.le_of_not_lt h)
  obtain ⟨l0, frame, rfl, h8⟩ := hcons h9
  obtain ⟨l1, frame, rfl, h7⟩ := hcons h8
  obtain ⟨l2, frame, rfl, h6⟩ := hcons h7
  obtain ⟨l3, frame, rfl, h5⟩ := hcons h6
  obtain ⟨slot, frame, rfl, h4⟩ := hcons h5
  obtain ⟨seq, frame, rfl, h3⟩ := hcons h4
  obtain ⟨p0, frame, rfl, h2⟩ := hcons h3
  obtain ⟨p1, frame, rfl, h1⟩ := hcons h2
  obtain ⟨p2, payload, rfl, -⟩ := hcons h1
  exact ⟨messageType, l0, l1, l2, l3, slot, seq, p0, p1, p2, payload, rfl⟩

theorem ofMessage_unknown {messageType : UInt8} (h : messageType ∉ knownTypes) (slot seq : UInt8)
    (parameters : Vector UInt8 3) (payload : List UInt8) :
    ofMessage messageType slot seq parameters payload =
      .unknown messageType slot seq parameters payload := by
  simp only [knownTypes, List.mem_cons, List.not_mem_nil, or_false, not_or] at h
  obtain ⟨hon, hoff, hstatus, hget, hreset, hset, hblock, habort⟩ := h
  rw [ofMessage, if_neg hon, if_neg hoff, if_neg hstatus, if_neg hget, if_neg hreset, if_neg hset,
    if_neg hblock, if_neg habort]

theorem ofMessage_eq_iff {messageType slot seq : UInt8} {parameters : Vector UInt8 3}
    {payload : List UInt8} {command : CcidCommand} :
    ofMessage messageType slot seq parameters payload = command ↔
      messageType = command.messageType ∧ slot = command.slot ∧ seq = command.seq ∧
        command.Has parameters payload := by
  constructor
  · rintro rfl
    by_cases hknown : messageType ∈ knownTypes
    · simp only [knownTypes, List.mem_cons, List.not_mem_nil, or_false] at hknown
      rcases hknown with rfl | rfl | rfl | rfl | rfl | rfl | rfl | rfl
      · exact ⟨rfl, rfl, rfl, rfl⟩
      · exact ⟨rfl, rfl, rfl, trivial⟩
      · exact ⟨rfl, rfl, rfl, trivial⟩
      · exact ⟨rfl, rfl, rfl, trivial⟩
      · exact ⟨rfl, rfl, rfl, trivial⟩
      · exact ⟨rfl, rfl, rfl, rfl, rfl⟩
      · exact ⟨rfl, rfl, rfl, rfl, rfl, rfl⟩
      · exact ⟨rfl, rfl, rfl, trivial⟩
    · rw [ofMessage_unknown hknown]
      exact ⟨rfl, rfl, rfl, hknown, rfl, rfl⟩
  · rintro ⟨rfl, rfl, rfl, hhas⟩
    cases command with
    | iccPowerOn slot seq powerSelect => exact congrArg (iccPowerOn slot seq) hhas.symm
    | iccPowerOff | getSlotStatus | getParameters | resetParameters | abort => rfl
    | setParameters slot seq protocolNum payload' =>
      obtain ⟨rfl, rfl⟩ := hhas
      rfl
    | xfrBlock slot seq bwi levelParameter payload' =>
      obtain ⟨rfl, rfl, rfl⟩ := hhas
      rfl
    | unknown messageType slot seq parameters' payload' =>
      obtain ⟨hunknown, rfl, rfl⟩ := hhas
      exact ofMessage_unknown hunknown slot seq parameters' payload'

theorem decode_header (messageType slot seq : UInt8) (parameters : Vector UInt8 3)
    {payload : List UInt8} (h : payload.length < 0x100000000) :
    decode (header messageType payload.length slot seq parameters ++ payload) =
      .ok (ofMessage messageType slot seq parameters payload) := by
  have hlength := u32FromLeBytes_toLeBytes h
  have hparameters : parameters = #v[parameters[0], parameters[1], parameters[2]] := by
    refine Vector.ext fun i hi => ?_
    obtain rfl | rfl | rfl : i = 0 ∨ i = 1 ∨ i = 2 := by omega
    · rfl
    · rfl
    · rfl
  obtain ⟨p0, p1, p2, rfl⟩ : ∃ p0 p1 p2, parameters = #v[p0, p1, p2] := ⟨_, _, _, hparameters⟩
  show decode (messageType :: _ :: _ :: _ :: _ :: slot :: seq :: p0 :: p1 :: p2 :: payload) = _
  rw [decode_cons, if_neg (not_not.mpr hlength)]

/-- The frames that are decoded are those with a right length field, and to the command that their
message is. -/
theorem decode_eq_ok_iff {frame : List UInt8} {command : CcidCommand} :
    decode frame = .ok command ↔
      ∃ parameters payload, payload.length < 0x100000000 ∧ command.Has parameters payload ∧
        frame = header command.messageType payload.length command.slot command.seq parameters ++
          payload := by
  constructor
  · intro hd
    by_cases hlen : frame.length < 10
    · rw [decode, dif_pos hlen] at hd
      cases hd
    obtain ⟨messageType, l0, l1, l2, l3, slot, seq, p0, p1, p2, payload, rfl⟩ :=
      eq_cons_of_length hlen
    rw [decode_cons] at hd
    by_cases hlength : u32FromLeBytes l0 l1 l2 l3 = payload.length
    · rw [if_neg (not_not.mpr hlength)] at hd
      obtain ⟨rfl, rfl, rfl, hhas⟩ := ofMessage_eq_iff.mp (Except.ok.inj hd)
      refine ⟨#v[p0, p1, p2], payload, hlength ▸ u32FromLeBytes_lt l0 l1 l2 l3, hhas, ?_⟩
      rw [← hlength, header, u32ToLeBytes_fromLeBytes]
      rfl
    · rw [if_pos hlength] at hd
      cases hd
  · rintro ⟨parameters, payload, hlength, hhas, rfl⟩
    rw [decode_header _ _ _ _ hlength]
    exact congrArg Except.ok (ofMessage_eq_iff.mpr ⟨rfl, rfl, rfl, hhas⟩)

def payload : CcidCommand → List UInt8
  | setParameters _ _ _ payload | xfrBlock _ _ _ _ payload | unknown _ _ _ _ payload => payload
  | iccPowerOn .. | iccPowerOff .. | getSlotStatus .. | getParameters .. | resetParameters ..
  | abort .. => []

/-- The three bytes behind `bSeq`, zero where the command has no use for them. -/
def parameters : CcidCommand → Vector UInt8 3
  | iccPowerOn _ _ powerSelect => #v[powerSelect, 0, 0]
  | setParameters _ _ protocolNum _ => #v[protocolNum, 0, 0]
  | xfrBlock _ _ bwi levelParameter _ =>
    #v[bwi, (u16ToLeBytes levelParameter).1, (u16ToLeBytes levelParameter).2]
  | unknown _ _ _ parameters _ => parameters
  | iccPowerOff .. | getSlotStatus .. | getParameters .. | resetParameters .. | abort .. =>
    .replicate 3 0

/-- The message that a host writes for a command. -/
def encode (command : CcidCommand) : List UInt8 :=
  header command.messageType command.payload.length command.slot command.seq command.parameters ++
    command.payload

/-- A command that a host can write: its payload is not too long, and it is not called unknown if
its type is a known one. -/
structure Writable (command : CcidCommand) : Prop where
  short : command.payload.length ≤ ccidMaxMessageLength
  unknown : ∀ messageType slot seq parameters payload,
    command = .unknown messageType slot seq parameters payload → messageType ∉ knownTypes

theorem Writable.has {command : CcidCommand} (h : command.Writable) :
    command.Has command.parameters command.payload := by
  cases command with
  | iccPowerOn | setParameters => trivial
  | iccPowerOff | getSlotStatus | getParameters | resetParameters | abort => trivial
  | xfrBlock slot seq bwi levelParameter payload =>
    exact ⟨rfl, (u16FromLeBytes_toLeBytes levelParameter).symm, rfl⟩
  | unknown messageType slot seq parameters payload =>
    exact ⟨h.unknown _ _ _ _ _ rfl, rfl, rfl⟩

theorem Writable.length_lt {command : CcidCommand} (h : command.Writable) :
    command.payload.length < 0x100000000 :=
  Nat.lt_of_le_of_lt h.short (by decide)

theorem decode_encode {command : CcidCommand} (h : command.Writable) :
    decode command.encode = .ok command := by
  rw [encode, decode_header _ _ _ _ h.length_lt]
  exact congrArg Except.ok (ofMessage_eq_iff.mpr ⟨rfl, rfl, rfl, h.has⟩)

theorem length_encode (command : CcidCommand) :
    command.encode.length = 10 + command.payload.length := by
  rw [encode, List.length_append, length_header]

theorem Writable.frameLength_encode {command : CcidCommand} (h : command.Writable) :
    ∃ hlen : ¬ command.encode.length < 10,
      frameLength command.encode hlen = 10 + command.payload.length :=
  frameLength_header _ _ _ _ h.length_lt

def message (command : CcidCommand) (h : command.Writable) : BulkMessage where
  bytes := command.encode
  hasHeader := h.frameLength_encode.fst
  whole := h.frameLength_encode.snd.trans command.length_encode.symm
  fits := by
    have hshort := h.short
    rw [length_encode]
    omega

theorem command_message {command : CcidCommand} (h : command.Writable) :
    (command.message h).command = command := by
  have hd := (command.message h).decode_bytes
  rw [show (command.message h).bytes = command.encode from rfl, decode_encode h] at hd
  exact (Except.ok.inj hd).symm

end CcidCommand

end VirtualCcid.Ccid
