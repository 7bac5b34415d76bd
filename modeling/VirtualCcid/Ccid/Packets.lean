import VirtualCcid.Ccid.Transport
import VirtualCcid.Runs.Transfers

/-! Responses on bulk IN: the packets that the host reads are transfers of the queued frames, from
which it recovers the responses. -/
namespace VirtualCcid.Ccid
open Rust Nfc Runs

/-- What the host is still owed of a frame behind a read: the bytes beyond it, or the empty packet
that ends a transfer. -/
def remainder (frame : List UInt8) (maxLen : ℕ) : Option (List UInt8) :=
  if frame.length ≤ maxLen then
    if maxLen ≠ 0 ∧ frame ≠ [] ∧ frame.length % maxLen = 0 then some [] else none
  else some (frame.drop maxLen)

theorem remainder_eq {frame : List UInt8} {maxLen : ℕ} (hpos : 0 < maxLen) :
    remainder frame maxLen = if frame.length < maxLen then none else some (frame.drop maxLen) := by
  unfold remainder
  rcases Nat.lt_trichotomy frame.length maxLen with hlt | heq | hgt
  · have hmod : ¬ (maxLen ≠ 0 ∧ frame ≠ [] ∧ frame.length % maxLen = 0) := by
      intro ⟨_, hne, hmod⟩
      rw [Nat.mod_eq_of_lt hlt] at hmod
      exact hne (List.length_eq_zero_iff.mp hmod)
    rw [if_pos (Nat.le_of_lt hlt), if_neg hmod, if_pos hlt]
  · have hne : frame ≠ [] := List.ne_nil_of_length_pos (heq ▸ hpos)
    have hmod : frame.length % maxLen = 0 := by rw [heq, Nat.mod_self]
    rw [if_pos (Nat.le_of_eq heq), if_pos ⟨Nat.ne_of_gt hpos, hne, hmod⟩, if_neg (by omega),
      List.drop_eq_nil_of_le (Nat.le_of_eq heq)]
  · rw [if_neg (by omega), if_neg (by omega)]

namespace CcidTransport
variable {β : Type*}

/-- A read returns the front of the queue up to its length, and leaves what is owed of it there. -/
theorem handleBulkIn_cons {t : CcidTransport β} {frame : List UInt8} {frames : List (List UInt8)}
    (hq : t.pendingInFrames = frame :: frames) (maxLen : ℕ) :
    (t.handleBulkIn maxLen).1 = frame.take maxLen ∧
      (t.handleBulkIn maxLen).2.pendingInFrames = (remainder frame maxLen).toList ++ frames := by
  unfold handleBulkIn remainder
  rw [hq]
  dsimp only
  by_cases hle : frame.length ≤ maxLen
  · rw [if_pos hle, if_pos hle]
    refine ⟨(List.take_of_length_le hle).symm, ?_⟩
    rw [updateState_pendingInFrames]
    split <;> rfl
  · rw [if_neg hle, if_neg hle]
    refine ⟨rfl, ?_⟩
    rw [updateState_pendingInFrames]
    rfl

theorem handleBulkIn_nil {t : CcidTransport β} (hq : t.pendingInFrames = []) (maxLen : ℕ) :
    (t.handleBulkIn maxLen).1 = [] ∧ (t.handleBulkIn maxLen).2.pendingInFrames = [] := by
  unfold handleBulkIn
  rw [hq]
  exact ⟨rfl, (updateState_pendingInFrames t).trans hq⟩

theorem handleBulkIn_length_le (t : CcidTransport β) (maxLen : ℕ) :
    (t.handleBulkIn maxLen).1.length ≤ maxLen := by
  cases hq : t.pendingInFrames with
  | nil =>
    rw [(handleBulkIn_nil hq maxLen).1]
    exact Nat.zero_le _
  | cons frame frames =>
    rw [(handleBulkIn_cons hq maxLen).1]
    exact List.length_take_le _ _

variable [BridgeOps β]

/-- The packets that reads of these lengths return. -/
def readPackets (t : CcidTransport β) : List ℕ → List (Packet UInt8)
  | [] => []
  | maxLen :: reads =>
    ⟨maxLen, (t.handleBulkIn maxLen).1⟩ :: readPackets (t.handleBulkIn maxLen).2 reads

def afterReads (t : CcidTransport β) (reads : List ℕ) : CcidTransport β :=
  (transportMachine β).final t (reads.map .bulkIn)

theorem outputs_of_reads (t : CcidTransport β) (reads : List ℕ) :
    ((transportMachine β).history t (reads.map .bulkIn)).map Event.output =
      (t.readPackets reads).map fun p => .bulkIn p.contents := by
  induction reads generalizing t with
  | nil => rfl
  | cons maxLen reads ih =>
    exact congrArg (TransportReply.bulkIn (t.handleBulkIn maxLen).1 :: ·)
      (ih (t.handleBulkIn maxLen).2)

omit [BridgeOps β] in
theorem capacity_readPackets (t : CcidTransport β) (reads : List ℕ) :
    (t.readPackets reads).map Packet.capacity = reads := by
  induction reads generalizing t with
  | nil => rfl
  | cons maxLen reads ih => exact congrArg (maxLen :: ·) (ih (t.handleBulkIn maxLen).2)

omit [BridgeOps β] in
theorem readPackets_fit (t : CcidTransport β) (reads : List ℕ) :
    ∀ p ∈ t.readPackets reads, p.contents.length ≤ p.capacity := by
  induction reads generalizing t with
  | nil => simp [readPackets]
  | cons maxLen reads ih =>
    intro p hp
    rcases List.mem_cons.mp hp with rfl | hp
    · exact t.handleBulkIn_length_le maxLen
    · exact ih (t.handleBulkIn maxLen).2 p hp

omit [BridgeOps β] in
theorem readPackets_nil {t : CcidTransport β} (hq : t.pendingInFrames = []) (reads : List ℕ) :
    ∀ p ∈ t.readPackets reads, p.contents = [] := by
  induction reads generalizing t with
  | nil => simp [readPackets]
  | cons maxLen reads ih =>
    obtain ⟨hreply, hq'⟩ := handleBulkIn_nil hq maxLen
    intro p hp
    rcases List.mem_cons.mp hp with rfl | hp
    · exact hreply
    · exact ih hq' p hp

/-- A read for every byte and one for the end of every frame. -/
def owedReads (frames : List (List UInt8)) : ℕ := frames.flatten.length + frames.length

omit [BridgeOps β] in
theorem owedReads_cons (frame : List UInt8) (frames : List (List UInt8)) :
    owedReads (frame :: frames) = frame.length + 1 + owedReads frames := by
  simp only [owedReads, List.flatten_cons, List.length_append, List.length_cons]
  omega

omit [BridgeOps β] in
/-- A read ends the first frame or takes a byte of it at least. -/
theorem owedReads_read {t : CcidTransport β} {frame : List UInt8} {frames : List (List UInt8)}
    (hq : t.pendingInFrames = frame :: frames) {maxLen : ℕ} (hpos : 0 < maxLen) :
    owedReads (t.handleBulkIn maxLen).2.pendingInFrames < owedReads t.pendingInFrames := by
  obtain ⟨-, hqueue⟩ := handleBulkIn_cons hq maxLen
  rw [hqueue, hq, remainder_eq hpos, owedReads_cons]
  by_cases hshort : frame.length < maxLen
  · rw [if_pos hshort]
    show owedReads frames < _
    omega
  · rw [if_neg hshort]
    show owedReads (frame.drop maxLen :: frames) < _
    rw [owedReads_cons, List.length_drop]
    omega

/-- Enough reads drain the queue: each of them lowers what is owed. -/
theorem drained_of_owedReads {t : CcidTransport β} {reads : List ℕ} (hpos : ∀ m ∈ reads, 0 < m)
    (henough : owedReads t.pendingInFrames ≤ reads.length) :
    (t.afterReads reads).pendingInFrames = [] := by
  induction reads generalizing t with
  | nil =>
    show t.pendingInFrames = []
    apply List.eq_nil_of_length_eq_zero
    have hnone : owedReads t.pendingInFrames ≤ 0 := henough
    unfold owedReads at hnone
    omega
  | cons maxLen reads ih =>
    have hmax : 0 < maxLen := hpos maxLen (by simp)
    apply ih (t := (t.handleBulkIn maxLen).2) (fun m hm => hpos m (by simp [hm]))
    rw [List.length_cons] at henough
    cases hq : t.pendingInFrames with
    | nil =>
      obtain ⟨-, hqueue⟩ := handleBulkIn_nil hq maxLen
      rw [hqueue]
      exact Nat.zero_le _
    | cons frame frames =>
      have hless := owedReads_read hq hmax
      omega

/-- Reads that drain the queue return transfers of its frames, and then nothing: by induction on
the reads, of which each ends the first frame or leaves its rest in front. -/
theorem readPackets_transfers {t : CcidTransport β} {reads : List ℕ} (hpos : ∀ m ∈ reads, 0 < m)
    (hdrained : (t.afterReads reads).pendingInFrames = []) :
    ∃ packets spare, t.readPackets reads = packets ++ spare ∧
      AreTransfers t.pendingInFrames packets ∧ ∀ p ∈ spare, p.contents = [] := by
  induction reads generalizing t with
  | nil =>
    have hq : t.pendingInFrames = [] := hdrained
    rw [hq]
    exact ⟨[], [], rfl, .nil, by simp⟩
  | cons maxLen reads ih =>
    have hmax : 0 < maxLen := hpos maxLen (by simp)
    cases hq : t.pendingInFrames with
    | nil => exact ⟨[], _, rfl, .nil, readPackets_nil hq (maxLen :: reads)⟩
    | cons frame frames =>
      obtain ⟨hreply, hqueue⟩ := handleBulkIn_cons hq maxLen
      obtain ⟨packets, spare, hsplit, htransfers, hspare⟩ :=
        ih (t := (t.handleBulkIn maxLen).2) (fun m hm => hpos m (by simp [hm])) hdrained
      rw [hqueue, remainder_eq hmax] at htransfers
      refine ⟨⟨maxLen, frame.take maxLen⟩ :: packets, spare, ?_, ?_, hspare⟩
      · rw [readPackets, hreply, hsplit]
        rfl
      by_cases hshort : frame.length < maxLen
      · rw [if_pos hshort] at htransfers
        rw [List.take_of_length_le (Nat.le_of_lt hshort)]
        exact htransfers.cons_short (p := ⟨maxLen, frame⟩) hshort
      · rw [if_neg hshort] at htransfers
        have hfull : (Packet.mk maxLen (frame.take maxLen)).IsFull :=
          List.length_take_of_le (Nat.le_of_not_lt hshort)
        have hjoined := htransfers.prepend hfull
        rwa [List.take_append_drop] at hjoined

end CcidTransport

/-- What the status byte says. -/
def SlotStatus.parse (status : UInt8) : Option SlotStatus :=
  let icc : Option IccStatus :=
    if status &&& 0x03 = 0 then some .active
    else if status &&& 0x03 = 1 then some .inactive
    else if status &&& 0x03 = 2 then some .notPresent
    else none
  let command : Option CommandStatus :=
    if status >>> 6 = 0 then some .noError
    else if status >>> 6 = 1 then some .failed
    else if status >>> 6 = 2 then some .timeExtension
    else none
  icc.bind fun icc => command.map fun command => ⟨icc, command⟩

theorem SlotStatus.parse_encode (status : SlotStatus) :
    SlotStatus.parse status.encode = some status := by
  obtain ⟨icc, command⟩ := status
  cases icc <;> cases command <;> decide

namespace CcidResponse

def payload : CcidResponse → List UInt8
  | dataBlock _ _ _ _ _ payload | parameters _ _ _ _ _ payload => payload
  | slotStatus .. => []

/-- The response that a host reads from a transfer by its ten bytes of header. -/
def parse : List UInt8 → Option CcidResponse
  | messageType :: l0 :: l1 :: l2 :: l3 :: slot :: seq :: status :: error :: parameter :: payload =>
    if u32FromLeBytes l0 l1 l2 l3 ≠ payload.length then none
    else
      (SlotStatus.parse status).bind fun status =>
        if messageType = rdrToPcDataBlock then
          some (.dataBlock slot seq status error parameter payload)
        else if messageType = rdrToPcSlotStatus ∧ payload = [] then
          some (.slotStatus slot seq status error parameter)
        else if messageType = rdrToPcParameters then
          some (.parameters slot seq status error parameter payload)
        else none
  | _ => none

/-- The length field of a response announces its payload. -/
theorem declared_length (r : CcidResponse) (h : r.payload.length < 0x100000000) :
    ∃ hlen : ¬ r.encode.length < 10, frameLength r.encode hlen = 10 + r.payload.length := by
  cases r with
  | dataBlock slot seq status error chainParameter payload =>
    exact frameLength_header rdrToPcDataBlock slot seq _ h
  | parameters slot seq status error protocolNum payload =>
    exact frameLength_header rdrToPcParameters slot seq _ h
  | slotStatus slot seq status error clockStatus =>
    exact ⟨Nat.not_lt.mpr (ten_le_length_encode _), rfl⟩

theorem parse_header (messageType slot seq : UInt8) (status : SlotStatus) (error parameter : UInt8)
    {payload : List UInt8} (h : payload.length < 0x100000000) :
    parse (header messageType payload.length slot seq #v[status.encode, error, parameter]
        ++ payload) =
      if messageType = rdrToPcDataBlock then
        some (.dataBlock slot seq status error parameter payload)
      else if messageType = rdrToPcSlotStatus ∧ payload = [] then
        some (.slotStatus slot seq status error parameter)
      else if messageType = rdrToPcParameters then
        some (.parameters slot seq status error parameter payload)
      else none := by
  have hlength : u32FromLeBytes (UInt8.ofNat payload.length) (UInt8.ofNat (payload.length / 0x100))
      (UInt8.ofNat (payload.length / 0x10000)) (UInt8.ofNat (payload.length / 0x1000000)) =
    payload.length := u32FromLeBytes_toLeBytes h
  show (if u32FromLeBytes _ _ _ _ ≠ payload.length then none else _) = _
  rw [if_neg (not_not.mpr hlength), SlotStatus.parse_encode]
  rfl

theorem parse_encode (r : CcidResponse) (h : r.payload.length < 0x100000000) :
    parse r.encode = some r := by
  cases r with
  | dataBlock slot seq status error chainParameter payload =>
    exact parse_header rdrToPcDataBlock slot seq status error chainParameter h
  | slotStatus slot seq status error clockStatus =>
    have hempty : ([] : List UInt8).length < 0x100000000 := h
    exact parse_header rdrToPcSlotStatus slot seq status error clockStatus hempty
  | parameters slot seq status error protocolNum payload =>
    exact parse_header rdrToPcParameters slot seq status error protocolNum h

theorem encode_injective {r r' : CcidResponse} (h : r.payload.length < 0x100000000)
    (h' : r'.payload.length < 0x100000000) (heq : r.encode = r'.encode) : r = r' := by
  have hparse := congrArg parse heq
  rw [r.parse_encode h, r'.parse_encode h'] at hparse
  exact Option.some.inj hparse

end CcidResponse

/-- Every packet fits its read, and a read for every byte and every response drains the queue. Of a
drained queue the packets are transfers of the frames, each ended by a short packet, from which the
host recovers the frames and by their headers the responses. -/
theorem bulk_in_recovers_responses {β : Type*} [BridgeOps β] {t : CcidTransport β}
    {responses : List CcidResponse} (hlen : ∀ r ∈ responses, r.payload.length < 0x100000000)
    (hq : t.pendingInFrames = responses.map CcidResponse.encode) {reads : List ℕ}
    (hpos : ∀ m ∈ reads, 0 < m) :
    ((transportMachine β).history t (reads.map .bulkIn)).map Event.output =
        (t.readPackets reads).map (fun p => .bulkIn p.contents) ∧
      (t.readPackets reads).map Packet.capacity = reads ∧
      (∀ p ∈ t.readPackets reads, p.contents.length ≤ p.capacity) ∧
      ((responses.flatMap CcidResponse.encode).length + responses.length ≤ reads.length →
        (t.afterReads reads).pendingInFrames = []) ∧
      ((t.afterReads reads).pendingInFrames = [] →
        ∃ packets spare, t.readPackets reads = packets ++ spare ∧
          AreTransfers (responses.map CcidResponse.encode) packets ∧
          joinTransfers packets = responses.map CcidResponse.encode ∧
          (joinTransfers packets).map CcidResponse.parse = responses.map some ∧
          ∀ p ∈ spare, p.contents = []) ∧
      (∀ r ∈ responses, ∃ h : ¬ r.encode.length < 10,
        frameLength r.encode h = 10 + r.payload.length) ∧
      ∀ r r' : CcidResponse, r.payload.length < 0x100000000 → r'.payload.length < 0x100000000 →
        r.encode = r'.encode → r = r' := by
  refine ⟨t.outputs_of_reads reads, t.capacity_readPackets reads, t.readPackets_fit reads, ?_, ?_,
    fun r hr => r.declared_length (hlen r hr), fun _ _ => CcidResponse.encode_injective⟩
  · intro henough
    apply CcidTransport.drained_of_owedReads hpos
    rw [hq, CcidTransport.owedReads, List.length_map, ← List.flatMap_def]
    exact henough
  · intro hdrained
    obtain ⟨packets, spare, hsplit, htransfers, hspare⟩ :=
      CcidTransport.readPackets_transfers hpos hdrained
    rw [hq] at htransfers
    have hjoin := htransfers.join
    have hparse : (joinTransfers packets).map CcidResponse.parse = responses.map some := by
      rw [hjoin, List.map_map]
      exact List.map_congr_left fun r hr => r.parse_encode (hlen r hr)
    exact ⟨packets, spare, hsplit, htransfers, hjoin, hparse, hspare⟩

def twoResponses : List CcidResponse :=
  [.dataBlock 0 1 (.ok .active) 0 0 [0xca, 0x90, 0x00], .slotStatus 0 2 (.failed .notPresent) 0xff 0]

/-- The rest of the first frame just fills the second read and the second frame the fourth. -/
theorem two_responses_recovered :
    let bridge : CcidBridge FakeReader := .new ⟨[], [], []⟩
    let t := { CcidTransport.new bridge with
      pendingInFrames := twoResponses.map CcidResponse.encode }
    let reads := [8, 5, 64, 10, 64] ++ List.replicate 20 64
    ∃ packets spare, t.readPackets reads = packets ++ spare ∧
      (joinTransfers packets).map CcidResponse.parse = twoResponses.map some := by
  intro bridge t reads
  have hpos : ∀ m ∈ reads, 0 < m := by decide
  obtain ⟨-, -, -, hdrained, hrecovered, -⟩ :=
    bulk_in_recovers_responses (t := t) (by decide) rfl hpos
  obtain ⟨packets, spare, hsplit, -, -, hparse, -⟩ := hrecovered (hdrained (by decide))
  exact ⟨packets, spare, hsplit, hparse⟩

end VirtualCcid.Ccid
