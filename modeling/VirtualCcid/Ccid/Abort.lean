import VirtualCcid.Ccid.Reassembly
import VirtualCcid.Nfc.Dummy

/-! Aborts: the bulk half and the control half in either order, and what an abort recovers from
when part of a message is buffered. -/
namespace VirtualCcid.Ccid
open Rust Nfc Runs

variable {ρ : Type*}

namespace Endpoint

/-- The endpoint after an abort for slot 0: only its response is queued. -/
def completed (e : Endpoint (CcidBridge ρ)) (seq : UInt8) : Endpoint (CcidBridge ρ) :=
  { e with bulkAbort := none, controlAbort := none, inFrames := [] }.answer
    (.slotStatus 0 seq (.ok e.bridge.currentIccStatus) 0 0) e.bridge.cardPresent

variable [NfcReader ρ]

theorem complete_eq (e : Endpoint (CcidBridge ρ)) (seq : UInt8) :
    e.complete 0 seq = some (e.completed seq) := rfl

end Endpoint

namespace CcidTransport

/-- The abort has completed for slot 0: nothing is pending but its successful response. -/
def Aborted (t : CcidTransport (CcidBridge ρ)) (seq : UInt8) : Prop :=
  t.bulkAbort = none ∧ t.controlAbort = none ∧
    t.pendingInFrames =
      [(CcidResponse.slotStatus 0 seq (.ok t.bridge.value.currentIccStatus) 0 0).encode]

theorem aborted_completed (e : Endpoint (CcidBridge ρ)) (seq : UInt8) (buffer : List UInt8) :
    (assemble (e.completed seq) buffer).Aborted seq := ⟨rfl, rfl, rfl⟩

section Message
variable {β : Type*} [BridgeOps β] {e e' : Endpoint β} {buffer payload frame rest : List UInt8}
  {command : CcidCommand}

theorem handleBulkOut_next (hb : scanFrame buffer = .incomplete)
    (hscan : scanFrame (buffer ++ payload) = .message frame rest)
    (hd : CcidCommand.decode frame = .ok command) (hrest : scanFrame rest = .incomplete)
    (hr : e.receive command = .next e') :
    (assemble e buffer).handleBulkOut payload = (.ok (), assemble e' rest) := by
  have hreact : e.react frame = .next e' := (Endpoint.react_of_decode hd e).trans hr
  have hcall := handleBulkOut_refines e hb payload
  rw [Framing.drain_message hscan, hreact] at hcall
  dsimp only at hcall
  rw [Framing.drain_incomplete hrest] at hcall
  exact hcall

theorem handleBulkOut_flush (hb : scanFrame buffer = .incomplete)
    (hscan : scanFrame (buffer ++ payload) = .message frame rest)
    (hd : CcidCommand.decode frame = .ok command) (hr : e.receive command = .flush e') :
    (assemble e buffer).handleBulkOut payload = (.ok (), assemble e' []) := by
  have hreact : e.react frame = .flush e' := (Endpoint.react_of_decode hd e).trans hr
  have hcall := handleBulkOut_refines e hb payload
  rw [Framing.drain_message hscan, hreact] at hcall
  exact hcall

end Message

variable [NfcReader ρ]

def abortRequest (slot seq : UInt8) : TransportOp :=
  .controlRequest 0x21 ccidAbort (u16FromLeBytes slot seq)

theorem step_abortRequest (e : Endpoint (CcidBridge ρ)) (buffer : List UInt8) (seq : UInt8) :
    ((transportMachine _).step (assemble e buffer) (abortRequest 0 seq)).2 =
      if e.bulkAbort = some seq then assemble (e.completed seq) []
      else assemble { e with controlAbort := some (0, seq) } buffer := by
  have h := expectAbort_assemble e buffer seq
  have hstep : ((transportMachine _).step (assemble e buffer) (abortRequest 0 seq)).2 =
      ((assemble e buffer).expectAbort 0 seq).2 := by
    simp [transportMachine, abortRequest, handleControlRequest_abort, u16ToLeBytes_fromLeBytes]
  rw [hstep]
  split at h
  · next hq =>
    rw [Endpoint.complete_eq] at h
    dsimp only at h
    rw [h, if_pos hq]
  · next hq => rw [h, if_neg hq]

theorem step_abortRequest_other (t : CcidTransport (CcidBridge ρ)) {slot : UInt8}
    (hs : slot ≠ 0) (seq : UInt8) :
    ((transportMachine _).step t (abortRequest slot seq)).2 = t := by
  simp [transportMachine, abortRequest, handleControlRequest_abort, u16ToLeBytes_fromLeBytes,
    expectAbort, hs]

theorem step_bulkAbort {e : Endpoint (CcidBridge ρ)} (he : e.controlAbort = none)
    {m : BulkMessage} {slot seq : UInt8} (hm : m.command = .abort slot seq) :
    ((transportMachine _).step (assemble e []) (.bulkOut m.bytes)).2 =
      assemble { e with bulkAbort := some seq } [] := by
  have hr : e.receive m.command = .next { e with bulkAbort := some seq } := by
    simp [Endpoint.receive, he, hm]
  have hcall := handleBulkOut_next scanFrame_nil m.scan_bytes m.decode_bytes scanFrame_nil hr
  exact congrArg Prod.snd hcall

theorem step_bulkAbort_expected {e : Endpoint (CcidBridge ρ)} {q : UInt8}
    (he : e.controlAbort = some (0, q)) {m : BulkMessage} {slot seq : UInt8}
    (hm : m.command = .abort slot seq) :
    ((transportMachine _).step (assemble e []) (.bulkOut m.bytes)).2 =
      if slot = 0 ∧ seq = q then assemble (e.completed q) []
      else assemble (e.answer (e.aborted m.command) e.bridge.cardPresent) [] := by
  split
  · next h =>
    obtain ⟨rfl, rfl⟩ := h
    have hr : e.receive m.command = .flush (e.completed seq) := by
      simp [Endpoint.receive, he, hm, Endpoint.complete_eq]
    have hcall := handleBulkOut_flush scanFrame_nil m.scan_bytes m.decode_bytes hr
    exact congrArg Prod.snd hcall
  · next h =>
    have hr : e.receive m.command =
        .next (e.answer (e.aborted m.command) e.bridge.cardPresent) := by
      simp only [Endpoint.receive, he, hm, CcidCommand.abort.injEq, h, if_false]
      rfl
    have hcall := handleBulkOut_next scanFrame_nil m.scan_bytes m.decode_bytes scanFrame_nil hr
    exact congrArg Prod.snd hcall

def controlFirst (t : CcidTransport (CcidBridge ρ)) (m : BulkMessage) (s q : UInt8) :
    CcidTransport (CcidBridge ρ) :=
  (transportMachine _).final t [abortRequest s q, .bulkOut m.bytes]

def bulkFirst (t : CcidTransport (CcidBridge ρ)) (m : BulkMessage) (s q : UInt8) :
    CcidTransport (CcidBridge ρ) :=
  (transportMachine _).final t [.bulkOut m.bytes, abortRequest s q]

section Orders
variable {e : Endpoint (CcidBridge ρ)} {m : BulkMessage} {slot seq : UInt8}

theorem controlFirst_eq (hb : e.bulkAbort = none) (hc : e.controlAbort = none)
    (hm : m.command = .abort slot seq) (s q : UInt8) :
    controlFirst (assemble e []) m s q =
      if s = 0 then
        if slot = 0 ∧ seq = q then assemble (e.completed q) []
        else
          let e : Endpoint (CcidBridge ρ) := { e with controlAbort := some (0, q) }
          assemble (e.answer (e.aborted m.command) e.bridge.cardPresent) []
      else assemble { e with bulkAbort := some seq } [] := by
  have hfinal : controlFirst (assemble e []) m s q = ((transportMachine _).step
      ((transportMachine _).step (assemble e []) (abortRequest s q)).2 (.bulkOut m.bytes)).2 := rfl
  rw [hfinal]
  by_cases hs : s = 0
  · subst hs
    rw [step_abortRequest, if_pos rfl, if_neg (by simp [hb]), step_bulkAbort_expected rfl hm]
    rfl
  · rw [step_abortRequest_other _ hs, step_bulkAbort hc hm, if_neg hs]

theorem bulkFirst_eq (hc : e.controlAbort = none) (hm : m.command = .abort slot seq)
    (s q : UInt8) :
    bulkFirst (assemble e []) m s q =
      if s = 0 then
        if seq = q then assemble (e.completed q) []
        else assemble { e with bulkAbort := some seq, controlAbort := some (0, q) } []
      else assemble { e with bulkAbort := some seq } [] := by
  have hfinal : bulkFirst (assemble e []) m s q = ((transportMachine _).step
      ((transportMachine _).step (assemble e []) (.bulkOut m.bytes)).2 (abortRequest s q)).2 := rfl
  rw [hfinal, step_bulkAbort hc hm]
  by_cases hs : s = 0
  · subst hs
    rw [step_abortRequest, if_pos rfl]
    simp only [Option.some.injEq]
    rfl
  · rw [step_abortRequest_other _ hs, if_neg hs]

theorem controlFirst_aborted_iff (hb : e.bulkAbort = none) (hc : e.controlAbort = none)
    (hm : m.command = .abort slot seq) (s q : UInt8) :
    (controlFirst (assemble e []) m s q).Aborted q ↔ slot = 0 ∧ s = 0 ∧ seq = q := by
  rw [controlFirst_eq hb hc hm]
  by_cases hs : s = 0
  · by_cases hmatch : slot = 0 ∧ seq = q
    · simp only [hs, hmatch, and_self, if_true, iff_true]
      exact aborted_completed e q []
    · have hne : ¬ (slot = 0 ∧ True ∧ seq = q) := by simpa using hmatch
      simp only [hs, hmatch, if_true, if_false, hne, iff_false]
      rintro ⟨_, hcontrol, _⟩
      cases hcontrol
  · simp only [hs, if_false, false_and, and_false, iff_false]
    rintro ⟨hbulk, _⟩
    cases hbulk

theorem bulkFirst_aborted_iff (hc : e.controlAbort = none) (hm : m.command = .abort slot seq)
    (s q : UInt8) : (bulkFirst (assemble e []) m s q).Aborted q ↔ s = 0 ∧ seq = q := by
  rw [bulkFirst_eq hc hm]
  by_cases hs : s = 0
  · by_cases hq : seq = q
    · simp only [hs, hq, and_self, if_true, iff_true]
      exact aborted_completed e q []
    · simp only [hs, hq, if_true, if_false, and_false, iff_false]
      rintro ⟨hbulk, _⟩
      cases hbulk
  · simp only [hs, if_false, false_and, iff_false]
    rintro ⟨hbulk, _⟩
    cases hbulk

end Orders

/-- The two orders complete the abort exactly for the same slot 0 and the same sequence, and then
agree. -/
def AbortsSymmetrically (t : CcidTransport (CcidBridge ρ)) (m : BulkMessage)
    (slot seq s q : UInt8) : Prop :=
  ((controlFirst t m s q).Aborted q ↔ slot = 0 ∧ s = 0 ∧ seq = q) ∧
    ((bulkFirst t m s q).Aborted q ↔ slot = 0 ∧ s = 0 ∧ seq = q) ∧
    (slot = 0 ∧ s = 0 ∧ seq = q → controlFirst t m s q = bulkFirst t m s q)

/-- From a reachable state with no half of an abort pending and an empty buffer, the handshake is
symmetric unless the bulk half names another slot and comes first: then the control half completes
it for slot 0 all the same. -/
theorem aborts_symmetrically_iff {reader : ρ} {t : CcidTransport (CcidBridge ρ)}
    (ht : (transportMachine _).Reachable (fun d => d.output.Returns) (.new (.new reader)) t)
    (hb : t.bulkAbort = none) (hc : t.controlAbort = none) (hbuf : t.pendingOutBuffer = [])
    {m : BulkMessage} {slot seq : UInt8} (hm : m.command = .abort slot seq) (s q : UInt8) :
    t.AbortsSymmetrically m slot seq s q ↔ ¬ (slot ≠ 0 ∧ s = 0 ∧ seq = q) := by
  obtain ⟨e, buffer, rfl, _⟩ := reachable_waits ht
  obtain rfl : buffer = [] := hbuf
  have hb : e.bulkAbort = none := hb
  have hc : e.controlAbort = none := hc
  unfold AbortsSymmetrically
  rw [controlFirst_aborted_iff hb hc hm, bulkFirst_aborted_iff hc hm]
  constructor
  · rintro ⟨_, hbulk, _⟩ ⟨hslot, hs, hq⟩
    exact hslot (hbulk.mp ⟨hs, hq⟩).1
  · intro h
    refine ⟨Iff.rfl, ⟨fun ⟨hs, hq⟩ => ⟨?_, hs, hq⟩, fun ⟨_, hs, hq⟩ => ⟨hs, hq⟩⟩, ?_⟩
    · by_contra hslot
      exact h ⟨hslot, hs, hq⟩
    · rintro ⟨rfl, rfl, rfl⟩
      rw [controlFirst_eq hb hc hm, bulkFirst_eq hc hm]
      simp

def abortSlotOne : BulkMessage :=
  ⟨[0x72, 0, 0, 0, 0, 1, 7, 0, 0, 0], by decide, by decide, by decide⟩

theorem abort_for_other_slot_completes :
    ¬ ∀ t : CcidTransport (CcidBridge DummyReader),
      (transportMachine _).Reachable (fun d => d.output.Returns)
        (.new (.new DummyReader.opened)) t →
      t.bulkAbort = none → t.controlAbort = none → t.pendingOutBuffer = [] →
      ∀ m slot seq, m.command = .abort slot seq → ∀ s q, t.AbortsSymmetrically m slot seq s q := by
  intro hall
  have hsym := hall _ ⟨[], .start, by simp⟩ rfl rfl rfl abortSlotOne 1 7 rfl 0 7
  have haborted : (bulkFirst (.new (.new DummyReader.opened)) abortSlotOne 0 7).Aborted 7 :=
    ⟨rfl, rfl, rfl⟩
  exact absurd (hsym.2.1.mp haborted).1 (by decide)

theorem aborts_symmetrically_for_slot_one :
    (CcidTransport.new (CcidBridge.new DummyReader.opened)).AbortsSymmetrically abortSlotOne 1 7 0 8 :=
  (aborts_symmetrically_iff ⟨[], .start, by simp⟩ rfl rfl rfl rfl 0 8).mpr (by decide)

end CcidTransport

/-- The bytes begin with a whole message of type `Abort` for slot 0 and the sequence. -/
def BeginsWithAbort (bytes : List UInt8) (seq : UInt8) : Prop :=
  bytes[0]? = some pcToRdrAbort ∧ bytes[5]? = some 0 ∧ bytes[6]? = some seq ∧
    ∃ h : ¬ bytes.length < 10, frameLength bytes h ≤ bytes.length

theorem decode_eq_abort_iff {frame : List UInt8} {command : CcidCommand}
    (hd : CcidCommand.decode frame = .ok command) (slot seq : UInt8) :
    command = .abort slot seq ↔
      frame[0]? = some pcToRdrAbort ∧ frame[5]? = some slot ∧ frame[6]? = some seq := by
  unfold CcidCommand.decode at hd
  by_cases h : frame.length < 10
  · rw [dif_pos h] at hd
    cases hd
  rw [dif_neg h] at hd
  dsimp only at hd
  -- Nested conditionals are taken apart one by one: `split` visits each of them twice.
  rcases ite_eq_iff.mp hd with ⟨_, hd⟩ | ⟨_, hd⟩
  · cases hd
  have hd := Except.ok.inj hd
  have h0 : frame[0]? = some frame[0] := List.getElem?_eq_getElem (by omega)
  have h5 : frame[5]? = some frame[5] := List.getElem?_eq_getElem (by omega)
  have h6 : frame[6]? = some frame[6] := List.getElem?_eq_getElem (by omega)
  rw [h0, h5, h6]
  simp only [Option.some.injEq]
  constructor
  · rintro rfl
    simp only [ite_eq_iff, reduceCtorEq, and_false, false_or, or_false,
      CcidCommand.abort.injEq] at hd
    obtain ⟨_, _, _, _, _, _, _, habort⟩ := hd
    exact habort
  · rintro ⟨h0, rfl, rfl⟩
    rw [← hd]
    simp [h0, pcToRdrAbort, pcToRdrIccPowerOn, pcToRdrIccPowerOff, pcToRdrGetSlotStatus,
      pcToRdrGetParameters, pcToRdrResetParameters, pcToRdrSetParameters, pcToRdrXfrBlock]

theorem frameLength_append_of_incomplete {buffer : List UInt8}
    (hb : scanFrame buffer = .incomplete) (ys : List UInt8) (h : ¬ (buffer ++ ys).length < 10) :
    buffer.length < frameLength (buffer ++ ys) h ∧
      (10 ≤ buffer.length → frameLength (buffer ++ ys) h ≤ ccidMaxMessageLength + 10) := by
  by_cases hlen : buffer.length < 10
  · have := ten_le_frameLength h
    exact ⟨by omega, fun _ => by omega⟩
  rw [frameLength_append hlen]
  obtain ⟨hlt, hmax⟩ := frameLength_of_incomplete hb hlen
  exact ⟨hlt, fun _ => hmax⟩

theorem beginsWithAbort_iff {buffer ys : List UInt8} (hb : scanFrame buffer = .incomplete)
    (hys : ys.length = 10) (seq : UInt8) :
    BeginsWithAbort (buffer ++ ys) seq ↔
      ∃ frame rest, scanFrame (buffer ++ ys) = .message frame rest ∧
        CcidCommand.decode frame = .ok (.abort 0 seq) := by
  -- The header is the same in the buffer and in the frame.
  have htake : ∀ n, 10 ≤ n → ∀ i, i < 10 → ((buffer ++ ys).take n)[i]? = (buffer ++ ys)[i]? :=
    fun n hn i hi => List.getElem?_take_of_lt (by omega)
  constructor
  · rintro ⟨h0, h5, h6, h, hle⟩
    obtain ⟨hlt, hmax⟩ := frameLength_append_of_incomplete hb ys h
    have hfits : frameLength (buffer ++ ys) h ≤ ccidMaxMessageLength + 10 := by
      by_cases hlen : 10 ≤ buffer.length
      · exact hmax hlen
      · simp only [List.length_append] at hle
        simp only [ccidMaxMessageLength]
        omega
    have hscan := scanFrame_eq_message.mpr ⟨h, hfits, hle, rfl, rfl⟩
    obtain ⟨command, hd⟩ := decode_of_scan hscan
    have htake := htake _ (ten_le_frameLength h)
    have hcommand : command = .abort 0 seq := by
      rw [decode_eq_abort_iff hd, htake 0 (by omega), htake 5 (by omega), htake 6 (by omega)]
      exact ⟨h0, h5, h6⟩
    exact ⟨_, _, hscan, hcommand ▸ hd⟩
  · rintro ⟨frame, rest, hscan, hd⟩
    obtain ⟨h, _, hle, rfl, _⟩ := scanFrame_eq_message.mp hscan
    have htake := htake _ (ten_le_frameLength h)
    have habort := (decode_eq_abort_iff hd 0 seq).mp rfl
    rw [htake 0 (by omega), htake 5 (by omega), htake 6 (by omega)] at habort
    obtain ⟨h0, h5, h6⟩ := habort
    exact ⟨h0, h5, h6, h, hle⟩

theorem rest_incomplete {buffer ys frame rest : List UInt8} (hb : scanFrame buffer = .incomplete)
    (hys : ys.length = 10) (h : scanFrame (buffer ++ ys) = .message frame rest) :
    scanFrame rest = .incomplete := by
  obtain ⟨hlen, _, _, _, rfl⟩ := scanFrame_eq_message.mp h
  have hlt := (frameLength_append_of_incomplete hb ys hlen).1
  have hshort : ((buffer ++ ys).drop (frameLength (buffer ++ ys) hlen)).length < 10 := by
    simp only [List.length_drop, List.length_append]
    omega
  exact dif_pos hshort

namespace CcidTransport
variable {ρ : Type*} [NfcReader ρ]

/-- The ten bytes of an `Abort` for slot 0; its last three are reserved. -/
def abortBytes (seq r₀ r₁ r₂ : UInt8) : List UInt8 := [pcToRdrAbort, 0, 0, 0, 0, 0, seq, r₀, r₁, r₂]

def afterAbort (t : CcidTransport (CcidBridge ρ)) (seq r₀ r₁ r₂ : UInt8) :
    CcidTransport (CcidBridge ρ) :=
  (transportMachine _).final t [abortRequest 0 seq, .bulkOut (abortBytes seq r₀ r₁ r₂)]

/-- The abort has completed and the transport is ready for the next message. -/
def Recovered (t : CcidTransport (CcidBridge ρ)) (seq : UInt8) : Prop :=
  t.Aborted seq ∧ t.pendingOutBuffer = [] ∧ t.nextFrameLen = none

omit [NfcReader ρ] in
theorem not_recovered_of_expected {t : CcidTransport (CcidBridge ρ)} {abort : UInt8 × UInt8}
    (h : t.controlAbort = some abort) {seq : UInt8} : ¬ t.Recovered seq := by
  rintro ⟨⟨_, hnone, _⟩, _⟩
  rw [h] at hnone
  cases hnone

theorem afterAbort_assemble {e : Endpoint (CcidBridge ρ)} (hb : e.bulkAbort = none)
    (buffer : List UInt8) (seq r₀ r₁ r₂ : UInt8) :
    (assemble e buffer).afterAbort seq r₀ r₁ r₂ =
      ((assemble { e with controlAbort := some (0, seq) } buffer).handleBulkOut
        (abortBytes seq r₀ r₁ r₂)).2 := by
  have hne : ¬ e.bulkAbort = some seq := by simp [hb]
  have hstep := step_abortRequest e buffer seq
  rw [if_neg hne] at hstep
  exact congrArg (fun t => ((transportMachine _).step t
    (.bulkOut (abortBytes seq r₀ r₁ r₂))).2) hstep

/-- With the control half pending, ten bytes behind an unfinished message complete the abort
exactly if the first message in the buffer is the other half. -/
theorem recovered_iff_first_message {e : Endpoint (CcidBridge ρ)} {seq : UInt8}
    (he : e.controlAbort = some (0, seq)) {buffer payload : List UInt8}
    (hb : scanFrame buffer = .incomplete) (hp : payload.length = 10) :
    ((assemble e buffer).handleBulkOut payload).2.Recovered seq ↔
      ∃ frame rest, scanFrame (buffer ++ payload) = .message frame rest ∧
        CcidCommand.decode frame = .ok (.abort 0 seq) := by
  have hcall := handleBulkOut_refines e hb payload
  match hscan : scanFrame (buffer ++ payload) with
  | .incomplete =>
    rw [Framing.drain_incomplete hscan] at hcall
    have hend : (assemble e buffer).handleBulkOut payload =
      (.ok (), assemble e (buffer ++ payload)) := hcall
    rw [hend]
    exact iff_of_false (not_recovered_of_expected he) (by simp)
  | .refused n =>
    rw [Framing.drain_refused hscan] at hcall
    have hend : (assemble e buffer).handleBulkOut payload =
      (.error (.error (tooLong n)), assemble e []) := hcall
    rw [hend]
    exact iff_of_false (not_recovered_of_expected he) (by simp)
  | .message frame rest =>
    obtain ⟨command, hd⟩ := decode_of_scan hscan
    by_cases hcommand : command = .abort 0 seq
    · subst hcommand
      have hr : e.receive (.abort 0 seq) = .flush (e.completed seq) := by
        simp [Endpoint.receive, he, Endpoint.complete_eq]
      rw [handleBulkOut_flush hb hscan hd hr]
      have hrecovered : (assemble (e.completed seq) []).Recovered seq :=
        ⟨aborted_completed e seq [], rfl, rfl⟩
      exact iff_of_true hrecovered ⟨frame, rest, rfl, hd⟩
    · have hr : e.receive command =
          .next (e.answer (e.aborted command) e.bridge.cardPresent) := by
        simp only [Endpoint.receive, he, hcommand, if_false]
        rfl
      have hrest := rest_incomplete hb hp hscan
      rw [handleBulkOut_next hb hscan hd hrest hr]
      refine iff_of_false (not_recovered_of_expected he) ?_
      rintro ⟨frame', rest', hscan', hd'⟩
      obtain ⟨rfl, rfl⟩ := Scan.message.inj hscan'
      rw [hd] at hd'
      exact hcommand (Except.ok.inj hd')

/-- From any reachable state without a bulk half pending an abort recovers exactly if what is
buffered and the ten bytes of the `Abort` begin with an `Abort` for the slot and the sequence: if
nothing is buffered, or the beginning of just such a message. -/
theorem recovered_iff_begins_with_abort {reader : ρ} {t : CcidTransport (CcidBridge ρ)}
    (ht : (transportMachine _).Reachable (fun d => d.output.Returns) (.new (.new reader)) t)
    (hb : t.bulkAbort = none) (seq r₀ r₁ r₂ : UInt8) :
    (t.afterAbort seq r₀ r₁ r₂).Recovered seq ↔
      BeginsWithAbort (t.pendingOutBuffer ++ abortBytes seq r₀ r₁ r₂) seq := by
  obtain ⟨e, buffer, rfl, hw⟩ := reachable_waits ht
  have hbuf : (assemble e buffer).pendingOutBuffer = buffer := rfl
  have hlen : (abortBytes seq r₀ r₁ r₂).length = 10 := rfl
  rw [afterAbort_assemble hb, hbuf, beginsWithAbort_iff hw hlen]
  exact recovered_iff_first_message rfl hw hlen

/-- One byte of an unfinished message takes the place of the message type of the `Abort`. -/
theorem abort_lost_in_unfinished_message :
    ¬ ∀ t : CcidTransport (CcidBridge DummyReader),
      (transportMachine _).Reachable (fun d => d.output.Returns)
        (.new (.new DummyReader.opened)) t →
      t.bulkAbort = none → ∀ seq, (t.afterAbort seq 0 0 0).Recovered seq := by
  intro hall
  let M := transportMachine (CcidBridge DummyReader)
  have hrun := M.run_of_inputs (.new (.new DummyReader.opened)) [.bulkOut [pcToRdrXfrBlock]]
  have hrec := hall _ ⟨_, hrun, by simp [Machine.history, Machine.event]; trivial⟩ rfl 7
  have hpending : ((M.final (.new (.new DummyReader.opened))
      [.bulkOut [pcToRdrXfrBlock]]).afterAbort 7 0 0 0).controlAbort = some (0, 7) := rfl
  exact not_recovered_of_expected hpending hrec

/-- The buffer holds the front of an `Abort` of the same number, which the new one completes. -/
theorem recovered_from_begun_abort :
    let t := (transportMachine (CcidBridge DummyReader)).final (.new (.new DummyReader.opened))
      [.bulkOut [0x72, 0, 0, 0, 0, 0, 7]]
    t.pendingOutBuffer = [0x72, 0, 0, 0, 0, 0, 7] ∧ (t.afterAbort 7 0 0 0).Recovered 7 := by
  intro t
  have hrun := (transportMachine (CcidBridge DummyReader)).run_of_inputs
    (.new (.new DummyReader.opened)) [.bulkOut [0x72, 0, 0, 0, 0, 0, 7]]
  have hbuffer : t.pendingOutBuffer = [0x72, 0, 0, 0, 0, 0, 7] := rfl
  have hbegins : BeginsWithAbort (t.pendingOutBuffer ++ abortBytes 7 0 0 0) 7 :=
    ⟨rfl, rfl, rfl, by decide, by decide⟩
  exact ⟨hbuffer, (recovered_iff_begins_with_abort (t := t) ⟨_, hrun, by decide⟩ rfl 7 0 0 0).mpr
    hbegins⟩

end CcidTransport
end VirtualCcid.Ccid
