import VirtualCcid.Ccid.Delivery

/-! Slot change notifications: the transport follows the presence of the card on every path, and
its interrupt frames tell each change once. -/
namespace VirtualCcid.Ccid
open Rust Nfc Runs

def presenceBit (frame : List UInt8) : Bool := frame[1]?.any fun bits => bits &&& 0b01 ≠ 0

def changeBit (frame : List UInt8) : Bool := frame[1]?.any fun bits => bits &&& 0b10 ≠ 0

/-- The frame that an interrupt transfer returns, unless it is empty. -/
def told (bytes : List UInt8) : List (List UInt8) := if bytes = [] then [] else [bytes]

/-- The presence last told, or `previous` if there is no frame. -/
def lastPresence (previous : Bool) (frames : List (List UInt8)) : Bool :=
  (frames.getLast?.map presenceBit).getD previous

/-- Each frame has its change bit set exactly if its presence differs from that before it. -/
def ChangesMarked (previous : Bool) : List (List UInt8) → Prop
  | [] => True
  | frame :: frames =>
    (changeBit frame = true ↔ presenceBit frame ≠ previous) ∧
      ChangesMarked (presenceBit frame) frames

theorem presenceBit_notification (before present : Bool) :
    presenceBit (notification before present) = present := by
  cases before <;> cases present <;> rfl

theorem changeBit_notification (before present : Bool) :
    changeBit (notification before present) = true ↔ present ≠ before := by
  cases before <;> cases present <;> decide

theorem lastPresence_append (previous : Bool) (frames : List (List UInt8)) (frame : List UInt8) :
    lastPresence previous (frames ++ [frame]) = presenceBit frame := by
  simp [lastPresence]

theorem lastPresence_cons (previous : Bool) (frame : List UInt8) (frames : List (List UInt8)) :
    lastPresence previous (frame :: frames) = lastPresence (presenceBit frame) frames := by
  cases frames with
  | nil => rfl
  | cons next frames => simp [lastPresence, List.getLast?_cons]

theorem changesMarked_append (previous : Bool) (frames : List (List UInt8)) (frame : List UInt8) :
    ChangesMarked previous (frames ++ [frame]) ↔ ChangesMarked previous frames ∧
      (changeBit frame = true ↔ presenceBit frame ≠ lastPresence previous frames) := by
  induction frames generalizing previous with
  | nil => simp [ChangesMarked, lastPresence]
  | cons first frames ih =>
    rw [List.cons_append, ChangesMarked, ih, ChangesMarked, lastPresence_cons, and_assoc]

variable {ρ : Type*}

/-- The frames queued ever tell the presence of the card as it was at each of them, and the
transport knows the last one, which is that of the bridge. -/
structure Notified (frames : List (List UInt8)) (bridge : Mutex (CcidBridge ρ))
    (slotPresent : Bool) : Prop where
  unpoisoned : bridge.poisoned = false
  present : slotPresent = bridge.value.cardPresent
  last : lastPresence false frames = slotPresent
  marked : ChangesMarked false frames
  frames_ne_nil : ∀ frame ∈ frames, frame ≠ []

theorem Notified.notify {frames : List (List UInt8)} {bridge : Mutex (CcidBridge ρ)}
    {slotPresent : Bool} (h : Notified frames bridge slotPresent) (b : CcidBridge ρ) :
    Notified (frames ++ [notification slotPresent b.cardPresent]) (.new b) b.cardPresent where
  unpoisoned := rfl
  present := rfl
  last := by rw [lastPresence_append, presenceBit_notification]
  marked := by
    rw [changesMarked_append, changeBit_notification, presenceBit_notification, h.last]
    exact ⟨h.marked, Iff.rfl⟩
  frames_ne_nil frame hf := by
    rcases List.mem_append.mp hf with hf | hf
    · exact h.frames_ne_nil frame hf
    · obtain rfl := List.mem_singleton.mp hf
      simp [notification]

variable [NfcReader ρ]

namespace CcidTransport

/-- The notifications that a transport has queued behind those returned before. -/
def Notifies (returned : List (List UInt8)) (t : CcidTransport (CcidBridge ρ)) : Prop :=
  Notified (returned ++ t.pendingInterruptFrames) t.bridge t.slotPresent

variable {returned : List (List UInt8)} {t : CcidTransport (CcidBridge ρ)}

omit [NfcReader ρ] in
theorem enqueueResponse_notifies (h : t.Notifies returned) (b : CcidBridge ρ)
    (response : CcidResponse) :
    ({ t with bridge := .new b }.enqueueResponse response b.cardPresent).Notifies returned := by
  obtain ⟨nextFrameLen, state, heq⟩ :=
    enqueueResponse_eq { t with bridge := .new b } response b.cardPresent
  rw [heq, Notifies, ← List.append_assoc]
  exact h.notify b

theorem executeLocked_notifies (h : t.Notifies returned) (command : CcidCommand)
    (hr : (TransportReply.bulkOut (t.executeLocked command).1).Returns) :
    (t.executeLocked command).2.Notifies returned := by
  have hlock := Mutex.lock_eq_ok h.unpoisoned
  obtain ⟨result, bridge, hcommand⟩ : ∃ result bridge,
    BridgeOps.handleCommand t.bridge.value command = (result, bridge) := ⟨_, _, rfl⟩
  cases result with
  | error panic =>
    rw [executeLocked_panic hlock hcommand] at hr
    exact hr.elim
  | ok response =>
    rw [executeLocked_ok hlock hcommand]
    exact enqueueResponse_notifies h bridge response

theorem finishAbort_notifies (h : t.Notifies returned) (slot seq : UInt8)
    (hr : (TransportReply.bulkOut (t.finishAbort slot seq).1).Returns) :
    (t.finishAbort slot seq).2.Notifies returned :=
  executeLocked_notifies (t := { t with
    bulkAbort := none, controlAbort := none, pendingOutBuffer := [], nextFrameLen := none
    pendingInFrames := [] }) h (.abort slot seq) hr

theorem queueAbortedResponse_notifies (h : t.Notifies returned) (command : CcidCommand) :
    (t.queueAbortedResponse command).2.Notifies returned := by
  have hlock := Mutex.lock_eq_ok h.unpoisoned
  have hq := enqueueResponse_notifies h t.bridge.value (.slotStatus command.slot command.seq
    ⟨BridgeOps.currentIccStatus t.bridge.value, .failed⟩ cmdAbortedError 0)
  rw [Mutex.new_value h.unpoisoned] at hq
  unfold queueAbortedResponse
  rw [hlock]
  exact hq

theorem handleFrame_notifies (h : t.Notifies returned) (frame : List UInt8)
    (hr : (TransportReply.bulkOut (t.handleFrame frame).1).Returns) :
    (t.handleFrame frame).2.Notifies returned := by
  unfold handleFrame at hr ⊢
  cases hd : CcidCommand.decode frame with
  | error error => exact h
  | ok command =>
    rw [hd] at hr
    dsimp only at hr ⊢
    cases hc : t.controlAbort with
    | some abort =>
      obtain ⟨slot, seq⟩ := abort
      rw [hc] at hr
      dsimp only at hr ⊢
      by_cases hcommand : command = .abort slot seq
      · rw [if_pos hcommand] at hr ⊢
        exact finishAbort_notifies h slot seq hr
      · rw [if_neg hcommand]
        exact queueAbortedResponse_notifies h command
    | none =>
      have hexecute := executeLocked_notifies (t := { t with bulkAbort := none }) h command
      rw [hc] at hr hexecute
      cases command with
      | abort slot seq => exact h
      | _ => exact hexecute hr

theorem handleBulkOut_notifies (h : t.Notifies returned) (payload : List UInt8)
    (hr : (TransportReply.bulkOut (t.handleBulkOut payload).1).Returns) :
    (t.handleBulkOut payload).2.Notifies returned :=
  handleBulkOut_invariant (P := fun _ t => t.Notifies returned) (fun _ _ _ _ _ h => h)
    (fun _ _ frame h hr => handleFrame_notifies h frame hr) [] h payload hr

theorem expectAbort_notifies (h : t.Notifies returned) (slot seq : UInt8)
    (hr : (TransportReply.bulkOut (t.expectAbort slot seq).1).Returns) :
    (t.expectAbort slot seq).2.Notifies returned := by
  have hfinish := finishAbort_notifies h slot seq
  unfold expectAbort at hr ⊢
  by_cases hslot : slot ≠ 0
  · rw [if_pos hslot]
    exact h
  rw [if_neg hslot] at hr ⊢
  by_cases hbulk : t.bulkAbort = some seq
  · rw [if_pos hbulk] at hr ⊢
    split at hr
    · next heq =>
      rw [heq] at hfinish
      exact hfinish trivial
    · exact hfinish hr
  · rw [if_neg hbulk]
    exact h

theorem handleControlRequest_notifies (h : t.Notifies returned) (requestType request : UInt8)
    (value : UInt16)
    (hr : (TransportReply.controlRequest
      (t.handleControlRequest requestType request value).1).Returns) :
    (t.handleControlRequest requestType request value).2.Notifies returned := by
  by_cases habort : requestType = 0x21 ∧ request = ccidAbort
  · obtain ⟨rfl, rfl⟩ := habort
    rw [handleControlRequest_abort] at hr ⊢
    apply expectAbort_notifies h _ _
    cases hx : (t.expectAbort (u16ToLeBytes value).1 (u16ToLeBytes value).2).1 with
    | ok => trivial
    | error fault =>
      rw [hx] at hr
      cases fault with
      | error => trivial
      | panic | diverge => exact hr.elim
  · rwa [handleControlRequest_other t habort]

omit [NfcReader ρ] in
theorem handleBulkIn_notifies (h : t.Notifies returned) (maxLen : ℕ) :
    (t.handleBulkIn maxLen).2.Notifies returned := by
  obtain ⟨pendingInFrames, nextFrameLen, state, heq⟩ := t.handleBulkIn_eq maxLen
  rw [heq]
  exact h

omit [NfcReader ρ] in
theorem popInterruptFrame_notifies (h : t.Notifies returned) :
    t.popInterruptFrame.2.Notifies (returned ++ told t.popInterruptFrame.1) := by
  unfold popInterruptFrame Notifies
  cases hq : t.pendingInterruptFrames with
  | nil => simpa [told, Notifies, hq] using h
  | cons frame frames =>
    have hne : frame ≠ [] := h.frames_ne_nil frame (by simp [hq])
    simpa [told, hne, Notifies, hq] using h

theorem handleInterruptIn_notifies (h : t.Notifies returned) :
    t.handleInterruptIn.2.Notifies (returned ++ told t.handleInterruptIn.1) := by
  have hlock := Mutex.lock_eq_ok h.unpoisoned
  obtain ⟨result, bridge, hrefresh⟩ : ∃ result bridge,
    BridgeOps.refreshCardPresence t.bridge.value = (result, bridge) := ⟨_, _, rfl⟩
  unfold handleInterruptIn
  rw [hlock]
  dsimp only
  rw [hrefresh]
  cases result with
  | ok present =>
    apply popInterruptFrame_notifies
    rw [updateSlotPresence_eq, Notifies, ← List.append_assoc, ← CcidBridge.refreshCardPresence_ok hrefresh]
    exact h.notify bridge
  | error error =>
    -- A refresh that fails leaves the card as it was.
    obtain ⟨_, _, rfl⟩ := CcidBridge.refreshCardPresence_error hrefresh
    exact popInterruptFrame_notifies ⟨rfl, h.present, h.last, h.marked, h.frames_ne_nil⟩

end CcidTransport

def notifications (h : List (TransportEvent ρ)) : List (List UInt8) :=
  h.flatMap fun e =>
    match e.output with
    | .interruptIn bytes => told bytes
    | _ => []

theorem step_notifies {returned : List (List UInt8)} {t : CcidTransport (CcidBridge ρ)}
    (h : t.Notifies returned) (op : TransportOp)
    (hr : ((transportMachine (CcidBridge ρ)).event t op).output.Returns) :
    CcidTransport.Notifies
      (returned ++ notifications [(transportMachine (CcidBridge ρ)).event t op])
      ((transportMachine (CcidBridge ρ)).event t op).after := by
  cases op with
  | controlRequest requestType request value =>
    simpa [notifications, Machine.event, transportMachine] using
      CcidTransport.handleControlRequest_notifies h requestType request value hr
  | bulkOut payload =>
    simpa [notifications, Machine.event, transportMachine] using
      CcidTransport.handleBulkOut_notifies h payload hr
  | bulkIn maxLen =>
    simpa [notifications, Machine.event, transportMachine] using
      CcidTransport.handleBulkIn_notifies h maxLen
  | interruptIn =>
    simpa [notifications, Machine.event, transportMachine] using
      CcidTransport.handleInterruptIn_notifies h

/-- No slot change is lost or invented: the transport knows the presence of the card after every
operation, the last notification tells it, and exactly the changes are marked as such. -/
theorem slot_changes_notified (reader : ρ) {h : List (TransportEvent ρ)}
    {t : CcidTransport (CcidBridge ρ)}
    (hr : Run (transportMachine (CcidBridge ρ)) (.new (.new reader)) h t)
    (hreturns : ∀ e ∈ h, e.output.Returns) :
    t.slotPresent = t.bridge.value.cardPresent ∧
      lastPresence false (notifications h ++ t.pendingInterruptFrames) = t.slotPresent ∧
      ChangesMarked false (notifications h ++ t.pendingInterruptFrames) := by
  have hf : t.Notifies (notifications h) := by
    refine hr.invariant (P := fun h t => t.Notifies (notifications h)) ?_ ?_ hreturns
    · exact ⟨rfl, rfl, rfl, trivial, by simp [notifications, CcidTransport.new]⟩
    · intro h t op hf hreturns
      have happend : notifications (h ++ [(transportMachine (CcidBridge ρ)).event t op]) =
        notifications h ++ notifications [(transportMachine (CcidBridge ρ)).event t op] := by
          simp [notifications]
      rw [happend]
      exact step_notifies hf op hreturns
  exact ⟨hf.present, hf.last, hf.marked⟩

/-- A card comes, is reported, and is lost in an exchange. -/
def vanishingCard : FakeReader where
  pollResults := [.ok none, .ok (some ⟨[1, 2, 3, 4], .isoDep, []⟩)]
  powerOffResults := []
  exchangeResults := [.error (.targetLost "gone")]

theorem slot_changes_notified_of_vanishing :
    let inputs := [.interruptIn, .bulkOut powerOnBytes, .interruptIn,
      .bulkOut [pcToRdrXfrBlock, 4, 0, 0, 0, 0, 1, 0, 0, 0, 0x00, 0xb0, 0x00, 0x00]]
    let h := (transportMachine (CcidBridge FakeReader)).history (.new (.new vanishingCard)) inputs
    let t := (transportMachine (CcidBridge FakeReader)).final (.new (.new vanishingCard)) inputs
    (notifications h ++ t.pendingInterruptFrames = [[0x50, 0], [0x50, 3], [0x50, 1], [0x50, 2]] ∧
      t.slotPresent = false) ∧
    t.slotPresent = t.bridge.value.cardPresent ∧
      lastPresence false (notifications h ++ t.pendingInterruptFrames) = t.slotPresent ∧
      ChangesMarked false (notifications h ++ t.pendingInterruptFrames) := by
  intro inputs h t
  have hreturns : ∀ e ∈ h, e.output.Returns := by
    simp only [h, inputs, Machine.history, List.forall_mem_cons]
    exact ⟨trivial, trivial, trivial, trivial, by simp⟩
  exact ⟨by decide, slot_changes_notified vanishingCard (Machine.run_of_inputs _ _ _) hreturns⟩

end VirtualCcid.Ccid
