import VirtualCcid.Ccid.Delivery
import VirtualCcid.Ccid.Packets
import VirtualCcid.Nfc.Dummy
import VirtualCcid.Runs.Monitor

/-! Frames read in parts: the rest of a frame that the host has begun to read stays at the front
of the queue, unless a response finds the queue full. -/
namespace VirtualCcid.Ccid
open Rust Nfc Runs

/-- What a reader of bulk IN can know: the rest of the frame it has begun to read, and the frames
of the responses so far. -/
structure HostView where
  owed : Option (List UInt8)
  responses : List (List UInt8)

variable {ρ : Type*}

def HostView.heard (v : HostView) (xs : List (CcidTransport.Exchange (CcidBridge ρ))) : HostView :=
  { v with responses := v.responses ++ xs.map fun x => x.response.encode }

theorem HostView.heard_nil (v : HostView) :
    v.heard ([] : List (CcidTransport.Exchange (CcidBridge ρ))) = v := by
  simp [heard]

theorem HostView.heard_append (v : HostView)
    (xs ys : List (CcidTransport.Exchange (CcidBridge ρ))) :
    v.heard (xs ++ ys) = (v.heard xs).heard ys := by
  simp [heard]

namespace CcidTransport

/-- The queue is what is owed of a frame and whole responses behind it. -/
structure Serves (v : HostView) (t : CcidTransport (CcidBridge ρ)) : Prop where
  unpoisoned : t.bridge.poisoned = false
  noAbort : t.controlAbort = none
  queue : ∃ frames, t.pendingInFrames = v.owed.toList ++ frames ∧
    ∀ frame ∈ frames, frame ∈ v.responses

/-- A response that finds room in the queue, or is dropped as a duplicate. -/
def Exchange.Fits (x : Exchange (CcidBridge ρ)) : Prop :=
  x.before.pendingInFrames.length < maxPendingInFrames ∨
    x.before.pendingInFrames.getLast? = some x.response.encode

instance (x : Exchange (CcidBridge ρ)) : Decidable x.Fits :=
  inferInstanceAs (Decidable (_ ∨ _))

end CcidTransport

/-- A frame goes behind what is owed, which only a full queue is dropped with. -/
theorem enqueue_behind {owed : Option (List UInt8)} {frames : List (List UInt8)}
    (frame : List UInt8)
    (hf : owed.isSome = true → (owed.toList ++ frames).length < maxPendingInFrames ∨
      (owed.toList ++ frames).getLast? = some frame) :
    ∃ frames', enqueue (owed.toList ++ frames) frame = owed.toList ++ frames' ∧
      ∀ f ∈ frames', f ∈ frames ∨ f = frame := by
  unfold enqueue
  by_cases hback : (owed.toList ++ frames).getLast? = some frame
  · rw [if_pos hback]
    exact ⟨frames, rfl, fun f hf => .inl hf⟩
  rw [if_neg hback]
  by_cases hlen : (owed.toList ++ frames).length ≥ maxPendingInFrames
  · rw [if_pos hlen]
    cases owed with
    | none => exact ⟨[frame], rfl, fun f hf => .inr (List.mem_singleton.mp hf)⟩
    | some rest =>
      have hroom := (hf rfl).resolve_right hback
      omega
  · rw [if_neg hlen]
    refine ⟨frames ++ [frame], by rw [List.append_assoc], fun f hf => ?_⟩
    simpa using hf

namespace CcidTransport

theorem handleBulkIn_serves {v v' : HostView} {t : CcidTransport (CcidBridge ρ)}
    (hs : t.Serves v) {maxLen : ℕ} {frames : List (List UInt8)}
    (hq : (t.handleBulkIn maxLen).2.pendingInFrames = v'.owed.toList ++ frames)
    (hwhole : ∀ frame ∈ frames, frame ∈ v'.responses) : (t.handleBulkIn maxLen).2.Serves v' := by
  obtain ⟨pendingInFrames, nextFrameLen, state, heq⟩ := t.handleBulkIn_eq maxLen
  refine ⟨?_, ?_, frames, hq, hwhole⟩
  · rw [heq]
    exact hs.unpoisoned
  · rw [heq]
    exact hs.noAbort

variable [NfcReader ρ] {v : HostView} {t : CcidTransport (CcidBridge ρ)}

/-- A command that is no `Abort`, whose response fits if part of a frame is owed. -/
def Harmless (v : HostView) (x : Exchange (CcidBridge ρ)) : Prop :=
  x.command.isAbort = false ∧ (v.owed.isSome = true → x.Fits)

theorem handleFrame_serves {frame : List UInt8} (hs : t.Serves v)
    (hr : (TransportReply.bulkOut (t.handleFrame frame).1).Returns)
    (hx : ∀ x ∈ t.exchange? frame, Harmless v x) :
    (t.handleFrame frame).2.Serves (v.heard (t.exchange? frame).toList) := by
  rcases handleFrame_exchange hs.unpoisoned hs.noAbort hr (fun x h => (hx x h).1) with
    ⟨hnone, heq⟩ | ⟨command, response, bridge, hexchange, _, heq⟩
  · rw [hnone, heq, Option.toList_none, HostView.heard_nil]
    exact hs
  obtain ⟨nextFrameLen, state, hafter⟩ := enqueueResponse_eq
    { t with bulkAbort := none, bridge := .new bridge } response bridge.cardPresent
  obtain ⟨frames, hq, hwhole⟩ := hs.queue
  have hfits : v.owed.isSome = true → t.pendingInFrames.length < maxPendingInFrames ∨
    t.pendingInFrames.getLast? = some response.encode := (hx _ hexchange).2
  rw [hq] at hfits
  obtain ⟨frames', hqueue, hframes⟩ := enqueue_behind response.encode hfits
  rw [hexchange, heq, hafter, Option.toList_some]
  refine ⟨rfl, hs.noAbort, frames', ?_, ?_⟩
  · show enqueue t.pendingInFrames response.encode = v.owed.toList ++ frames'
    rw [hq]
    exact hqueue
  · intro f hf
    show f ∈ v.responses ++ [response.encode]
    rcases hframes f hf with hold | rfl
    · exact List.mem_append_left _ (hwhole f hold)
    · simp

theorem handleBulkOut_serves {payload : List UInt8} (hs : t.Serves v)
    (hr : (TransportReply.bulkOut (t.handleBulkOut payload).1).Returns)
    (hx : ∀ x ∈ t.exchanges payload, Harmless v x) :
    (t.handleBulkOut payload).2.Serves (v.heard (t.exchanges payload)) := by
  have hstart : t.Serves (v.heard ([] : List (Exchange (CcidBridge ρ)))) := by
    rw [HostView.heard_nil]
    exact hs
  refine handleBulkOut_invariant
    (P := fun xs t => (∀ x ∈ xs, Harmless v x) → t.Serves (v.heard xs)) ?_ ?_ [] (fun _ => hstart)
      payload hr hx
  · intro xs t pendingOutBuffer nextFrameLen state hs hx
    have hs := hs hx
    exact ⟨hs.unpoisoned, hs.noAbort, hs.queue⟩
  · intro xs t frame hs hr hx
    rw [HostView.heard_append]
    refine handleFrame_serves (hs fun x h => hx x (by simp [h])) hr fun x h => ?_
    have hharmless : Harmless v x := hx x (by simp [Option.mem_toList.mpr h])
    exact hharmless

end CcidTransport

def TransportOp.isAbortRequest : TransportOp → Bool
  | .controlRequest requestType request _ => requestType = 0x21 ∧ request = ccidAbort
  | _ => false

variable [NfcReader ρ]

/-- A read goes on with the frame that was begun, or begins the one at the front of the queue. -/
def viewAfter (v : HostView) (e : TransportEvent ρ) : HostView :=
  match e.input with
  | .bulkIn maxLen =>
    { v with owed := (v.owed.or e.before.pendingInFrames.head?).bind (remainder · maxLen) }
  | _ => v.heard (exchanges [e])

/-- While part of a frame is owed every read returns of this part. Any other read begins a whole
response. -/
def unbrokenFrames : Monitor (TransportEvent ρ) HostView where
  start := ⟨none, []⟩
  next := viewAfter
  permits v e := ∀ maxLen, e.input = .bulkIn maxLen →
    match v.owed with
    | some rest => e.output = .bulkIn (rest.take maxLen)
    | none => ∀ frame ∈ e.before.pendingInFrames.head?,
      frame ∈ v.responses ∧ e.output = .bulkIn (frame.take maxLen)

/-- While part of a frame is owed no response finds the queue full. -/
def roomWhileOwed : Monitor (TransportEvent ρ) HostView where
  start := ⟨none, []⟩
  next := viewAfter
  permits v e := v.owed.isSome = true → ∀ x ∈ exchanges [e], x.Fits

instance (v : HostView) (e : TransportEvent ρ) : Decidable (roomWhileOwed.permits v e) :=
  inferInstanceAs (Decidable (v.owed.isSome = true → ∀ x ∈ exchanges [e], x.Fits))

theorem bulkIn_unbroken {v : HostView} {t : CcidTransport (CcidBridge ρ)} (hs : t.Serves v)
    (maxLen : ℕ) :
    unbrokenFrames.permits v ((transportMachine (CcidBridge ρ)).event t (.bulkIn maxLen)) ∧
      (t.handleBulkIn maxLen).2.Serves
        (viewAfter v ((transportMachine (CcidBridge ρ)).event t (.bulkIn maxLen))) := by
  obtain ⟨frames, hq, hwhole⟩ := hs.queue
  have hafter : viewAfter v ((transportMachine (CcidBridge ρ)).event t (.bulkIn maxLen)) =
    { v with owed := (v.owed.or t.pendingInFrames.head?).bind (remainder · maxLen) } := rfl
  obtain ⟨owed, responses⟩ := v
  rw [hafter]
  cases owed with
  | some rest =>
    obtain ⟨hreply, hqueue⟩ := CcidTransport.handleBulkIn_cons hq maxLen
    refine ⟨?_, CcidTransport.handleBulkIn_serves hs hqueue hwhole⟩
    rintro _ ⟨rfl⟩
    exact congrArg TransportReply.bulkIn hreply
  | none =>
    have hq : t.pendingInFrames = frames := hq
    rw [hq]
    cases frames with
    | nil =>
      have hqueue : (t.handleBulkIn maxLen).2.pendingInFrames =
        (none : Option (List UInt8)).toList ++ [] := (CcidTransport.handleBulkIn_nil hq maxLen).2
      refine ⟨?_, CcidTransport.handleBulkIn_serves hs hqueue hwhole⟩
      rintro _ ⟨rfl⟩ frame hframe
      have hhead : t.pendingInFrames.head? = some frame := hframe
      rw [hq] at hhead
      cases hhead
    | cons first frames =>
      obtain ⟨hreply, hqueue⟩ := CcidTransport.handleBulkIn_cons hq maxLen
      refine ⟨?_, CcidTransport.handleBulkIn_serves hs hqueue fun f hf => hwhole f (by simp [hf])⟩
      rintro _ ⟨rfl⟩ frame hframe
      have hhead : t.pendingInFrames.head? = some frame := hframe
      rw [hq] at hhead
      obtain rfl := Option.some.inj hhead
      exact ⟨hwhole first (by simp), congrArg TransportReply.bulkIn hreply⟩

theorem step_unbroken {v : HostView} {t : CcidTransport (CcidBridge ρ)} (hs : t.Serves v)
    {op : TransportOp} (hop : op.isAbortRequest = false)
    (hr : ((transportMachine (CcidBridge ρ)).event t op).output.Returns)
    (hx : ∀ x ∈ exchanges [(transportMachine (CcidBridge ρ)).event t op],
      x.command.isAbort = false)
    (hroom : roomWhileOwed.permits v ((transportMachine (CcidBridge ρ)).event t op)) :
    unbrokenFrames.permits v ((transportMachine (CcidBridge ρ)).event t op) ∧
      ((transportMachine (CcidBridge ρ)).event t op).after.Serves
        (viewAfter v ((transportMachine (CcidBridge ρ)).event t op)) := by
  cases op with
  | controlRequest requestType request value =>
    refine ⟨by rintro _ ⟨⟩, ?_⟩
    have hother : ¬ (requestType = 0x21 ∧ request = ccidAbort) := by
      simpa [TransportOp.isAbortRequest] using hop
    have hafter : ((transportMachine (CcidBridge ρ)).event t
        (.controlRequest requestType request value)).after = t :=
      CcidTransport.handleControlRequest_other t hother value
    have hview : viewAfter v ((transportMachine (CcidBridge ρ)).event t
      (.controlRequest requestType request value)) = v := v.heard_nil
    rw [hafter, hview]
    exact hs
  | bulkOut payload =>
    refine ⟨by rintro _ ⟨⟩, ?_⟩
    have hroom : v.owed.isSome = true →
      ∀ x ∈ exchanges [(transportMachine (CcidBridge ρ)).event t (.bulkOut payload)], x.Fits := hroom
    have hview : viewAfter v ((transportMachine (CcidBridge ρ)).event t (.bulkOut payload)) =
      v.heard (exchanges [(transportMachine (CcidBridge ρ)).event t (.bulkOut payload)]) := rfl
    rw [exchanges_bulkOut] at hx hroom hview
    rw [hview]
    exact CcidTransport.handleBulkOut_serves hs hr fun x h => ⟨hx x h, fun howed => hroom howed x h⟩
  | bulkIn maxLen => exact bulkIn_unbroken hs maxLen
  | interruptIn =>
    refine ⟨by rintro _ ⟨⟩, ?_⟩
    obtain ⟨bridge, pendingInterruptFrames, slotPresent, hu, heq⟩ :=
      t.handleInterruptIn_eq hs.unpoisoned
    have hafter : ((transportMachine (CcidBridge ρ)).event t .interruptIn).after =
      { t with bridge, pendingInterruptFrames, slotPresent } := heq
    have hview : viewAfter v ((transportMachine (CcidBridge ρ)).event t .interruptIn) = v :=
      v.heard_nil
    rw [hafter, hview]
    exact ⟨hu, hs.noAbort, hs.queue⟩

/-- In a run without aborts frames are not torn, whatever the host sends between two reads and
however short these are, if no response finds the queue full while part of a frame is owed. -/
theorem frames_unbroken {reader : ρ} {h : List (TransportEvent ρ)}
    {t : CcidTransport (CcidBridge ρ)}
    (hr : Run (transportMachine (CcidBridge ρ)) (.new (.new reader)) h t)
    (hreturns : ∀ e ∈ h, e.output.Returns) (hops : ∀ e ∈ h, e.input.isAbortRequest = false)
    (hcommands : ∀ x ∈ exchanges h, x.command.isAbort = false)
    (hroom : roomWhileOwed.Accepts ⟨none, []⟩ h) : unbrokenFrames.Accepts ⟨none, []⟩ h := by
  refine (hr.invariant (A := fun e => e.output.Returns ∧ e.input.isAbortRequest = false)
    (P := fun h t => (∀ x ∈ exchanges h, x.command.isAbort = false) →
      roomWhileOwed.Accepts ⟨none, []⟩ h → unbrokenFrames.Accepts ⟨none, []⟩ h ∧
        t.Serves (unbrokenFrames.after ⟨none, []⟩ h)) ?_ ?_ (fun e he => ⟨hreturns e he, hops e he⟩)
          hcommands hroom).1
  · intro _ _
    exact ⟨trivial, rfl, rfl, [], rfl, by simp⟩
  · intro h t op hp hadm hcommands hroom
    rw [exchanges_append] at hcommands
    rw [Monitor.accepts_append] at hroom
    obtain ⟨hunbroken, hserves⟩ := hp (fun x hx => hcommands x (by simp [hx])) hroom.1
    have hop : op.isAbortRequest = false := hadm.2
    have hstep : ∀ x ∈ exchanges [(transportMachine (CcidBridge ρ)).event t op],
      x.command.isAbort = false := fun x hx => hcommands x (by simp [hx])
    obtain ⟨hpermits, hserves'⟩ := step_unbroken hserves hop hadm.1 hstep hroom.2.1
    rw [Monitor.accepts_append, Monitor.after_append]
    exact ⟨⟨hunbroken, hpermits, trivial⟩, hserves'⟩

def statusRequests (n : ℕ) : List UInt8 :=
  (List.range n).flatMap fun i => [pcToRdrGetSlotStatus, 0, 0, 0, 0, 0, UInt8.ofNat i, 0, 0, 0]

theorem reply_of_unbroken {s : CcidTransport (CcidBridge ρ)} {ops : List TransportOp} {maxLen : ℕ}
    (h : unbrokenFrames.Accepts ⟨none, []⟩
      ((transportMachine (CcidBridge ρ)).history s (ops ++ [.bulkIn maxLen])))
    {rest : List UInt8}
    (howed : (unbrokenFrames.after ⟨none, []⟩
      ((transportMachine (CcidBridge ρ)).history s ops)).owed = some rest) :
    (((transportMachine (CcidBridge ρ)).final s ops).handleBulkIn maxLen).1 = rest.take maxLen := by
  rw [Machine.history_append, Monitor.accepts_append] at h
  have hread := h.2.1 maxLen rfl
  rw [howed] at hread
  exact TransportReply.bulkIn.inj hread

/-- Half of the first response is read before 33 more are queued. -/
def halfRead : List TransportOp :=
  [.bulkOut (statusRequests 1), .bulkIn 5, .bulkOut (statusRequests 33)]

theorem frame_torn_by_full_queue :
    ¬ ∀ h (t : CcidTransport (CcidBridge DummyReader)),
      Run (transportMachine _) (.new (.new DummyReader.opened)) h t →
      (∀ e ∈ h, e.output.Returns) → (∀ e ∈ h, e.input.isAbortRequest = false) →
      (∀ x ∈ exchanges h, x.command.isAbort = false) →
      unbrokenFrames.Accepts ⟨none, []⟩ h := by
  intro hall
  have hrun := (transportMachine (CcidBridge DummyReader)).run_of_inputs
    (.new (.new DummyReader.opened)) (halfRead ++ [.bulkIn 5])
  have hunbroken := hall _ _ hrun (by decide +kernel) (by decide +kernel) (by decide +kernel)
  have howed : (unbrokenFrames.after ⟨none, []⟩ ((transportMachine (CcidBridge DummyReader)).history
      (.new (.new DummyReader.opened)) halfRead)).owed =
        some [0x00, 0x00, 0x00, 0x00, 0x00] := by decide +kernel
  have hread := reply_of_unbroken hunbroken howed
  exact absurd hread (by decide +kernel)

/-- The responses to three more requests wait behind the other half of the first. -/
theorem frames_unbroken_behind_half :
    unbrokenFrames.Accepts ⟨none, []⟩ ((transportMachine (CcidBridge DummyReader)).history
      (.new (.new DummyReader.opened)) [.bulkOut (statusRequests 1), .bulkIn 5,
        .bulkOut (statusRequests 3), .bulkIn 3, .interruptIn, .bulkIn 64]) := by
  have hrun := (transportMachine (CcidBridge DummyReader)).run_of_inputs
    (.new (.new DummyReader.opened)) [.bulkOut (statusRequests 1), .bulkIn 5,
      .bulkOut (statusRequests 3), .bulkIn 3, .interruptIn, .bulkIn 64]
  exact frames_unbroken hrun (by decide +kernel) (by decide +kernel) (by decide +kernel)
    (by decide +kernel)

end VirtualCcid.Ccid
