import VirtualCcid.Ccid.Endpoint
import Mathlib.Data.List.Chain

/-! Delivery of the responses: what the host has read from bulk IN and what is still queued are
the responses of the bridge, but for those the duplicate filter drops. -/
namespace VirtualCcid.Ccid
open Rust Nfc Runs

section Lists
variable {α γ : Type*}

/-- Of two concatenations that agree piece by piece or where the first has the shorter piece, the
second is longer unless they agree throughout. -/
theorem flatMap_eq_iff {f g : α → List γ} {xs : List α}
    (h : ∀ x ∈ xs, f x = g x ∨ (f x).length < (g x).length) :
    xs.flatMap f = xs.flatMap g ↔ ∀ x ∈ xs, f x = g x := by
  have hle : ∀ xs : List α, (∀ x ∈ xs, f x = g x ∨ (f x).length < (g x).length) →
      (xs.flatMap f).length ≤ (xs.flatMap g).length := by
    intro xs h
    induction xs with
    | nil => simp
    | cons x xs ih =>
      have hxs := ih fun y hy => h y (by simp [hy])
      simp only [List.flatMap_cons, List.length_append]
      rcases h x (by simp) with hx | hx
      · rw [hx]
        omega
      · omega
  induction xs with
  | nil => simp
  | cons x xs ih =>
    have hxs : ∀ y ∈ xs, f y = g y ∨ (f y).length < (g y).length := fun y hy => h y (by simp [hy])
    rcases h x (by simp) with hx | hx
    · simp only [List.flatMap_cons, hx, List.append_cancel_left_eq, ih hxs]
      simp [hx]
    · refine iff_of_false (fun heq => ?_) fun hall => ?_
      · have hlen := congrArg List.length heq
        have := hle xs hxs
        simp only [List.flatMap_cons, List.length_append] at hlen
        omega
      · rw [hall x (by simp)] at hx
        exact Nat.lt_irrefl _ hx

end Lists

theorem enqueue_flatten {queue : List (List UInt8)} (h : queue.length < maxPendingInFrames)
    (frame : List UInt8) :
    (enqueue queue frame).flatten =
      queue.flatten ++ if queue.getLast? = some frame then [] else frame := by
  unfold enqueue
  split
  · simp
  · rw [if_neg (by omega)]
    simp

theorem enqueue_getLast? (queue : List (List UInt8)) (frame : List UInt8) :
    (enqueue queue frame).getLast? = some frame := by
  unfold enqueue
  split
  · assumption
  · simp

namespace CcidTransport
variable {β : Type*}

theorem handleBulkIn_queue (t : CcidTransport β) (maxLen : ℕ) :
    (t.handleBulkIn maxLen).1 ++ (t.handleBulkIn maxLen).2.pendingInFrames.flatten =
        t.pendingInFrames.flatten ∧
      (2 ≤ (t.handleBulkIn maxLen).2.pendingInFrames.length → 2 ≤ t.pendingInFrames.length ∧
        (t.handleBulkIn maxLen).2.pendingInFrames.getLast? = t.pendingInFrames.getLast?) := by
  have hu : ∀ t : CcidTransport β, t.updateState.pendingInFrames = t.pendingInFrames :=
    updateState_pendingInFrames
  unfold handleBulkIn
  match hq : t.pendingInFrames with
  | [] => simp [hu, hq]
  | frame :: frames =>
    have hlast : ∀ front : List UInt8, 2 ≤ (front :: frames).length →
        2 ≤ (frame :: frames).length ∧ (front :: frames).getLast? = (frame :: frames).getLast? := by
      intro front h
      have hne : frames ≠ [] := by
        rintro rfl
        simp at h
      exact ⟨h, by rw [List.getLast?_cons_of_ne_nil hne, List.getLast?_cons_of_ne_nil hne]⟩
    by_cases hle : frame.length ≤ maxLen
    · by_cases hm : maxLen ≠ 0 ∧ frame ≠ [] ∧ frame.length % maxLen = 0
      -- The marker in front of the queue adds no byte.
      · simp only [if_pos hle, if_pos hm, hu]
        exact ⟨by simp, hlast []⟩
      · simp only [if_pos hle, if_neg hm, hu]
        refine ⟨by simp, fun h => ?_⟩
        have hne : frames ≠ [] := by
          rintro rfl
          simp at h
        refine ⟨by simp only [List.length_cons]; omega, ?_⟩
        rw [List.getLast?_cons_of_ne_nil hne]
    · simp only [hle, if_false, hu]
      exact ⟨by simp [← List.append_assoc], hlast _⟩

theorem handleInterruptIn_eq [BridgeOps β] (t : CcidTransport β) (hu : t.bridge.poisoned = false) :
    ∃ bridge pendingInterruptFrames slotPresent, bridge.poisoned = false ∧
      t.handleInterruptIn.2 = { t with bridge, pendingInterruptFrames, slotPresent } := by
  have hlock := Mutex.lock_eq_ok hu
  unfold handleInterruptIn
  rw [hlock]
  dsimp only
  split
  · next present bridge _ =>
    rw [updateSlotPresence_eq]
    exact ⟨.new bridge, _, present, rfl, rfl⟩
  · next bridge _ => exact ⟨.new bridge, _, t.slotPresent, rfl, rfl⟩

end CcidTransport

namespace CcidTransport
variable {ρ : Type*}

/-- Commands that the filter and the limit of the queue are meant for: no `Abort`, room in the
queue at every response, and no sequence number twice in a row. -/
structure Orderly (xs : List (Exchange (CcidBridge ρ))) : Prop where
  noAbort : ∀ x ∈ xs, x.command.isAbort = false
  room : ∀ x ∈ xs, x.before.pendingInFrames.length < maxPendingInFrames
  seqs : xs.IsChain fun x y => x.command.seq ≠ y.command.seq

theorem Orderly.left {xs ys : List (Exchange (CcidBridge ρ))} (h : Orderly (xs ++ ys)) :
    Orderly xs where
  noAbort x hx := h.noAbort x (by simp [hx])
  room x hx := h.room x (by simp [hx])
  seqs := h.seqs.left_of_append

/-- What an exchange adds to the bytes for the host. -/
def Exchange.queued (x : Exchange (CcidBridge ρ)) : List UInt8 :=
  if x.before.pendingInFrames.getLast? = some x.response.encode then [] else x.response.encode

/-- The bytes read and queued are those the exchanges added. Behind the first queued frame, which
may have been read in part, the last one is the last response as a whole. -/
structure Delivers (received : List UInt8) (xs : List (Exchange (CcidBridge ρ)))
    (t : CcidTransport (CcidBridge ρ)) : Prop where
  unpoisoned : t.bridge.poisoned = false
  noAbort : t.controlAbort = none
  bytes : received ++ t.pendingInFrames.flatten = xs.flatMap Exchange.queued
  back : 2 ≤ t.pendingInFrames.length → ∃ x ∈ xs.getLast?,
    t.pendingInFrames.getLast? = some x.response.encode
  seqs : ∀ x ∈ xs, x.response.seq = x.command.seq
  dropped : ∀ x ∈ xs, x.before.pendingInFrames.getLast? = some x.response.encode →
    x.before.pendingInFrames = [x.response.encode]

variable [NfcReader ρ]

theorem handleFrame_exchange {t : CcidTransport (CcidBridge ρ)} (hu : t.bridge.poisoned = false)
    (hc : t.controlAbort = none) {frame : List UInt8}
    (hr : (TransportReply.bulkOut (t.handleFrame frame).1).Returns)
    (ha : ∀ x ∈ t.exchange? frame, x.command.isAbort = false) :
    (t.exchange? frame = none ∧ (t.handleFrame frame).2 = t) ∨
      ∃ command response bridge, t.exchange? frame = some ⟨t, command, response⟩ ∧
        response.seq = command.seq ∧
        (t.handleFrame frame).2 =
          { t with bulkAbort := none, bridge := .new bridge }.enqueueResponse response
            bridge.cardPresent := by
  let unaborted : CcidTransport (CcidBridge ρ) := { t with bulkAbort := none }
  have hlock : unaborted.bridge.lock = .ok t.bridge.value := Mutex.lock_eq_ok hu
  cases hd : CcidCommand.decode frame with
  | error error =>
    left
    simp [exchange?, handleFrame, hd]
  | ok command =>
    obtain ⟨result, bridge, hcommand⟩ : ∃ result bridge,
      BridgeOps.handleCommand t.bridge.value command = (result, bridge) := ⟨_, _, rfl⟩
    cases result with
    | error panic =>
      have hnone : command.isAbort = false := by
        cases command with
        | abort slot seq => cases hcommand
        | _ => rfl
      rw [handleFrame_command hc hd hnone, executeLocked_panic hlock hcommand] at hr
      exact hr.elim
    | ok response =>
      have hx : t.exchange? frame = some ⟨t, command, response⟩ := by
        simp [exchange?, hd, hcommand]
      have hseq := CcidBridge.handleCommand_seq (congrArg Prod.fst hcommand)
      refine .inr ⟨command, response, bridge, hx, hseq, ?_⟩
      rw [handleFrame_command hc hd (ha _ hx), executeLocked_ok hlock hcommand]
      rfl

theorem handleFrame_delivers {received : List UInt8} {xs : List (Exchange (CcidBridge ρ))}
    {t : CcidTransport (CcidBridge ρ)} {frame : List UInt8} (hd : Delivers received xs t)
    (hr : (TransportReply.bulkOut (t.handleFrame frame).1).Returns)
    (ho : Orderly (xs ++ (t.exchange? frame).toList)) :
    Delivers received (xs ++ (t.exchange? frame).toList) (t.handleFrame frame).2 := by
  have ha : ∀ x ∈ t.exchange? frame, x.command.isAbort = false :=
    fun x hx => ho.noAbort x (by simp [Option.mem_toList.mpr hx])
  rcases handleFrame_exchange hd.unpoisoned hd.noAbort hr ha with
    ⟨hx, heq⟩ | ⟨command, response, bridge, hx, hseq, heq⟩
  · rw [hx, heq]
    simpa using hd
  rw [hx] at ho
  rw [hx, heq, Option.toList_some]
  obtain ⟨nextFrameLen, state, hq⟩ := enqueueResponse_eq
    { t with bulkAbort := none, bridge := .new bridge } response bridge.cardPresent
  rw [hq]
  have hroom : t.pendingInFrames.length < maxPendingInFrames :=
    ho.room ⟨t, command, response⟩ (by simp)
  refine ⟨rfl, hd.noAbort, ?_, ?_, ?_, ?_⟩
  · rw [enqueue_flatten hroom, ← List.append_assoc, hd.bytes, List.flatMap_append]
    simp [Exchange.queued]
  · intro _
    exact ⟨⟨t, command, response⟩, by simp, enqueue_getLast? _ _⟩
  · intro x hx
    rcases List.mem_append.mp hx with hx | hx
    · exact hd.seqs x hx
    · obtain rfl := List.mem_singleton.mp hx
      exact hseq
  · intro x hx hback
    rcases List.mem_append.mp hx with hx | hx
    · exact hd.dropped x hx hback
    obtain rfl := List.mem_singleton.mp hx
    have hback : t.pendingInFrames.getLast? = some response.encode := hback
    -- A longer queue ends with the last response, which has another sequence number.
    by_cases hlen : 2 ≤ t.pendingInFrames.length
    · obtain ⟨y, hy, hlast⟩ := hd.back hlen
      have hencode : y.response.encode = response.encode :=
        Option.some.inj (hlast.symm.trans hback)
      have hne := (List.isChain_append.mp ho.seqs).2.2 y hy _ rfl
      rw [← hd.seqs y (List.mem_of_getLast? hy), ← hseq] at hne
      exact absurd (CcidResponse.seq_eq_of_encode_eq hencode) hne
    · match hq : t.pendingInFrames with
      | [] => simp [hq] at hback
      | [a] => simpa [hq] using hback
      | a :: b :: rest =>
        rw [hq] at hlen
        simp at hlen

theorem handleBulkOut_delivers {received : List UInt8} {xs : List (Exchange (CcidBridge ρ))}
    {t : CcidTransport (CcidBridge ρ)} {payload : List UInt8} (hd : Delivers received xs t)
    (hr : (TransportReply.bulkOut (t.handleBulkOut payload).1).Returns)
    (ho : Orderly (xs ++ t.exchanges payload)) :
    Delivers received (xs ++ t.exchanges payload) (t.handleBulkOut payload).2 := by
  refine handleBulkOut_invariant (P := fun xs t => Orderly xs → Delivers received xs t) ?_ ?_
    xs (fun _ => hd) payload hr ho
  · intro xs t pendingOutBuffer nextFrameLen state hd ho
    have hd := hd ho
    exact ⟨hd.unpoisoned, hd.noAbort, hd.bytes, hd.back, hd.seqs, hd.dropped⟩
  · intro xs t frame hd hr ho
    exact handleFrame_delivers (hd ho.left) hr ho

omit [NfcReader ρ] in
theorem handleBulkIn_delivers {received : List UInt8} {xs : List (Exchange (CcidBridge ρ))}
    {t : CcidTransport (CcidBridge ρ)} (hd : Delivers received xs t) (maxLen : ℕ) :
    Delivers (received ++ (t.handleBulkIn maxLen).1) xs (t.handleBulkIn maxLen).2 := by
  obtain ⟨hbytes, hlast⟩ := t.handleBulkIn_queue maxLen
  obtain ⟨pendingInFrames, nextFrameLen, state, heq⟩ := t.handleBulkIn_eq maxLen
  rw [heq] at hbytes hlast ⊢
  refine ⟨hd.unpoisoned, hd.noAbort, ?_, ?_, hd.seqs, hd.dropped⟩
  · rw [List.append_assoc, hbytes, hd.bytes]
  · intro hlen
    obtain ⟨hlen', hsame⟩ := hlast hlen
    obtain ⟨x, hx, hx'⟩ := hd.back hlen'
    exact ⟨x, hx, hsame.trans hx'⟩

theorem handleInterruptIn_delivers {received : List UInt8} {xs : List (Exchange (CcidBridge ρ))}
    {t : CcidTransport (CcidBridge ρ)} (hd : Delivers received xs t) :
    Delivers received xs t.handleInterruptIn.2 := by
  obtain ⟨bridge, pendingInterruptFrames, slotPresent, hu, heq⟩ :=
    t.handleInterruptIn_eq hd.unpoisoned
  rw [heq]
  exact ⟨hu, hd.noAbort, hd.bytes, hd.back, hd.seqs, hd.dropped⟩

end CcidTransport

variable {ρ : Type*} [NfcReader ρ]

abbrev TransportEvent (ρ : Type*) := Event (CcidTransport (CcidBridge ρ)) TransportOp TransportReply

/-- The bytes the host has read from bulk IN. -/
def received (h : List (TransportEvent ρ)) : List UInt8 :=
  h.flatMap fun e =>
    match e.output with
    | .bulkIn bytes => bytes
    | _ => []

/-- The commands the bridge has answered, with its responses. -/
def exchanges (h : List (TransportEvent ρ)) : List (CcidTransport.Exchange (CcidBridge ρ)) :=
  h.flatMap fun e =>
    match e.input with
    | .bulkOut payload => e.before.exchanges payload
    | _ => []

theorem exchanges_append (h : List (TransportEvent ρ)) (e : TransportEvent ρ) :
    exchanges (h ++ [e]) = exchanges h ++ exchanges [e] := by
  simp [exchanges]

theorem exchanges_bulkOut (t : CcidTransport (CcidBridge ρ)) (payload : List UInt8) :
    exchanges [(transportMachine (CcidBridge ρ)).event t (.bulkOut payload)] =
      t.exchanges payload := by
  simp [exchanges, Machine.event]

def TransportOp.isControlRequest : TransportOp → Bool
  | .controlRequest .. => true
  | _ => false

theorem step_delivers {h : List (TransportEvent ρ)} {t : CcidTransport (CcidBridge ρ)}
    {op : TransportOp} (hop : op.isControlRequest = false)
    (hr : ((transportMachine (CcidBridge ρ)).event t op).output.Returns)
    (hd : CcidTransport.Orderly (exchanges h) →
      CcidTransport.Delivers (received h) (exchanges h) t)
    (ho : CcidTransport.Orderly (exchanges (h ++ [(transportMachine (CcidBridge ρ)).event t op]))) :
    CcidTransport.Delivers (received (h ++ [(transportMachine (CcidBridge ρ)).event t op]))
      (exchanges (h ++ [(transportMachine (CcidBridge ρ)).event t op]))
      ((transportMachine (CcidBridge ρ)).event t op).after := by
  have hre : received (h ++ [(transportMachine (CcidBridge ρ)).event t op]) =
    received h ++ received [(transportMachine (CcidBridge ρ)).event t op] := by simp [received]
  rw [exchanges_append] at ho
  rw [hre, exchanges_append]
  have hd := hd ho.left
  cases op with
  | controlRequest => cases hop
  | bulkOut payload =>
    have hreceived : received [(transportMachine (CcidBridge ρ)).event t (.bulkOut payload)] = [] :=
      rfl
    rw [exchanges_bulkOut] at ho
    rw [hreceived, exchanges_bulkOut, List.append_nil]
    exact CcidTransport.handleBulkOut_delivers hd hr ho
  | bulkIn maxLen =>
    have hreceived : received [(transportMachine (CcidBridge ρ)).event t (.bulkIn maxLen)] =
        (t.handleBulkIn maxLen).1 := by simp [received, Machine.event, transportMachine]
    have hexchanges : exchanges [(transportMachine (CcidBridge ρ)).event t (.bulkIn maxLen)] = [] :=
      rfl
    rw [hreceived, hexchanges, List.append_nil]
    exact CcidTransport.handleBulkIn_delivers hd maxLen
  | interruptIn =>
    have hreceived : received [(transportMachine (CcidBridge ρ)).event t .interruptIn] = [] := rfl
    have hexchanges : exchanges [(transportMachine (CcidBridge ρ)).event t .interruptIn] = [] := rfl
    rw [hreceived, hexchanges, List.append_nil, List.append_nil]
    exact CcidTransport.handleInterruptIn_delivers hd

/-- In runs without aborts, with room in the queue and no sequence number twice in a row: what the
host has read and what is queued are the responses of the bridge, in order, exactly if no response
met a queue holding nothing but its very bytes, which can only be the unsent part of the response
before it. -/
theorem delivery_iff (reader : ρ) {h : List (TransportEvent ρ)} {t : CcidTransport (CcidBridge ρ)}
    (hr : Run (transportMachine (CcidBridge ρ)) (.new (.new reader)) h t)
    (hreturns : ∀ e ∈ h, e.output.Returns)
    (hops : ∀ e ∈ h, e.input.isControlRequest = false)
    (ho : CcidTransport.Orderly (exchanges h)) :
    received h ++ t.pendingInFrames.flatten =
        (exchanges h).flatMap (fun x => x.response.encode) ↔
      ∀ x ∈ exchanges h, x.before.pendingInFrames ≠ [x.response.encode] := by
  have hd : CcidTransport.Delivers (received h) (exchanges h) t := by
    refine hr.invariant
      (A := fun e => e.output.Returns ∧ e.input.isControlRequest = false)
      (P := fun h t => CcidTransport.Orderly (exchanges h) →
        CcidTransport.Delivers (received h) (exchanges h) t)
      (fun _ => ⟨rfl, rfl, rfl, by simp [CcidTransport.new], by simp [exchanges],
        by simp [exchanges]⟩)
      (fun h t op hd hadm ho => step_delivers hadm.2 hadm.1 hd ho)
      (fun e he => ⟨hreturns e he, hops e he⟩) ho
  have hpos : ∀ r : CcidResponse, 0 < r.encode.length := fun r => by
    have := r.ten_le_length_encode
    omega
  rw [hd.bytes, flatMap_eq_iff]
  · refine forall₂_congr fun x hx => ?_
    unfold CcidTransport.Exchange.queued
    by_cases hback : x.before.pendingInFrames.getLast? = some x.response.encode
    · rw [if_pos hback, hd.dropped x hx hback]
      have hne : [] ≠ x.response.encode := by
        intro hnil
        have := hpos x.response
        simp [← hnil] at this
      simp [hne]
    · rw [if_neg hback]
      simp only [true_iff]
      intro hq
      simp [hq] at hback
  · intro x hx
    unfold CcidTransport.Exchange.queued
    split
    · exact .inr (hpos x.response)
    · exact .inl rfl

/-- A card whose answer is the bytes of the status response to the next command. -/
def mimickingCard : FakeReader where
  pollResults := [.ok (some ⟨[1, 2, 3, 4], .isoDep, []⟩)]
  powerOffResults := []
  exchangeResults := [.ok (CcidResponse.slotStatus 0 2 (.ok .active) 0 0).encode]

def powerOnBytes : List UInt8 := [pcToRdrIccPowerOn, 0, 0, 0, 0, 0, 0, 0, 0, 0]

/-- The header of the block is read on its own, and the status is asked for before the rest. -/
def headerReadAlone : List TransportOp :=
  [.bulkOut powerOnBytes, .bulkIn 512,
    .bulkOut [pcToRdrXfrBlock, 4, 0, 0, 0, 0, 1, 0, 0, 0, 0x00, 0xb0, 0x00, 0x00], .bulkIn 10,
    .bulkOut [pcToRdrGetSlotStatus, 0, 0, 0, 0, 0, 2, 0, 0, 0]]

theorem status_dropped_behind_remainder :
    ¬ ∀ h (t : CcidTransport (CcidBridge FakeReader)),
      Run (transportMachine _) (.new (.new mimickingCard)) h t →
      (∀ e ∈ h, e.output.Returns) → (∀ e ∈ h, e.input.isControlRequest = false) →
      CcidTransport.Orderly (exchanges h) →
      received h ++ t.pendingInFrames.flatten =
        (exchanges h).flatMap fun x => x.response.encode := by
  intro hall
  let h := (transportMachine (CcidBridge FakeReader)).history (.new (.new mimickingCard))
    headerReadAlone
  have hreturns : ∀ e ∈ h, e.output.Returns := by
    simp only [h, headerReadAlone, Machine.history, List.forall_mem_cons]
    exact ⟨trivial, trivial, trivial, trivial, trivial, by simp⟩
  have heq := hall h _ (Machine.run_of_inputs _ _ _) hreturns (by decide)
    ⟨by decide, by decide, by decide⟩
  exact absurd heq (by decide)

theorem delivery_of_power_on :
    let h := (transportMachine (CcidBridge FakeReader)).history (.new (.new mimickingCard))
      [.bulkOut powerOnBytes, .bulkIn 7, .interruptIn]
    received h ++ ((transportMachine (CcidBridge FakeReader)).final (.new (.new mimickingCard))
        [.bulkOut powerOnBytes, .bulkIn 7, .interruptIn]).pendingInFrames.flatten =
      (exchanges h).flatMap fun x => x.response.encode := by
  intro h
  have hreturns : ∀ e ∈ h, e.output.Returns := by
    simp only [h, Machine.history, List.forall_mem_cons]
    exact ⟨trivial, trivial, trivial, by simp⟩
  exact (delivery_iff mimickingCard (Machine.run_of_inputs _ _ _) hreturns (by decide)
    ⟨by decide, by decide, by decide⟩).mpr (by decide)

end VirtualCcid.Ccid
