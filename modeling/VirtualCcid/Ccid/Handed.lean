import VirtualCcid.Ccid.Reassembly
import VirtualCcid.Runs.Monitor

/-! What the bridge is handed: the commands that the packets spell by their bytes alone, up to the
one at which a call panics. -/
namespace VirtualCcid.Ccid
open Rust Runs

instance {β : Type*} [BridgeOps β] : BridgeOps (Recorder β CcidCommand) where
  handleCommand r command := r.call (BridgeOps.handleCommand · command) fun _ => command
  cardPresent r := BridgeOps.cardPresent r.inner
  refreshCardPresence r :=
    ((BridgeOps.refreshCardPresence r.inner).1,
      { r with inner := (BridgeOps.refreshCardPresence r.inner).2 })
  currentIccStatus r := BridgeOps.currentIccStatus r.inner

/-- What the bridge is handed of a message: its command, unless that is an `Abort`. -/
def handedOf (frame : List UInt8) : List CcidCommand :=
  match CcidCommand.decode frame with
  | .error _ => []
  | .ok command => if command.isAbort then [] else [command]

theorem handedOf_eq {frame : List UInt8} {command : CcidCommand}
    (hd : CcidCommand.decode frame = .ok command) :
    handedOf frame = if command.isAbort then [] else [command] := by
  rw [handedOf, hd]

/-- The receiver that only notes what would be handed over. -/
def note (log : List CcidCommand) (frame : List UInt8) : Reaction (List CcidCommand) :=
  .next (log ++ handedOf frame)

/-- The commands that packets spell from an empty buffer. -/
def spelled (packets : List (List UInt8)) : List CcidCommand :=
  (ccidFraming.resume note [] [] packets).1

theorem note_keeps :
    Framing.Keeps ccidFraming note (fun log frame => log ++ handedOf frame) fun _ => True :=
  ⟨fun _ _ => rfl, fun _ _ => trivial⟩

theorem note_extends {base log log' : List CcidCommand} {frame : List UInt8} (h : base <+: log)
    (hn : note log frame = .next log' ∨ note log frame = .flush log') : base <+: log' := by
  obtain rfl := Reaction.next.inj (hn.resolve_right nofun)
  exact h.trans (List.prefix_append log _)

theorem drain_extends (log : List CcidCommand) (buffer : List UInt8) :
    log <+: (ccidFraming.drain note log buffer).1 :=
  Framing.drain_invariant (P := fun l => log <+: l) (fun h _ hn => note_extends h hn)
    (List.prefix_refl log) buffer

theorem resume_extends (log : List CcidCommand) (buffer : List UInt8)
    (packets : List (List UInt8)) : log <+: (ccidFraming.resume note log buffer packets).1 :=
  Framing.resume_invariant (P := fun l => log <+: l) (fun h _ hn => note_extends h hn)
    (List.prefix_refl log) buffer packets

namespace CcidTransport
variable {β : Type*} [BridgeOps β]

theorem handleFrame_recorded {e : Endpoint (Recorder β CcidCommand)} (he : e.controlAbort = none)
    (rest : List UInt8) (state : TransportState) {frame : List UInt8} {command : CcidCommand}
    (hd : CcidCommand.decode frame = .ok command) :
    (∃ e' state', e'.controlAbort = none ∧
        e'.bridge.calls = e.bridge.calls ++ handedOf frame ∧
        (mid e rest none state).handleFrame frame = (.ok (), mid e' rest none state')) ∨
      ∃ panic t', (mid e rest none state).handleFrame frame = (.error (.panic panic), t') ∧
        handedOf frame = [command] ∧ t'.bridge.value.calls = e.bridge.calls ++ [command] ∧
        ∃ bridge : β, (BridgeOps.handleCommand bridge command).1 = .error panic := by
  rw [handedOf_eq hd]
  cases hc : command.isAbort with
  | true =>
    left
    obtain ⟨bridge, inFrames, interruptFrames, slotPresent, bulkAbort, controlAbort⟩ := e
    obtain rfl : controlAbort = none := he
    cases command with
    | abort slot seq =>
      refine ⟨⟨bridge, inFrames, interruptFrames, slotPresent, some seq, none⟩, state, rfl, ?_, ?_⟩
      · exact (List.append_nil _).symm
      · rw [handleFrame, hd]
        rfl
    | _ => cases hc
  | false =>
    have hframe : (mid e rest none state).handleFrame frame =
        (mid { e with bulkAbort := none } rest none state).executeLocked command :=
      handleFrame_command he hd hc
    have hlock : (mid { e with bulkAbort := none } rest none state).bridge.lock =
      .ok e.bridge := rfl
    rw [hframe]
    obtain ⟨result, bridge, hinner⟩ : ∃ result bridge,
      BridgeOps.handleCommand e.bridge.inner command = (result, bridge) := ⟨_, _, rfl⟩
    have hcommand : BridgeOps.handleCommand e.bridge command =
        (result, (⟨bridge, e.bridge.calls ++ [command]⟩ : Recorder β CcidCommand)) := by
      show e.bridge.call (BridgeOps.handleCommand · command) (fun _ => command) = _
      rw [Recorder.call, hinner]
    cases result with
    | error panic =>
      right
      refine ⟨panic, { mid { e with bulkAbort := none } rest none state with
        bridge := ⟨⟨bridge, e.bridge.calls ++ [command]⟩, true⟩ }, ?_, rfl, rfl,
          e.bridge.inner, by rw [hinner]⟩
      exact executeLocked_panic hlock hcommand
    | ok response =>
      left
      let e' : Endpoint (Recorder β CcidCommand) :=
        { e with bulkAbort := none, bridge := ⟨bridge, e.bridge.calls ++ [command]⟩ }
      refine ⟨e'.answer response (BridgeOps.cardPresent bridge), .readyToSend, he, rfl, ?_⟩
      rw [executeLocked_ok hlock hcommand]
      exact congrArg _ (enqueueResponse_mid e' rest none state response _)

/-- The calls end with a command at which the bridge panics, which the log foresees. -/
def PanicsAt (base log : List CcidCommand) (t : CcidTransport (Recorder β CcidCommand)) : Prop :=
  ∃ done command, t.bridge.value.calls = base ++ (done ++ [command]) ∧
    done ++ [command] <+: log ∧
      ∃ (bridge : β) (panic : Panic), (BridgeOps.handleCommand bridge command).1 = .error panic

/-- How a call ends over a recorded bridge, of which the log is known: as the noting receiver does,
or with a panic on the way. -/
def Spells (base : List CcidCommand) (noted : List CcidCommand × Drained UInt8)
    (result : Except (Fault IoError) Unit × CcidTransport (Recorder β CcidCommand)) : Prop :=
  (∃ e, e.controlAbort = none ∧ e.bridge.calls = base ++ noted.1 ∧ Ends (e, noted.2) result) ∨
    (∃ panic, result.1 = .error (.panic panic)) ∧ PanicsAt base noted.1 result.2

theorem bulkOutLoop_spells {base log : List CcidCommand} {e : Endpoint (Recorder β CcidCommand)}
    (he : e.controlAbort = none) (hlog : e.bridge.calls = base ++ log) {buffer : List UInt8}
    {nextFrameLen : Option ℕ} (hn : Coherent nextFrameLen buffer) (state : TransportState)
    {fuel : ℕ} (hfuel : buffer.length < fuel) :
    Spells base (ccidFraming.drain note log buffer)
      (bulkOutLoop fuel (mid e buffer nextFrameLen state)) := by
  obtain ⟨fuel, rfl⟩ := Nat.exists_eq_add_one_of_ne_zero (Nat.ne_zero_of_lt hfuel)
  induction log, buffer using Framing.drain.induct ccidFraming note
    generalizing e nextFrameLen state fuel with
  | case1 log buffer hscan =>
    have hscan' : scanFrame buffer = .incomplete := hscan
    rw [Framing.drain_incomplete hscan, bulkOutLoop, tryTakeCompleteFrame_mid e hn, hscan']
    exact Or.inl ⟨e, he, hlog, rfl⟩
  | case2 log buffer n hscan =>
    have hscan' : scanFrame buffer = .refused n := hscan
    rw [Framing.drain_refused hscan, bulkOutLoop, tryTakeCompleteFrame_mid e hn, hscan']
    exact Or.inl ⟨e, he, hlog, rfl⟩
  | case3 log buffer frame rest hscan log' hnote ih =>
    obtain rfl := Reaction.next.inj hnote
    have hlt := ccidFraming.rest_lt hscan
    obtain ⟨command, hd⟩ := decode_of_scan hscan
    rw [Framing.drain_message hscan, hnote, bulkOutLoop, take_message e hn hscan]
    dsimp only
    rcases handleFrame_recorded he rest (stateOf e.inFrames rest) hd with
      ⟨e', state', he', hcalls, hframe⟩ | ⟨panic, t', hframe, hhanded, hcalls, bridge, hpanic⟩
    · rw [hframe]
      dsimp only
      obtain ⟨fuel, rfl⟩ := Nat.exists_eq_add_one_of_ne_zero (show fuel ≠ 0 by omega)
      have hlog' : e'.bridge.calls = base ++ (log ++ handedOf frame) := by
        rw [hcalls, hlog, List.append_assoc]
      exact ih he' hlog' (coherent_none rest) state' fuel (by omega)
    · rw [hframe]
      right
      have hextends := drain_extends (log ++ handedOf frame) rest
      rw [hhanded] at hextends ⊢
      refine ⟨⟨panic, rfl⟩, log, command, ?_, hextends, bridge, panic, hpanic⟩
      rw [hcalls, hlog, List.append_assoc]
  | case4 log buffer frame rest hscan log' hnote | case5 log buffer frame rest hscan hnote =>
    cases hnote

/-- Send packets one after the other: an `Err` is followed by the next packet, a panic by none.
Tells whether every call returned. -/
def sendPackets (t : CcidTransport β) : List (List UInt8) → Bool × CcidTransport β
  | [] => (true, t)
  | packet :: packets =>
    if TransportReply.Returns (.bulkOut (t.handleBulkOut packet).1) then
      (t.handleBulkOut packet).2.sendPackets packets
    else (false, (t.handleBulkOut packet).2)

theorem sendPackets_of_returns {t t' : CcidTransport β}
    {result : Except (Fault IoError) Unit} {packet : List UInt8}
    (h : t.handleBulkOut packet = (result, t')) (hr : TransportReply.Returns (.bulkOut result))
    (packets : List (List UInt8)) : t.sendPackets (packet :: packets) = t'.sendPackets packets := by
  rw [sendPackets, h, if_pos hr]

theorem PanicsAt.mono {base log log' : List CcidCommand}
    {t : CcidTransport (Recorder β CcidCommand)} (h : t.PanicsAt base log) (hl : log <+: log') :
    t.PanicsAt base log' := by
  obtain ⟨done, command, hcalls, hprefix, hpanic⟩ := h
  exact ⟨done, command, hcalls, hprefix.trans hl, hpanic⟩

/-- Packets over a recorded bridge hand over what they spell, unless a call panics. -/
theorem sendPackets_spells {base log : List CcidCommand} {e : Endpoint (Recorder β CcidCommand)}
    (he : e.controlAbort = none) (hlog : e.bridge.calls = base ++ log) {buffer : List UInt8}
    (hb : scanFrame buffer = .incomplete) (packets : List (List UInt8)) :
    let spelt := (ccidFraming.resume note log buffer packets).1
    let sent := (assemble e buffer).sendPackets packets
    (sent.1 = true ∧ sent.2.bridge.value.calls = base ++ spelt) ∨
      (sent.1 = false ∧ sent.2.PanicsAt base spelt) := by
  dsimp only
  induction packets generalizing e log buffer with
  | nil => exact Or.inl ⟨rfl, hlog⟩
  | cons packet packets ih =>
    obtain ⟨nextFrameLen, state, hn, hcall⟩ := handleBulkOut_loop e hb packet
    have hspells := bulkOutLoop_spells he hlog hn state (Nat.lt_succ_self _)
    rw [← hcall] at hspells
    obtain ⟨⟨log', ending⟩, hd⟩ : ∃ drained,
      ccidFraming.drain note log (buffer ++ packet) = drained := ⟨_, rfl⟩
    rw [hd] at hspells
    rw [Framing.resume, hd]
    rcases hspells with ⟨e', he', hlog', hends⟩ | ⟨⟨panic, hpanic⟩, hlast⟩
    · cases ending with
      | waiting rest =>
        rw [sendPackets_of_returns hends trivial]
        exact ih he' hlog' (Framing.incomplete_of_waiting hd)
      | refused n =>
        rw [sendPackets_of_returns hends trivial]
        exact ih he' hlog' scanFrame_nil
      | failed =>
        have hne := note_keeps.drain_ne_failed (s := log) trivial (buffer ++ packet)
        rw [hd] at hne
        exact absurd rfl hne
    · right
      have hreturns : ¬ TransportReply.Returns (.bulkOut ((assemble e buffer).handleBulkOut
          packet).1) := by
        rw [hpanic]
        exact id
      rw [sendPackets, if_neg hreturns]
      refine ⟨rfl, hlast.mono ?_⟩
      cases ending with
      | waiting rest => exact resume_extends log' rest packets
      | refused n => exact resume_extends log' [] packets
      | failed => exact List.prefix_refl log'

/-- The bridge is handed these commands and no others, in their order: all of them when every call
returns, and none beyond the one at which a call panics. -/
def HandedExactly (t : CcidTransport (Recorder β CcidCommand)) (packets : List (List UInt8))
    (commands : List CcidCommand) : Prop :=
  ∃ handed, (t.sendPackets packets).2.bridge.value.calls = t.bridge.value.calls ++ handed ∧
    handed <+: commands ∧ ((t.sendPackets packets).1 = true → handed = commands)

section Spelled
variable {e : Endpoint (Recorder β CcidCommand)} {packets : List (List UInt8)}

theorem handedExactly_spelled (he : e.controlAbort = none) (packets : List (List UInt8)) :
    (assemble e []).HandedExactly packets (spelled packets) := by
  have hlog : e.bridge.calls = e.bridge.calls ++ [] := (List.append_nil _).symm
  rcases sendPackets_spells he hlog scanFrame_nil packets with
    ⟨hreturned, hcalls⟩ | ⟨hpanicked, done, command, hcalls, hprefix, -⟩
  · exact ⟨spelled packets, hcalls, List.prefix_refl _, fun _ => rfl⟩
  · refine ⟨done ++ [command], hcalls, hprefix, fun hreturned => ?_⟩
    rw [hpanicked] at hreturned
    cases hreturned

theorem spelled_of_handedExactly (he : e.controlAbort = none) {commands : List CcidCommand}
    (hsafe : ∀ command ∈ commands, ∀ bridge : β, ∃ response,
      (BridgeOps.handleCommand bridge command).1 = .ok response)
    (h : (assemble e []).HandedExactly packets commands) : spelled packets = commands := by
  obtain ⟨handed, hhanded, hprefix, hall⟩ := h
  have hlog : e.bridge.calls = e.bridge.calls ++ [] := (List.append_nil _).symm
  have hbase : (assemble e []).bridge.value.calls = e.bridge.calls := rfl
  rw [hbase] at hhanded
  rcases sendPackets_spells he hlog scanFrame_nil packets with
    ⟨hreturned, hcalls⟩ | ⟨-, done, command, hcalls, -, bridge, panic, hpanic⟩
  · have hspelled := List.append_cancel_left (hcalls.symm.trans hhanded)
    exact hspelled.trans (hall hreturned)
  · have hdone := List.append_cancel_left (hcalls.symm.trans hhanded)
    have hmem : command ∈ commands := hprefix.subset (by rw [← hdone]; simp)
    obtain ⟨response, hok⟩ := hsafe command hmem bridge
    rw [hpanic] at hok
    cases hok

theorem spelled_nil_of_handedExactly_nil (he : e.controlAbort = none)
    (h : (assemble e []).HandedExactly packets []) : spelled packets = [] :=
  spelled_of_handedExactly he (by simp) h

end Spelled

end CcidTransport
end VirtualCcid.Ccid
