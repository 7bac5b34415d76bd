import VirtualCcid.Ccid.Bridge
import VirtualCcid.Runs.Monitor

/-! The slot parameters as a register: written by `SetParameters`, cleared by `ResetParameters`,
and touched by nothing else. -/
namespace VirtualCcid.Ccid
open Rust Nfc Runs

/-- The payload of a `SetParameters` that is accepted. -/
def BridgeInput.acceptedParameters : BridgeInput → Option (List UInt8)
  | .command (.setParameters _ _ protocolNum payload) =>
    if protocolNum = 1 ∧ payload.length = 7 then some payload else none
  | _ => none

def BridgeInput.isResetParameters : BridgeInput → Bool
  | .command (.resetParameters ..) => true
  | _ => false

/-- The parameters in force behind some inputs: the last accepted ones since the last reset or the
start, or the defaults if there are none. -/
def InForce : List BridgeInput → List UInt8 → Prop :=
  Registers BridgeInput.acceptedParameters BridgeInput.isResetParameters
    [0x11, 0x10, 0x00, 0x15, 0x00, 0xfe, 0x00]

namespace CcidBridge
variable {ρ : Type*}

theorem setParameters_rejected (b : CcidBridge ρ) (slot seq : UInt8) {protocolNum : UInt8}
    {payload : List UInt8} (h : ¬ (protocolNum = 1 ∧ payload.length = 7)) :
    b.setParameters slot seq protocolNum payload =
      (.ok (b.parametersResponse slot seq true), b) := by
  have hguard : protocolNum ≠ t1ProtocolNum ∨ payload.length ≠ defaultT1Parameters.toList.length :=
    not_and_or.mp h
  rw [setParameters, if_pos hguard]

theorem setParameters_accepted (b : CcidBridge ρ) (slot seq : UInt8) {payload : List UInt8}
    (h : payload.length = 7) :
    ∃ parameters : Vector UInt8 7, parameters.toList = payload ∧
      b.setParameters slot seq 1 payload =
        (.ok ({ b with protocolNum := 1, parameters }.parametersResponse slot seq false),
          { b with protocolNum := 1, parameters }) := by
  have hguard : ¬ ((1 : UInt8) ≠ t1ProtocolNum ∨
      payload.length ≠ defaultT1Parameters.toList.length) :=
    not_or.mpr ⟨not_not.mpr rfl, not_not.mpr h⟩
  obtain ⟨parameters, hcopy, htoList⟩ := copyFromSlice_returns b.parameters h
  refine ⟨parameters, htoList, ?_⟩
  rw [setParameters, if_neg hguard]
  dsimp only
  rw [hcopy]

variable [NfcReader ρ]

theorem step_settings (b : CcidBridge ρ) {i : BridgeInput} (haccepted : i.acceptedParameters = none)
    (hreset : i.isResetParameters = false) :
    b.SameSettings ((bridgeMachine ρ).event b i).after := by
  cases i with
  | refresh => exact b.refreshCardPresence_settings
  | command c =>
    cases hc : c.writesParameters with
    | false => exact b.handleCommand_settings hc
    | true =>
      cases c with
      | setParameters slot seq protocolNum payload =>
        have hrejected : ¬ (protocolNum = 1 ∧ payload.length = 7) := by
          intro h
          rw [BridgeInput.acceptedParameters, if_pos h] at haccepted
          cases haccepted
        have hsame : ((bridgeMachine ρ).event b
            (.command (.setParameters slot seq protocolNum payload))).after = b :=
          congrArg Prod.snd (b.setParameters_rejected slot seq hrejected)
        rw [hsame]
        exact ⟨rfl, rfl, rfl⟩
      | resetParameters => cases hreset
      | iccPowerOn | iccPowerOff | getSlotStatus | getParameters | xfrBlock | abort | unknown =>
        cases hc

theorem step_accepted (b : CcidBridge ρ) {i : BridgeInput} {payload : List UInt8}
    (h : i.acceptedParameters = some payload) :
    ((bridgeMachine ρ).event b i).after.parameters.toList = payload ∧
      ((bridgeMachine ρ).event b i).after.protocolNum = 1 := by
  match i with
  | .command (.setParameters slot seq protocolNum payload') =>
    rw [BridgeInput.acceptedParameters] at h
    split at h
    · next hguard =>
      obtain ⟨rfl, hlen⟩ := hguard
      obtain rfl := Option.some.inj h
      obtain ⟨parameters, htoList, heq⟩ := b.setParameters_accepted slot seq hlen
      have hafter : ((bridgeMachine ρ).event b
          (.command (.setParameters slot seq 1 payload'))).after =
          { b with protocolNum := 1, parameters } := congrArg Prod.snd heq
      rw [hafter]
      exact ⟨htoList, rfl⟩
    · cases h
  | .refresh | .command (.iccPowerOn ..) | .command (.iccPowerOff ..)
  | .command (.getSlotStatus ..) | .command (.getParameters ..) | .command (.resetParameters ..)
  | .command (.xfrBlock ..) | .command (.abort ..) | .command (.unknown ..) => cases h

theorem step_reset (b : CcidBridge ρ) {i : BridgeInput} (h : i.isResetParameters = true) :
    i.acceptedParameters = none ∧
      ((bridgeMachine ρ).event b i).after.parameters = defaultT1Parameters ∧
      ((bridgeMachine ρ).event b i).after.protocolNum = 1 := by
  match i with
  | .command (.resetParameters ..) => exact ⟨rfl, rfl, rfl⟩
  | .refresh | .command (.iccPowerOn ..) | .command (.iccPowerOff ..)
  | .command (.getSlotStatus ..) | .command (.getParameters ..) | .command (.setParameters ..)
  | .command (.xfrBlock ..) | .command (.abort ..) | .command (.unknown ..) => cases h

/-- Every step writes, resets or keeps the parameters. -/
theorem step_parameters (b : CcidBridge ρ) (i : BridgeInput) :
    ((bridgeMachine ρ).event b i).after.parameters.toList =
      i.acceptedParameters.getD
        (if i.isResetParameters then defaultT1Parameters.toList else b.parameters.toList) := by
  cases haccepted : i.acceptedParameters with
  | some payload => exact (step_accepted b haccepted).1
  | none =>
    cases hreset : i.isResetParameters with
    | true => exact congrArg Vector.toList (step_reset b hreset).2.1
    | false => exact congrArg Vector.toList (step_settings b haccepted hreset).parameters

theorem step_protocolNum {b : CcidBridge ρ} (hb : b.protocolNum = 1) (i : BridgeInput) :
    ((bridgeMachine ρ).event b i).after.protocolNum = 1 := by
  cases haccepted : i.acceptedParameters with
  | some payload => exact (step_accepted b haccepted).2
  | none =>
    cases hreset : i.isResetParameters with
    | true => exact (step_reset b hreset).2.2
    | false => exact (step_settings b haccepted hreset).protocolNum.trans hb

variable {reader : ρ} {h : List (Event (CcidBridge ρ) BridgeInput BridgeOutput)} {b : CcidBridge ρ}

theorem run_protocolNum (hr : Run (bridgeMachine ρ) (new reader) h b) : b.protocolNum = 1 :=
  hr.invariant (A := fun _ => True) (P := fun _ b => b.protocolNum = 1) rfl
    (fun _ _ i hb _ => step_protocolNum hb i) fun _ _ => trivial

theorem run_parameters (hr : Run (bridgeMachine ρ) (new reader) h b) :
    InForce (h.map Event.input) b.parameters.toList :=
  Run.registers BridgeInput.acceptedParameters BridgeInput.isResetParameters Event.input
    (fun b : CcidBridge ρ => b.parameters.toList) rfl step_parameters hr

/-- The parameters are a register over every run of commands and refreshes: a `GetParameters`
returns what is in force, a `SetParameters` that is rejected fails with what is in force, and
whatever is neither an accepted `SetParameters` nor a `ResetParameters` leaves both fields. -/
theorem run_parameters_last_write (hr : Run (bridgeMachine ρ) (new reader) h b)
    {pre post : List (Event (CcidBridge ρ) BridgeInput BridgeOutput)}
    {e : Event (CcidBridge ρ) BridgeInput BridgeOutput} (hs : h = pre ++ e :: post) :
    (∃ inForce, InForce (pre.map Event.input) inForce ∧
      (∀ slot seq, e.input = .command (.getParameters slot seq) →
        e.output = .response (.ok (.parameters slot seq (.ok e.before.currentIccStatus) 0 1
          inForce))) ∧
      ∀ slot seq protocolNum payload,
        e.input = .command (.setParameters slot seq protocolNum payload) →
        ¬ (protocolNum = 1 ∧ payload.length = 7) →
          e.output = .response (.ok (.parameters slot seq (.failed e.before.currentIccStatus)
            genericFailureError 1 inForce))) ∧
      (e.input.acceptedParameters = none → e.input.isResetParameters = false →
        e.after.protocolNum = e.before.protocolNum ∧ e.after.parameters = e.before.parameters) := by
  obtain ⟨hpre, heq⟩ := hr.split hs
  have hnum := run_protocolNum hpre
  refine ⟨⟨e.before.parameters.toList, run_parameters hpre, ?_, ?_⟩, ?_⟩
  · intro slot seq hi
    have hout : e.output = .response (.ok (e.before.parametersResponse slot seq false)) := by
      rw [heq, hi]
      rfl
    rw [hout, parametersResponse, hnum]
    rfl
  · intro slot seq protocolNum payload hi hrejected
    have hout : e.output = .response (e.before.setParameters slot seq protocolNum payload).1 := by
      rw [heq, hi]
      rfl
    rw [hout, setParameters_rejected e.before slot seq hrejected, parametersResponse, hnum]
    rfl
  · intro haccepted hreset
    have hsettings := step_settings e.before haccepted hreset
    rw [← heq] at hsettings
    exact ⟨hsettings.protocolNum, hsettings.parameters⟩

def writeThenFailures : List BridgeInput :=
  [.command (.setParameters 0 1 1 [1, 2, 3, 4, 5, 6, 7]), .command (.iccPowerOn 0 2 0),
    .command (.setParameters 0 3 1 [8])]

theorem parameters_survive_failures :
    let M := bridgeMachine FakeReader
    let b := M.final (new ⟨[.error (.transport "timeout")], [], []⟩) writeThenFailures
    (M.event b (.command (.getParameters 0 4))).output =
      .response (.ok (.parameters 0 4 (.ok .notPresent) 0 1 [1, 2, 3, 4, 5, 6, 7])) := by
  intro M b
  have hr := (M.run_of_inputs (new ⟨[.error (.transport "timeout")], [], []⟩)
    writeThenFailures).step (.command (.getParameters 0 4))
  obtain ⟨inForce, hforce, hget, -⟩ := (run_parameters_last_write hr rfl).1
  have hwritten : InForce writeThenFailures [1, 2, 3, 4, 5, 6, 7] :=
    Or.inl ⟨[], _, [.command (.iccPowerOn 0 2 0), .command (.setParameters 0 3 1 [8])], rfl, rfl,
      by decide⟩
  obtain rfl : inForce = [1, 2, 3, 4, 5, 6, 7] := Registers.unique hforce hwritten
  exact hget 0 4 rfl

end CcidBridge
end VirtualCcid.Ccid
