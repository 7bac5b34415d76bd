import VirtualCcid.Nfc.Alike
import VirtualCcid.Nfc.Factory
import VirtualCcid.Nfc.Serial

/-! What the commands of the reader are on the serial port: each one that has an answer was sent,
acknowledged, and answered by a checked frame. -/
namespace VirtualCcid.Nfc
open Rust Reading Ccid Runs

/-- What happens on a port: a command is sent, an acknowledgement is read, or other bytes are; at the
start, the PN532 is woken and set up. -/
inductive PortEvent where
  | wokenUp (result : Except String Unit)
  | started (request : StartRequest) (result : Except Pn532Error (List UInt8))
  | sent (request : Request) (result : Except Pn532Error Unit)
  | acknowledged (result : Except Pn532Error Unit)
  | received (bytes : List UInt8)
  | processed (request : Request) (result : Except Pn532Error Unit)

abbrev RecordedPort (π : Type*) := Recorder π PortEvent

variable {π : Type*} [SerialPort π]

instance : SerialPort (RecordedPort π) where
  now p := ((SerialPort.now p.inner).1, { p with inner := (SerialPort.now p.inner).2 })
  sleep p duration := { p with inner := SerialPort.sleep p.inner duration }
  bytesToRead p :=
    ((SerialPort.bytesToRead p.inner).1, { p with inner := (SerialPort.bytesToRead p.inner).2 })
  send p request := p.call (fun q => SerialPort.send q request) (.sent request)
  receiveAck p := p.call SerialPort.receiveAck .acknowledged
  process p request timeoutMs :=
    p.call (fun q => SerialPort.process q request timeoutMs) (.processed request)
  incoming p := SerialPort.incoming p.inner
  readError p := SerialPort.readError p.inner
  leave p unread :=
    ⟨SerialPort.leave p.inner unread, p.calls ++ [.received ((SerialPort.incoming p.inner).take
      ((SerialPort.incoming p.inner).length - unread.length))]⟩
  clock p := SerialPort.clock p.inner
  clock_le_now p := SerialPort.clock_le_now p.inner
  now_le_clock p := SerialPort.now_le_clock p.inner
  clock_le_bytesToRead p := SerialPort.clock_le_bytesToRead p.inner
  clock_le_sleep p := SerialPort.clock_le_sleep p.inner

instance {π : Type*} [Pn532Start π] : Pn532Start (RecordedPort π) where
  sendWakeupMessage p := p.call Pn532Start.sendWakeupMessage .wokenUp
  start p request responseLen timeoutMs :=
    p.call (fun q => Pn532Start.start q request responseLen timeoutMs) (.started request)

/-- The events of a command on the port. An answer is the payload of a response frame to the command,
and that frame is all that is read behind the acknowledgement; a command fails where its sending, a
wait, its acknowledgement or the reading of a frame does. -/
inductive OnWire : DeviceCall → List PortEvent → Prop
  | processed (request : Request) (result : Except Pn532Error Unit) :
      OnWire (.process request result) [.processed request result]
  | answered {request : Request} {payload frame : List UInt8} :
      IsResponseFrame (request.command + 1) payload frame →
      OnWire (.dynamic request (.ok payload))
        [.sent request (.ok ()), .acknowledged (.ok ()), .received frame]
  | unsent (request : Request) (error : Pn532Error) :
      OnWire (.dynamic request (.error error)) [.sent request (.error error)]
  | unacknowledged {request : Request} {error : Pn532Error} :
      (error = .timeoutAck ∨ ∃ message, error = .interfaceError message) →
      OnWire (.dynamic request (.error error)) [.sent request (.ok ())]
  | refused (request : Request) (error : Pn532Error) :
      OnWire (.dynamic request (.error error))
        [.sent request (.ok ()), .acknowledged (.error error)]
  | unanswered {request : Request} {error : Pn532Error} :
      (error = .timeoutResponse ∨ ∃ message, error = .interfaceError message) →
      OnWire (.dynamic request (.error error)) [.sent request (.ok ()), .acknowledged (.ok ())]
  | rejected {request : Request} {error : Pn532Error} {bytes : List UInt8} :
      (∀ payload frame, IsResponseFrame (request.command + 1) payload frame → ¬ frame <+: bytes) →
      OnWire (.dynamic request (.error error))
        [.sent request (.ok ()), .acknowledged (.ok ()), .received bytes]

theorem waitSerialReady_calls {p p' : RecordedPort π} {timeoutMs : ℕ}
    {waited : Except (Fault String) Bool} (h : waitSerialReady p timeoutMs = (waited, p')) :
    p'.calls = p.calls := by
  have hidles : ∀ {deadline count : ℕ} {p p' : RecordedPort π}, Idles deadline count p p' →
      p'.calls = p.calls := by
    intro deadline count p p' hi
    induction hi with
    | none p => rfl
    | check _ _ _ ih => exact ih
  obtain ⟨count, p₁, -, hi, hends⟩ := wait_serial_ready p timeoutMs
  have hfirst : p₁.calls = (SerialPort.now p).2.calls := hidles hi
  have hstart : (SerialPort.now p).2.calls = p.calls := rfl
  rw [← hstart, ← hfirst]
  rw [h] at hends
  cases hends with
  | ready _ hcheck _ => exact (congrArg (·.2.calls) hcheck).symm
  | failed _ hcheck => exact (congrArg (·.2.calls) hcheck).symm
  | expired _ => rfl

omit [SerialPort π] in
theorem call_calls {α : Type*} {p p' : RecordedPort π} {f : π → α × π} {note : α → PortEvent}
    {result : α} (h : p.call f note = (result, p')) : p'.calls = p.calls ++ [note result] := by
  obtain ⟨rfl, rfl⟩ := Prod.mk.inj h
  rfl

/-- What is read of the port is a response frame, if that is what its bytes begin with. -/
theorem receiveDynamicResponse_received (p : RecordedPort π) (c : UInt8) :
    ∃ bytes, (receiveDynamicResponse p c).2.calls = p.calls ++ [.received bytes] ∧
      (∀ payload, (receiveDynamicResponse p c).1 = .ok payload → IsResponseFrame c payload bytes) ∧
      ((∀ payload, (receiveDynamicResponse p c).1 ≠ .ok payload) →
        ∀ payload frame, IsResponseFrame c payload frame → ¬ frame <+: bytes) := by
  obtain ⟨result, unread, hrun⟩ : ∃ result unread,
    (receiveDynamicResponseFrom c).run (SerialPort.incoming p) = (result, unread) := ⟨_, _, rfl⟩
  have hreceived : receiveDynamicResponse p c =
      (portError (SerialPort.readError p) result, SerialPort.leave p unread) := by
    simp only [receiveDynamicResponse, hrun]
  rw [hreceived]
  refine ⟨_, rfl, fun payload hok => ?_, fun hno payload frame hframe hprefix => ?_⟩
  · rw [portError_eq_ok_iff.mp hok] at hrun
    obtain ⟨frame, hframe, hs⟩ := receiveDynamicResponseFrom_accepts_iff.mp hrun
    have hincoming : SerialPort.incoming p.inner = frame ++ unread := hs
    rw [hincoming, List.length_append, Nat.add_sub_cancel, List.take_left]
    exact hframe
  · obtain ⟨rest, hrest⟩ := hprefix.trans (List.take_prefix _ _)
    have haccepts := receiveDynamicResponseFrom_accepts_iff.mpr ⟨frame, hframe, hrest.symm⟩
    have hsame : (result, unread) = (.ok payload, rest) := hrun.symm.trans haccepts
    obtain ⟨rfl, -⟩ := Prod.mk.inj hsame
    exact hno payload rfl

theorem processDynamicResponse_onWire (p : RecordedPort π) (request : Request) (timeoutMs : ℕ) :
    ∃ events, (Pn532Device.processDynamicResponse p request timeoutMs).2.calls =
        p.calls ++ events ∧
      OnWire (.dynamic request (Pn532Device.processDynamicResponse p request timeoutMs).1)
        events := by
  have h := processDynamicResponse_commanded p request timeoutMs
  have hpanic := (processDynamicResponse_returns p request timeoutMs).1
  have hends := (processDynamicResponse_returns p request timeoutMs).2
  show ∃ events, (processDynamicResponse p request timeoutMs).2.calls = p.calls ++ events ∧
    OnWire (.dynamic request (outcome _ hpanic hends)) events
  generalize processDynamicResponse p request timeoutMs = answered at h hpanic hends
  cases h with
  | unsent hsend => exact ⟨_, call_calls hsend, .unsent request _⟩
  | unacknowledged hsend hwait herror =>
    refine ⟨_, (waitSerialReady_calls hwait).trans (call_calls hsend), .unacknowledged ?_⟩
    rcases herror with ⟨-, rfl⟩ | ⟨message, -, rfl⟩
    · exact Or.inl rfl
    · exact Or.inr ⟨message, rfl⟩
  | refused hsend hwait hack =>
    refine ⟨_, ?_, .refused request _⟩
    rw [call_calls hack, waitSerialReady_calls hwait, call_calls hsend, List.append_assoc]
    rfl
  | unanswered hsend hwait hack hwait' herror =>
    refine ⟨_, ?_, .unanswered ?_⟩
    · rw [waitSerialReady_calls hwait', call_calls hack, waitSerialReady_calls hwait,
        call_calls hsend, List.append_assoc]
      rfl
    · rcases herror with ⟨-, rfl⟩ | ⟨message, -, rfl⟩
      · exact Or.inl rfl
      · exact Or.inr ⟨message, rfl⟩
  | @received p₁ p₂ p₃ p₄ hsend hwait hack hwait' =>
    obtain ⟨bytes, hcalls, hok, hrejected⟩ :=
      receiveDynamicResponse_received p₄ (request.command + 1)
    refine ⟨[.sent request (.ok ()), .acknowledged (.ok ()), .received bytes], ?_, ?_⟩
    · rw [hcalls, waitSerialReady_calls hwait', call_calls hack, waitSerialReady_calls hwait,
        call_calls hsend, List.append_assoc, List.append_assoc]
      rfl
    · cases hanswer : outcome (receiveDynamicResponse p₄ (request.command + 1)).1 hpanic hends with
      | ok payload => exact .answered (hok payload (outcome_eq_ok hanswer))
      | error error =>
        refine .rejected (hrejected fun payload hpayload => ?_)
        rw [outcome_eq_error hanswer] at hpayload
        cases hpayload

/-- Behind the events from before, the port has noted those of the commands noted by the device. -/
def CallsOnWire (before : List PortEvent) (d : RecordedDevice (RecordedPort π)) : Prop :=
  ∃ parts, List.Forall₂ OnWire d.calls parts ∧ d.inner.calls = before ++ parts.flatten

omit [SerialPort π] in
theorem CallsOnWire.append {before : List PortEvent} {d d' : RecordedDevice (RecordedPort π)}
    {call : DeviceCall} {events : List PortEvent} (h : CallsOnWire before d)
    (hcalls : d'.calls = d.calls ++ [call]) (hevents : d'.inner.calls = d.inner.calls ++ events)
    (hcall : OnWire call events) : CallsOnWire before d' := by
  obtain ⟨parts, hparts, hflatten⟩ := h
  refine ⟨parts ++ [events], ?_, ?_⟩
  · rw [hcalls]
    exact List.rel_append hparts (.cons hcall .nil)
  · rw [hevents, hflatten, List.flatten_append, List.flatten_singleton, List.append_assoc]

theorem callsOnWire_alike (π : Type*) [SerialPort π] (before : List PortEvent) :
    DevicesAlike fun d d' : RecordedDevice (RecordedPort π) => d = d' ∧ CallsOnWire before d := by
  constructor
  · rintro d _ ⟨rfl, h⟩
    exact ⟨rfl, rfl, h⟩
  · rintro d _ request ⟨rfl, h⟩
    exact ⟨rfl, rfl, h.append rfl rfl (.processed request _)⟩
  · rintro d _ request ⟨rfl, h⟩
    obtain ⟨events, hevents, hcall⟩ :=
      processDynamicResponse_onWire d.inner request request.timeoutMs
    exact ⟨rfl, rfl, h.append rfl hevents hcall⟩

end VirtualCcid.Nfc
