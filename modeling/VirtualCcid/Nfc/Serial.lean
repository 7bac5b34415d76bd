import VirtualCcid.Nfc.ResponseFrame

/-! The serial port of the PN532: a command is sent, its acknowledgement and its response are waited
for, and the response frame is read from the port. -/
namespace VirtualCcid.Nfc
open Rust Reading

/-- What is used of a serial port, of the `pn532` crate on it and of the clock. A read returns
`incoming` bytes as long as there are any, then fails with `readError`; the port is left with those
that were not read. The clock does not go back, and a sleep is no shorter than asked for. -/
class SerialPort (π : Type*) where
  now : π → ℕ × π
  sleep : π → (duration : ℕ) → π
  bytesToRead : π → Except String ℕ × π
  send : π → Request → Except Pn532Error Unit × π
  receiveAck : π → Except Pn532Error Unit × π
  process : π → Request → (timeoutMs : ℕ) → Except Pn532Error Unit × π
  incoming : π → List UInt8
  readError : π → String
  leave : π → (unread : List UInt8) → π
  clock : π → ℕ
  clock_le_now : ∀ p, clock p ≤ (now p).1
  now_le_clock : ∀ p, (now p).1 ≤ clock (now p).2
  clock_le_bytesToRead : ∀ p, clock p ≤ clock (bytesToRead p).2
  clock_le_sleep : ∀ p duration, clock p + duration ≤ clock (sleep p duration)

def Request.command : Request → UInt8
  | .rfConfiguration _ => 0x32
  | .inListOneIsoATarget => 0x4a
  | .inDataExchange _ => 0x40

variable {π : Type*} [SerialPort π]

/-- The loop of `wait_serial_ready`, for so many turns. -/
def waitLoop (deadline : ℕ) : ℕ → π → Except (Fault String) Bool × π
  | 0, p => (.error .diverge, p)
  | fuel + 1, p =>
    let (now, p) := SerialPort.now p
    if now < deadline then
      match SerialPort.bytesToRead p with
      | (.error message, p) => (.error (.error message), p)
      | (.ok available, p) =>
        if available > 0 then (.ok true, p)
        else waitLoop deadline fuel (SerialPort.sleep p (fromMillis 5))
    else (.ok false, p)

/-- Every turn sleeps for five milliseconds, so a loop that turns more often than these fit into the
time would never end. -/
def waitSerialReady (p : π) (timeoutMs : ℕ) : Except (Fault String) Bool × π :=
  let (now, p) := SerialPort.now p
  waitLoop (now + fromMillis timeoutMs) (timeoutMs / 5 + 2) p

/-- A read of the port fails with its own error, not with that of a byte slice. -/
def portError (message : String) : Except (Fault Pn532Error) (List UInt8) →
    Except (Fault Pn532Error) (List UInt8)
  | .error (.error (.interfaceError _)) => .error (.error (.interfaceError message))
  | result => result

def receiveDynamicResponse (p : π) (expectedResponseCommand : UInt8) :
    Except (Fault Pn532Error) (List UInt8) × π :=
  let (result, unread) :=
    (receiveDynamicResponseFrom expectedResponseCommand).run (SerialPort.incoming p)
  (portError (SerialPort.readError p) result, SerialPort.leave p unread)

/-- `map_err(Pn532Error::InterfaceError)`. -/
def interfaceFault : Fault String → Fault Pn532Error
  | .error message => .error (.interfaceError message)
  | .panic panic => .panic panic
  | .diverge => .diverge

omit [SerialPort π] in
/-- `if !ready.map_err(Pn532Error::InterfaceError)? { return Err(late) }`, and what follows it. -/
def whenReady (waited : Except (Fault String) Bool × π) (late : Pn532Error)
    (next : π → Except (Fault Pn532Error) (List UInt8) × π) :
    Except (Fault Pn532Error) (List UInt8) × π :=
  match waited with
  | (.error fault, p) => (.error (interfaceFault fault), p)
  | (.ok false, p) => (.error (.error late), p)
  | (.ok true, p) => next p

def processDynamicResponse (p : π) (request : Request) (timeoutMs : ℕ) :
    Except (Fault Pn532Error) (List UInt8) × π :=
  let expectedResponseCommand := request.command + 1
  match SerialPort.send p request with
  | (.error error, p) => (.error (.error error), p)
  | (.ok (), p) =>
    whenReady (waitSerialReady p timeoutMs) .timeoutAck fun p =>
      match SerialPort.receiveAck p with
      | (.error error, p) => (.error (.error error), p)
      | (.ok (), p) =>
        whenReady (waitSerialReady p timeoutMs) .timeoutResponse fun p =>
          receiveDynamicResponse p expectedResponseCommand

/-- Checks of the port that find nothing before the deadline, each with a sleep behind it. -/
inductive Idles (deadline : ℕ) : ℕ → π → π → Prop
  | none (p : π) : Idles deadline 0 p p
  | check {count : ℕ} {p p' : π} : (SerialPort.now p).1 < deadline →
      (SerialPort.bytesToRead (SerialPort.now p).2).1 = .ok 0 →
      Idles deadline count
        (SerialPort.sleep (SerialPort.bytesToRead (SerialPort.now p).2).2 (fromMillis 5)) p' →
      Idles deadline (count + 1) p p'

/-- How a wait ends behind its idle turns: a check finds bytes or fails before the deadline, or the
deadline has passed. -/
inductive WaitEnds (deadline : ℕ) : π → Except (Fault String) Bool × π → Prop
  | ready {p p' : π} {available : ℕ} : (SerialPort.now p).1 < deadline →
      SerialPort.bytesToRead (SerialPort.now p).2 = (.ok available, p') → 0 < available →
      WaitEnds deadline p (.ok true, p')
  | failed {p p' : π} {message : String} : (SerialPort.now p).1 < deadline →
      SerialPort.bytesToRead (SerialPort.now p).2 = (.error message, p') →
      WaitEnds deadline p (.error (.error message), p')
  | expired {p : π} : deadline ≤ (SerialPort.now p).1 →
      WaitEnds deadline p (.ok false, (SerialPort.now p).2)

theorem clock_le_turn (p : π) :
    SerialPort.clock p + fromMillis 5 ≤ SerialPort.clock (SerialPort.sleep
      (SerialPort.bytesToRead (SerialPort.now p).2).2 (fromMillis 5)) := by
  have hnow := SerialPort.clock_le_now p
  have hread := SerialPort.now_le_clock p
  have hcheck := SerialPort.clock_le_bytesToRead (SerialPort.now p).2
  have hsleep := SerialPort.clock_le_sleep (SerialPort.bytesToRead (SerialPort.now p).2).2
    (fromMillis 5)
  omega

/-- With a turn for every sleep that fits before the deadline, the loop ends. -/
theorem waitLoop_ends {deadline fuel : ℕ} {p : π}
    (h : deadline ≤ SerialPort.clock p + fuel * fromMillis 5) :
    ∃ count p', count ≤ fuel ∧ Idles deadline count p p' ∧
      WaitEnds deadline p' (waitLoop deadline (fuel + 1) p) := by
  induction fuel generalizing p with
  | zero =>
    have hnow := SerialPort.clock_le_now p
    have hlate : ¬ (SerialPort.now p).1 < deadline := by omega
    have hloop : waitLoop deadline 1 p = (.ok false, (SerialPort.now p).2) := by
      simp only [waitLoop, hlate, if_false]
    rw [hloop]
    exact ⟨0, p, Nat.le_refl 0, .none p, .expired (by omega)⟩
  | succ fuel ih =>
    by_cases hearly : (SerialPort.now p).1 < deadline
    · obtain ⟨result, p₁, hcheck⟩ :
        ∃ result p₁, SerialPort.bytesToRead (SerialPort.now p).2 = (result, p₁) := ⟨_, _, rfl⟩
      cases result with
      | error message =>
        have hloop : waitLoop deadline (fuel + 2) p = (.error (.error message), p₁) := by
          rw [waitLoop]
          simp only [hearly, hcheck, if_true]
        rw [hloop]
        exact ⟨0, p, Nat.zero_le _, .none p, .failed hearly hcheck⟩
      | ok available =>
        by_cases hfound : available > 0
        · have hloop : waitLoop deadline (fuel + 2) p = (.ok true, p₁) := by
            rw [waitLoop]
            simp only [hearly, hcheck, hfound, if_true]
          rw [hloop]
          exact ⟨0, p, Nat.zero_le _, .none p, .ready hearly hcheck hfound⟩
        · have hloop : waitLoop deadline (fuel + 2) p =
              waitLoop deadline (fuel + 1) (SerialPort.sleep p₁ (fromMillis 5)) := by
            rw [waitLoop]
            simp only [hearly, hcheck, hfound, if_true, if_false]
          have hturn := clock_le_turn p
          rw [hcheck] at hturn
          have hleft : deadline ≤
              SerialPort.clock (SerialPort.sleep p₁ (fromMillis 5)) + fuel * fromMillis 5 := by
            have hmul : (fuel + 1) * fromMillis 5 = fuel * fromMillis 5 + fromMillis 5 :=
              Nat.succ_mul _ _
            dsimp only at hturn
            omega
          obtain ⟨count, p', hcount, hidles, hends⟩ := ih hleft
          rw [hloop]
          refine ⟨count + 1, p', Nat.succ_le_succ hcount, .check hearly ?_ ?_, hends⟩
          · rw [hcheck]
            obtain rfl : available = 0 := by omega
            rfl
          · rw [hcheck]
            exact hidles
    · have hloop : waitLoop deadline (fuel + 2) p = (.ok false, (SerialPort.now p).2) := by
        rw [waitLoop]
        simp only [hearly, if_false]
      rw [hloop]
      exact ⟨0, p, Nat.zero_le _, .none p, .expired (by omega)⟩

/-- A wait ends for a reason, after no more idle turns than sleeps fit into its time: every check
finds nothing until one finds bytes or fails, or until the time has passed. -/
theorem wait_serial_ready (p : π) (timeoutMs : ℕ) :
    let deadline := (SerialPort.now p).1 + fromMillis timeoutMs
    ∃ count p', count ≤ timeoutMs / 5 + 1 ∧ Idles deadline count (SerialPort.now p).2 p' ∧
      WaitEnds deadline p' (waitSerialReady p timeoutMs) := by
  intro deadline
  apply waitLoop_ends
  have hstart := SerialPort.now_le_clock p
  have hfits : fromMillis timeoutMs ≤ (timeoutMs / 5 + 1) * fromMillis 5 := by
    unfold fromMillis
    omega
  omega

section Arriving

/-- From states with `I` on, the bytes waited for are there from `arrival` on: checks do not fail,
and a turn of the loop takes no longer than `turn`. -/
structure Arriving (I : π → Prop) (arrival turn : ℕ) : Prop where
  now : ∀ p, I p → I (SerialPort.now p).2
  bytesToRead : ∀ p, I p → I (SerialPort.bytesToRead p).2
  idle : ∀ p, I p → (SerialPort.bytesToRead p).1 = .ok 0 →
    I (SerialPort.sleep (SerialPort.bytesToRead p).2 (fromMillis 5))
  available : ∀ p, I p → ∃ available, (SerialPort.bytesToRead p).1 = .ok available ∧
    (arrival ≤ SerialPort.clock p → 0 < available)
  turn : ∀ p, I p → SerialPort.clock (SerialPort.sleep
    (SerialPort.bytesToRead (SerialPort.now p).2).2 (fromMillis 5)) ≤ SerialPort.clock p + turn

variable {I : π → Prop} {arrival turn deadline : ℕ}

theorem Arriving.now_le_turn (a : Arriving I arrival turn) {p : π} (hp : I p) :
    SerialPort.clock (SerialPort.now p).2 ≤ SerialPort.clock p + turn := by
  have hcheck := SerialPort.clock_le_bytesToRead (SerialPort.now p).2
  have hsleep := SerialPort.clock_le_sleep (SerialPort.bytesToRead (SerialPort.now p).2).2
    (fromMillis 5)
  have hturn := a.turn p hp
  omega

theorem Arriving.idles (a : Arriving I arrival turn) (hdeadline : arrival + 2 * turn ≤ deadline)
    {count : ℕ} {p p' : π} (h : Idles deadline count p p') (hp : I p)
    (hearly : SerialPort.clock p + turn < deadline) :
    I p' ∧ SerialPort.clock p' + turn < deadline := by
  induction h with
  | none p => exact ⟨hp, hearly⟩
  | @check count p p' _ hnone _ ih =>
    have hnow := a.now p hp
    obtain ⟨available, hresult, harrived⟩ := a.available _ hnow
    obtain rfl : available = 0 := Except.ok.inj (hresult.symm.trans hnone)
    have hbefore : SerialPort.clock (SerialPort.now p).2 < arrival := by
      by_contra hlate
      have hpositive := harrived (Nat.le_of_not_lt hlate)
      omega
    have hread := SerialPort.clock_le_now p
    have hclock := SerialPort.now_le_clock p
    have hturn := a.turn p hp
    exact ih (a.idle _ hnow hnone) (by omega)

/-- Bytes that arrive two turns before the time is up are not missed. -/
theorem Arriving.found (a : Arriving I arrival turn) {p : π} (hp : I p) {timeoutMs : ℕ}
    (htimeout : 2 * turn < fromMillis timeoutMs)
    (harrival : arrival + 2 * turn ≤ (SerialPort.now p).1 + fromMillis timeoutMs) :
    ∃ p', waitSerialReady p timeoutMs = (.ok true, p') ∧ I p' := by
  obtain ⟨count, p', -, hidles, hends⟩ := wait_serial_ready p timeoutMs
  have hstart := a.now_le_turn hp
  have hnow := SerialPort.clock_le_now p
  obtain ⟨hp', hearly⟩ := a.idles harrival hidles (a.now p hp) (by omega)
  have hread := a.now_le_turn hp'
  have hclock := SerialPort.now_le_clock p'
  obtain ⟨available, hresult, -⟩ := a.available _ (a.now p' hp')
  generalize waitSerialReady p timeoutMs = ended at hends ⊢
  cases hends with
  | ready _ hcheck _ =>
    have hafter := a.bytesToRead _ (a.now p' hp')
    rw [hcheck] at hafter
    exact ⟨_, rfl, hafter⟩
  | failed _ hcheck =>
    rw [hcheck] at hresult
    cases hresult
  | expired hlate => omega

end Arriving

theorem receiveDynamicResponseFrom_ends (c : UInt8) : (receiveDynamicResponseFrom c).Ends := by
  have hlength : ∀ header, (receiveFrameLen header).Ends := by
    intro header
    refine (ends_eval _).bind fun mark => Ends.ite ?_ ?_
    · exact (ends_readExact _ _).bind fun extended => (ends_eval _).bind fun high =>
        (ends_eval _).bind fun low => (ends_eval _).bind fun lcs =>
          (ends_fail _).ite (ends_pure _)
    · exact (ends_eval _).bind fun frameLen => (ends_eval _).bind fun lcs =>
        (ends_fail _).ite (ends_pure _)
  have hpayload : ∀ frame, (framePayload frame c).Ends := by
    intro frame
    refine (ends_eval _).bind fun last => (ends_fail _).ite ?_
    refine (ends_eval _).bind fun tfi => (ends_eval _).bind fun code => (ends_fail _).ite ?_
    exact (ends_eval _).bind fun summed => (ends_fail _).ite (ends_eval _)
  have hframe : ∀ frameLen, (receiveFrame c frameLen).Ends := fun frameLen =>
    (ends_fail _).ite ((ends_fail _).ite ((ends_readExact _ _).bind hpayload))
  exact (ends_readExact _ _).bind fun header => (ends_eval _).bind fun start =>
    (ends_fail _).ite ((hlength header).bind hframe)

theorem portError_eq_ok_iff {message : String} {result : Except (Fault Pn532Error) (List UInt8)}
    {payload : List UInt8} : portError message result = .ok payload ↔ result = .ok payload := by
  unfold portError
  split
  · constructor
    · intro h
      cases h
    · intro h
      cases h
  · exact Iff.rfl

theorem receiveDynamicResponse_returns (p : π) (c : UInt8) :
    (∀ panic, (receiveDynamicResponse p c).1 ≠ .error (.panic panic)) ∧
      (receiveDynamicResponse p c).1 ≠ .error .diverge := by
  have hsafe := receiveDynamicResponseFrom_safe c (SerialPort.incoming p)
  have hends := receiveDynamicResponseFrom_ends c (SerialPort.incoming p)
  unfold receiveDynamicResponse
  dsimp only
  unfold portError
  split
  · constructor
    · intro panic h
      cases h
    · intro h
      cases h
  · exact ⟨hsafe, hends⟩

theorem waitSerialReady_returns (p : π) (timeoutMs : ℕ) :
    ∃ p', waitSerialReady p timeoutMs = (.ok true, p') ∨
      waitSerialReady p timeoutMs = (.ok false, p') ∨
      ∃ message, waitSerialReady p timeoutMs = (.error (.error message), p') := by
  obtain ⟨_, _, -, -, hends⟩ := wait_serial_ready p timeoutMs
  generalize waitSerialReady p timeoutMs = ended at hends ⊢
  cases hends with
  | ready => exact ⟨_, Or.inl rfl⟩
  | failed => exact ⟨_, Or.inr (Or.inr ⟨_, rfl⟩)⟩
  | expired => exact ⟨_, Or.inr (Or.inl rfl)⟩

/-- How a command goes on the port: it is sent, acknowledged and answered, or one of these fails. -/
inductive Commanded (p : π) (request : Request) (timeoutMs : ℕ) :
    Except (Fault Pn532Error) (List UInt8) × π → Prop
  | unsent {error : Pn532Error} {p₁ : π} : SerialPort.send p request = (.error error, p₁) →
      Commanded p request timeoutMs (.error (.error error), p₁)
  | unacknowledged {error : Pn532Error} {waited : Except (Fault String) Bool} {p₁ p₂ : π} :
      SerialPort.send p request = (.ok (), p₁) → waitSerialReady p₁ timeoutMs = (waited, p₂) →
      (waited = .ok false ∧ error = .timeoutAck ∨
        ∃ message, waited = .error (.error message) ∧ error = .interfaceError message) →
      Commanded p request timeoutMs (.error (.error error), p₂)
  | refused {error : Pn532Error} {p₁ p₂ p₃ : π} : SerialPort.send p request = (.ok (), p₁) →
      waitSerialReady p₁ timeoutMs = (.ok true, p₂) →
      SerialPort.receiveAck p₂ = (.error error, p₃) →
      Commanded p request timeoutMs (.error (.error error), p₃)
  | unanswered {error : Pn532Error} {waited : Except (Fault String) Bool} {p₁ p₂ p₃ p₄ : π} :
      SerialPort.send p request = (.ok (), p₁) → waitSerialReady p₁ timeoutMs = (.ok true, p₂) →
      SerialPort.receiveAck p₂ = (.ok (), p₃) → waitSerialReady p₃ timeoutMs = (waited, p₄) →
      (waited = .ok false ∧ error = .timeoutResponse ∨
        ∃ message, waited = .error (.error message) ∧ error = .interfaceError message) →
      Commanded p request timeoutMs (.error (.error error), p₄)
  | received {p₁ p₂ p₃ p₄ : π} : SerialPort.send p request = (.ok (), p₁) →
      waitSerialReady p₁ timeoutMs = (.ok true, p₂) → SerialPort.receiveAck p₂ = (.ok (), p₃) →
      waitSerialReady p₃ timeoutMs = (.ok true, p₄) →
      Commanded p request timeoutMs (receiveDynamicResponse p₄ (request.command + 1))

theorem processDynamicResponse_commanded (p : π) (request : Request) (timeoutMs : ℕ) :
    Commanded p request timeoutMs (processDynamicResponse p request timeoutMs) := by
  unfold processDynamicResponse
  generalize hsend : SerialPort.send p request = sent
  obtain ⟨result, p₁⟩ := sent
  cases result with
  | error error => exact .unsent hsend
  | ok =>
    dsimp only
    obtain ⟨p₂, hwait | hwait | ⟨message, hwait⟩⟩ := waitSerialReady_returns p₁ timeoutMs
    · rw [hwait, whenReady]
      generalize hack : SerialPort.receiveAck p₂ = acknowledged
      obtain ⟨ack, p₃⟩ := acknowledged
      cases ack with
      | error error => exact .refused hsend hwait hack
      | ok =>
        dsimp only
        obtain ⟨p₄, hwait' | hwait' | ⟨message, hwait'⟩⟩ := waitSerialReady_returns p₃ timeoutMs
        · rw [hwait', whenReady]
          exact .received hsend hwait hack hwait'
        · rw [hwait', whenReady]
          exact .unanswered hsend hwait hack hwait' (Or.inl ⟨rfl, rfl⟩)
        · rw [hwait', whenReady]
          exact .unanswered hsend hwait hack hwait' (Or.inr ⟨message, rfl, rfl⟩)
    · rw [hwait, whenReady]
      exact .unacknowledged hsend hwait (Or.inl ⟨rfl, rfl⟩)
    · rw [hwait, whenReady]
      exact .unacknowledged hsend hwait (Or.inr ⟨message, rfl, rfl⟩)

theorem processDynamicResponse_returns (p : π) (request : Request) (timeoutMs : ℕ) :
    (∀ panic, (processDynamicResponse p request timeoutMs).1 ≠ .error (.panic panic)) ∧
      (processDynamicResponse p request timeoutMs).1 ≠ .error .diverge := by
  have h := processDynamicResponse_commanded p request timeoutMs
  generalize processDynamicResponse p request timeoutMs = answered at h
  cases h with
  | unsent | unacknowledged | refused | unanswered =>
    constructor
    · intro panic h
      cases h
    · intro h
      cases h
  | @received p₁ p₂ p₃ p₄ =>
    exact receiveDynamicResponse_returns p₄ (request.command + 1)

/-- The PN532 behind a serial port. -/
instance (priority := low) serialDevice : Pn532Device π where
  now := SerialPort.now
  process := SerialPort.process
  processDynamicResponse p request timeoutMs :=
    (outcome (processDynamicResponse p request timeoutMs).1
      (processDynamicResponse_returns p request timeoutMs).1
      (processDynamicResponse_returns p request timeoutMs).2,
      (processDynamicResponse p request timeoutMs).2)

end VirtualCcid.Nfc
