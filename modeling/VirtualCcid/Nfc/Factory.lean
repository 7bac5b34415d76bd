import VirtualCcid.Nfc.Pn532

/-! How a PN532 reader is opened: the port is opened, and the device behind it is woken, put in its
normal mode, asked for its firmware version and told how often to retry. -/
namespace VirtualCcid.Nfc

universe u

def rfMaxRetries : List UInt8 := [0x05, 0x00, 0x00, 0x00]

structure Pn532UartConfig where
  port : String
  baudRate : UInt32
  deriving DecidableEq, Repr

structure Pn532UartFactory where
  config : Pn532UartConfig

inductive SamMode where
  | normal
  deriving DecidableEq, Repr

inductive StartRequest where
  | samConfiguration (mode : SamMode) (useIrqPin : Bool)
  | getFirmwareVersion
  deriving DecidableEq, Repr

/-- What is sent to a PN532 at the start only. -/
class Pn532Start (δ : Type*) where
  sendWakeupMessage : δ → Except String Unit × δ
  start : δ → StartRequest → (responseLen timeoutMs : ℕ) → Except Pn532Error (List UInt8) × δ

/-- `map_err` on the result of a call, and `?`: a port whose call has failed is dropped. -/
def tryCall {δ α ε : Type*} (mapErr : ε → ReaderError) : Except ε α × δ →
    Except ReaderError (α × δ)
  | (.error error, _) => .error (mapErr error)
  | (.ok value, d) => .ok (value, d)

variable {δ : Type*} [Pn532Device δ] [Pn532Start δ]

/-- `ports` opens a port by its name, baud rate and timeout in milliseconds. -/
def Pn532UartFactory.open (ports : String → UInt32 → ℕ → Except String δ)
    (factory : Pn532UartFactory) : Except ReaderError (Pn532UartReader δ) := do
  let portName := factory.config.port
  if portName = "" then
    throw (.configuration "PN532 UART port path must not be empty")
  let interface ←
    match ports portName factory.config.baudRate pn532ApduTimeoutMs with
    | .error error => throw (.transport s!"failed to open PN532 UART port {portName}: {error}")
    | .ok interface => pure interface
  let ((), pn532) ← tryCall (fun error => .transport s!"failed to wake PN532 on {portName}: {error}")
    (Pn532Start.sendWakeupMessage interface)
  let (_, pn532) ← tryCall (mapPn532Error "initialize SAM configuration")
    (Pn532Start.start pn532 (.samConfiguration .normal false) 0 pn532InitTimeoutMs)
  let (_firmwareVersion, pn532) ← tryCall (mapPn532Error "read firmware version")
    (Pn532Start.start pn532 .getFirmwareVersion 4 pn532InitTimeoutMs)
  let ((), pn532) ← tryCall (mapPn532Error "configure RF retries")
    (Pn532Device.process pn532 (.rfConfiguration rfMaxRetries) pn532InitTimeoutMs)
  return .opened pn532

/-- The PN532 behind the opened port has taken every step of the start, and come to be `device`. -/
def StartedAs (port device : δ) : Prop :=
  ∃ woken configured answered sam firmwareVersion,
    Pn532Start.sendWakeupMessage port = (.ok (), woken) ∧
    Pn532Start.start woken (.samConfiguration .normal false) 0 pn532InitTimeoutMs =
      (.ok sam, configured) ∧
    Pn532Start.start configured .getFirmwareVersion 4 pn532InitTimeoutMs =
      (.ok firmwareVersion, answered) ∧
    Pn532Device.process answered (.rfConfiguration rfMaxRetries) pn532InitTimeoutMs =
      (.ok (), device)

theorem tryCall_bind_eq_ok {δ β : Type u} {α ε : Type} {mapErr : ε → ReaderError}
    {called : Except ε α × δ} {next : α × δ → Except ReaderError β} {result : β}
    (h : tryCall mapErr called >>= next = .ok result) :
    ∃ value d, called = (.ok value, d) ∧ next (value, d) = .ok result := by
  obtain ⟨outcome, d⟩ := called
  cases outcome with
  | error error => cases h
  | ok value => exact ⟨value, d, rfl, h⟩

theorem tryCall_bind_ne_error {δ β : Type u} {α ε : Type} {mapErr : ε → ReaderError}
    {called : Except ε α × δ} {next : α × δ → Except ReaderError β} {error : ReaderError}
    (hmap : ∀ e, mapErr e ≠ error) (hnext : ∀ value, next value ≠ .error error) :
    tryCall mapErr called >>= next ≠ .error error := by
  obtain ⟨outcome, d⟩ := called
  cases outcome with
  | error e =>
    intro h
    exact hmap e (Except.error.inj h)
  | ok value => exact hnext (value, d)

theorem mapPn532Error_ne_configuration (action message : String) (error : Pn532Error) :
    mapPn532Error action error ≠ .configuration message := by
  cases error <;> simp [mapPn532Error]

theorem Pn532UartFactory.open_ne_configuration (ports : String → UInt32 → ℕ → Except String δ)
    (factory : Pn532UartFactory) (message : String) (hname : factory.config.port ≠ "") :
    factory.open ports ≠ .error (.configuration message) := by
  unfold Pn532UartFactory.open
  rw [if_neg hname]
  cases hport : ports factory.config.port factory.config.baudRate pn532ApduTimeoutMs with
  | error error =>
    intro h
    cases h
  | ok port =>
    simp only [pure_bind]
    have hmapped := fun action => mapPn532Error_ne_configuration action message
    apply tryCall_bind_ne_error (by simp)
    intro woken
    apply tryCall_bind_ne_error (hmapped _)
    intro configured
    apply tryCall_bind_ne_error (hmapped _)
    intro answered
    apply tryCall_bind_ne_error (hmapped _)
    intro device h
    cases h

theorem Pn532UartFactory.open_eq_ok {ports : String → UInt32 → ℕ → Except String δ}
    {factory : Pn532UartFactory} {reader : Pn532UartReader δ}
    (h : factory.open ports = .ok reader) :
    factory.config.port ≠ "" ∧ ∃ port device,
      ports factory.config.port factory.config.baudRate pn532ApduTimeoutMs = .ok port ∧
      StartedAs port device ∧ reader = .opened device := by
  unfold Pn532UartFactory.open at h
  by_cases hname : factory.config.port = ""
  · rw [if_pos hname] at h
    cases h
  rw [if_neg hname] at h
  refine ⟨hname, ?_⟩
  cases hport : ports factory.config.port factory.config.baudRate pn532ApduTimeoutMs with
  | error error =>
    rw [hport] at h
    cases h
  | ok port =>
    rw [hport] at h
    simp only [pure_bind] at h
    obtain ⟨_, woken, hwoken, h⟩ := tryCall_bind_eq_ok h
    obtain ⟨sam, configured, hconfigured, h⟩ := tryCall_bind_eq_ok h
    obtain ⟨firmwareVersion, answered, hanswered, h⟩ := tryCall_bind_eq_ok h
    obtain ⟨_, device, hdevice, h⟩ := tryCall_bind_eq_ok h
    refine ⟨port, device, rfl, ?_, (Except.ok.inj h).symm⟩
    exact ⟨woken, configured, answered, sam, firmwareVersion, hwoken, hconfigured, hanswered, hdevice⟩

end VirtualCcid.Nfc
