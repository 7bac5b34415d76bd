import VirtualCcid.Nfc.Dummy
import VirtualCcid.Usbip.Serial

/-! The application: the command line chooses a backend, whose reader is opened and exported. -/
namespace VirtualCcid
open Rust Nfc Ccid Usbip Runs

inductive ReaderBackend where
  | pn532Uart
  | dummy
  deriving DecidableEq, Repr

structure Cli where
  backend : ReaderBackend
  serialPort : String
  serialBaudRate : UInt32
  deriving DecidableEq, Repr

inductive ReaderConfig where
  | pn532Uart (config : Pn532UartConfig)
  | dummy
  deriving DecidableEq, Repr

structure AppConfig where
  reader : ReaderConfig
  deriving DecidableEq, Repr

/-- `char::is_whitespace`: the characters with the property `White_Space`. -/
def isWhitespace (c : Char) : Bool :=
  let n := c.toNat
  (0x09 ≤ n ∧ n ≤ 0x0d) || n == 0x20 || n == 0x85 || n == 0xa0 || n == 0x1680 ||
    (0x2000 ≤ n ∧ n ≤ 0x200a) || n == 0x2028 || n == 0x2029 || n == 0x202f || n == 0x205f ||
    n == 0x3000

/-- `trim().is_empty()`. -/
def isBlank (s : String) : Bool := s.toList.all isWhitespace

def AppConfig.tryFrom (cli : Cli) : Except String AppConfig :=
  match cli.backend with
  | .pn532Uart =>
    if isBlank cli.serialPort then
      .error "--serial-port must be provided for the pn532-uart backend"
    else .ok ⟨.pn532Uart ⟨cli.serialPort, cli.serialBaudRate⟩⟩
  | .dummy => .ok ⟨.dummy⟩

structure Application where
  config : AppConfig

inductive ServedDevice (δ : Type*) where
  | pn532Uart (device : UsbDevice (CcidBridge (Pn532UartReader δ)))
  | dummy (device : UsbDevice (CcidBridge DummyReader))

variable {δ : Type*} [Pn532Device δ] [Pn532Start δ]

def Application.run (ports : String → UInt32 → ℕ → Except String δ) (app : Application) :
    Except ReaderError (ServedDevice δ) :=
  match app.config.reader with
  | .pn532Uart config =>
    match Pn532UartFactory.open ports ⟨config⟩ with
    | .error error => .error error
    | .ok reader => .ok (.pn532Uart (buildVirtualCcidDevice (.new reader)))
  | .dummy => .ok (.dummy (buildVirtualCcidDevice (.new .opened)))

inductive StartError where
  | cli (message : String)
  | reader (error : ReaderError)

def main (ports : String → UInt32 → ℕ → Except String δ) (cli : Cli) :
    Except StartError (ServedDevice δ) :=
  match AppConfig.tryFrom cli with
  | .error message => .error (.cli message)
  | .ok config =>
    match Application.run ports ⟨config⟩ with
    | .error error => .error (.reader error)
    | .ok device => .ok device

theorem AppConfig.tryFrom_pn532Uart {cli : Cli} {config : Pn532UartConfig}
    (h : AppConfig.tryFrom cli = .ok ⟨.pn532Uart config⟩) :
    isBlank cli.serialPort = false ∧ config = ⟨cli.serialPort, cli.serialBaudRate⟩ := by
  unfold AppConfig.tryFrom at h
  split at h
  · split at h
    · cases h
    · next hblank =>
      cases h
      exact ⟨Bool.not_eq_true _ ▸ hblank, rfl⟩
  · cases h

theorem Application.run_pn532Uart {ports : String → UInt32 → ℕ → Except String δ}
    {app : Application} {served : UsbDevice (CcidBridge (Pn532UartReader δ))}
    (h : app.run ports = .ok (.pn532Uart served)) :
    ∃ config reader, app.config = ⟨.pn532Uart config⟩ ∧
      Pn532UartFactory.open ports ⟨config⟩ = .ok reader ∧
      served = buildVirtualCcidDevice (.new reader) := by
  unfold Application.run at h
  split at h
  · next config hconfig =>
    split at h
    · cases h
    · next reader hopen =>
      cases h
      exact ⟨config, reader, congrArg AppConfig.mk hconfig, hopen, rfl⟩
  · cases h

theorem Application.run_error {ports : String → UInt32 → ℕ → Except String δ} {app : Application}
    {error : ReaderError} (h : app.run ports = .error error) :
    ∃ config, app.config = ⟨.pn532Uart config⟩ ∧
      Pn532UartFactory.open ports ⟨config⟩ = .error error := by
  unfold Application.run at h
  split at h
  · next config hconfig =>
    split at h
    · next hopen =>
      cases h
      exact ⟨config, congrArg AppConfig.mk hconfig, hopen⟩
    · cases h
  · cases h

theorem main_exports {ports : String → UInt32 → ℕ → Except String δ} {cli : Cli}
    {served : UsbDevice (CcidBridge (Pn532UartReader δ))}
    (h : main ports cli = .ok (.pn532Uart served)) :
    isBlank cli.serialPort = false ∧ ∃ port device,
      ports cli.serialPort cli.serialBaudRate pn532ApduTimeoutMs = .ok port ∧
      StartedAs port device ∧ served = exportedReader device := by
  unfold main at h
  split at h
  · cases h
  next config hconfig =>
  split at h
  · cases h
  next device hrun =>
  obtain rfl := Except.ok.inj h
  obtain ⟨uart, reader, hreader, hopen, rfl⟩ := Application.run_pn532Uart hrun
  obtain rfl : config = ⟨.pn532Uart uart⟩ := hreader
  obtain ⟨hblank, rfl⟩ := AppConfig.tryFrom_pn532Uart hconfig
  obtain ⟨-, port, device, hport, hstarted, rfl⟩ := Pn532UartFactory.open_eq_ok hopen
  exact ⟨hblank, port, device, hport, hstarted, rfl⟩

/-- The served device replies as the recorded one over the PN532 that the start has left. -/
theorem served_replies (usb : UsbIp) {ports : String → UInt32 → ℕ → Except String δ} {cli : Cli}
    {served : UsbDevice (CcidBridge (Pn532UartReader δ))}
    (h : main ports cli = .ok (.pn532Uart served)) :
    ∃ port device, ports cli.serialPort cli.serialBaudRate pn532ApduTimeoutMs = .ok port ∧
      StartedAs port device ∧ ∀ requests,
        ((usbMachine usb _).history served requests).map Event.output =
          ((usbMachine usb (Pn532Bridge δ)).history (exported device) requests).map
            Event.output := by
  obtain ⟨-, port, device, hport, hstarted, rfl⟩ := main_exports h
  refine ⟨port, device, hport, hstarted, fun requests => ?_⟩
  have hrecorded : (⟨device, []⟩ : RecordedDevice δ).inner = device := rfl
  exact (replies_alike (recorder_alike δ) usb hrecorded requests).1.symm

/-- A command line that is accepted does not fail for the configuration of its reader. -/
theorem main_ne_configuration (ports : String → UInt32 → ℕ → Except String δ) (cli : Cli)
    (message : String) : main ports cli ≠ .error (.reader (.configuration message)) := by
  intro h
  unfold main at h
  split at h
  · cases h
  next config hconfig =>
  split at h
  · next error hrun =>
    obtain rfl := StartError.reader.inj (Except.error.inj h)
    obtain ⟨uart, hreader, hopen⟩ := Application.run_error hrun
    obtain rfl : config = ⟨.pn532Uart uart⟩ := hreader
    obtain ⟨hblank, rfl⟩ := AppConfig.tryFrom_pn532Uart hconfig
    have hname : cli.serialPort ≠ "" := by
      intro hempty
      simp [hempty, isBlank] at hblank
    exact Pn532UartFactory.open_ne_configuration _ _ _ hname hopen
  · cases h

section OnPort
variable {π : Type*} [SerialPort π] [Pn532Start π]

def startEvents (sam firmwareVersion : List UInt8) : List PortEvent :=
  [.wokenUp (.ok ()), .started (.samConfiguration .normal false) (.ok sam),
    .started .getFirmwareVersion (.ok firmwareVersion),
    .processed (.rfConfiguration rfMaxRetries) (.ok ())]

theorem calls_of_started {port device : RecordedPort π} (h : StartedAs port device) :
    ∃ sam firmwareVersion, device.calls = port.calls ++ startEvents sam firmwareVersion := by
  obtain ⟨woken, configured, answered, sam, firmwareVersion, hwoken, hconfigured, hanswered,
    hdevice⟩ := h
  refine ⟨sam, firmwareVersion, ?_⟩
  rw [call_calls hdevice, call_calls hanswered, call_calls hconfigured, call_calls hwoken]
  simp [startEvents]

/-- If the application comes to serve a PN532, its port has a name that is not blank, and has seen the
start succeed and then, whatever hosts ask for, commands of the reader only. -/
theorem served_on_wire (usb : UsbIp) {ports : String → UInt32 → ℕ → Except String (RecordedPort π)}
    (hports : ∀ name baudRate timeoutMs port, ports name baudRate timeoutMs = .ok port →
      port.calls = [])
    {cli : Cli} {served : UsbDevice (CcidBridge (Pn532UartReader (RecordedPort π)))}
    (hmain : main ports cli = .ok (.pn532Uart served))
    {h : List (Event (UsbDevice (CcidBridge (Pn532UartReader (RecordedPort π)))) UsbRequest UsbReply)}
    {d : UsbDevice (CcidBridge (Pn532UartReader (RecordedPort π)))}
    (hr : Run (usbMachine usb (CcidBridge (Pn532UartReader (RecordedPort π)))) served h d) :
    isBlank cli.serialPort = false ∧ ∃ sam firmwareVersion commands parts,
      List.Forall₂ OnWire commands parts ∧
      d.transport.bridge.value.reader.pn532.calls =
        startEvents sam firmwareVersion ++ parts.flatten := by
  obtain ⟨hblank, port, device, hport, hstarted, rfl⟩ := main_exports hmain
  obtain ⟨sam, firmwareVersion, hcalls⟩ := calls_of_started hstarted
  rw [hports _ _ _ _ hport, List.nil_append] at hcalls
  have hrecorded : (⟨device, []⟩ : RecordedDevice (RecordedPort π)).inner = device := rfl
  have hsame := (replies_alike (recorder_alike _) usb hrecorded (h.map Event.input)).2
  obtain ⟨parts, hparts, hevents⟩ := run_on_wire
    (Machine.run_of_inputs (usbMachine usb (Pn532Bridge (RecordedPort π))) (exported device)
      (h.map Event.input))
  rw [hcalls] at hevents
  rw [hr.of_inputs.2]
  exact ⟨hblank, sam, firmwareVersion, _, parts, hparts, hsame ▸ hevents⟩

instance : Pn532Start PromptPort where
  sendWakeupMessage p := (.ok (), p)
  start p
    | .samConfiguration .., _, _ => (.ok [], p)
    | .getFirmwareVersion, _, _ => (.ok [0x32, 0x01, 0x06, 0x07], p)

def promptPorts : String → UInt32 → ℕ → Except String (RecordedPort PromptPort) :=
  fun _ _ _ => .ok ⟨promptPort, []⟩

theorem block_served_on_wire :
    ∃ served, main promptPorts ⟨.pn532Uart, "COM6", 115200⟩ = .ok (.pn532Uart served) ∧
      ∃ sam firmwareVersion commands parts, List.Forall₂ OnWire commands parts ∧
        ((usbMachine .standard (CcidBridge (Pn532UartReader (RecordedPort PromptPort)))).final served
          blockCalls).transport.bridge.value.reader.pn532.calls =
            startEvents sam firmwareVersion ++ parts.flatten := by
  have hports : ∀ name baudRate timeoutMs port,
      promptPorts name baudRate timeoutMs = .ok port → port.calls = [] := by
    intro name baudRate timeoutMs port hport
    cases hport
    rfl
  have hblank : isBlank "COM6" = false := by decide +kernel
  obtain ⟨served, hmain⟩ : ∃ served,
      main promptPorts ⟨.pn532Uart, "COM6", 115200⟩ = .ok (.pn532Uart served) := by
    simp only [main, AppConfig.tryFrom, hblank, Application.run, Pn532UartFactory.open]
    exact ⟨_, rfl⟩
  refine ⟨served, hmain, ?_⟩
  exact (served_on_wire .standard hports hmain (Machine.run_of_inputs _ _ blockCalls)).2

end OnPort

end VirtualCcid
