import VirtualCcid.Rust.Std

/-! The reader abstraction the CCID layer works on. A backend is any state type with the four
methods, so a theorem about every backend covers every sequence of results. -/
namespace VirtualCcid.Nfc

inductive CardProtocol where
  | iso14443A
  | iso14443B
  | isoDep
  deriving DecidableEq, Repr

structure CardPresence where
  uid : List UInt8
  protocol : CardProtocol
  historicalBytes : List UInt8
  deriving DecidableEq, Repr

structure ReaderCapabilities where
  name : String
  supportsIsoDep : Bool
  supportsApduExchange : Bool
  deriving DecidableEq, Repr

inductive ReaderError where
  | configuration (message : String)
  | transport (message : String)
  | protocol (message : String)
  | targetLost (message : String)
  | unsupported (message : String)
  | io (message : String)
  deriving DecidableEq, Repr

class NfcReader (ρ : Type*) where
  capabilities : ρ → ReaderCapabilities
  pollCard : ρ → Except ReaderError (Option CardPresence) × ρ
  powerOff : ρ → Except ReaderError Unit × ρ
  exchangeApdu : ρ → List UInt8 → Except ReaderError (List UInt8) × ρ

/-- The scripted reader of the tests: each call takes the next result of its list. -/
structure FakeReader where
  pollResults : List (Except ReaderError (Option CardPresence))
  powerOffResults : List (Except ReaderError Unit)
  exchangeResults : List (Except ReaderError (List UInt8))

instance : NfcReader FakeReader where
  capabilities _ := ⟨"fake", true, true⟩
  pollCard r := (r.pollResults.headD (.ok none), { r with pollResults := r.pollResults.tail })
  powerOff r :=
    (r.powerOffResults.headD (.ok ()), { r with powerOffResults := r.powerOffResults.tail })
  exchangeApdu r _ :=
    (r.exchangeResults.headD (.ok [0x90, 0x00]),
      { r with exchangeResults := r.exchangeResults.tail })

end VirtualCcid.Nfc
