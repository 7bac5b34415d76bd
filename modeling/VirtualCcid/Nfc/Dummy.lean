import VirtualCcid.Nfc.Reader

/-! The dummy backend: a card that is always there and knows one FIDO applet. -/
namespace VirtualCcid.Nfc

def ctap2ErrInvalidCommand : UInt8 := 0x01
def fidoAid : List UInt8 := [0xa0, 0x00, 0x00, 0x06, 0x47, 0x2f, 0x00, 0x01]
def fidoNfcctapMsg : UInt8 := 0x10
def fidoNfcctapGetResponse : UInt8 := 0x11
def fidoNfcctapControl : UInt8 := 0x12
def fidoNfcEndCtapMsg : UInt8 := 0x01
/-- `U2F_V2` in ASCII. -/
def fidoVersionU2fV2 : List UInt8 := [0x55, 0x32, 0x46, 0x5f, 0x56, 0x32]
/-- `FIDO_2_0` in ASCII. -/
def fidoVersion20 : List UInt8 := [0x46, 0x49, 0x44, 0x4f, 0x5f, 0x32, 0x5f, 0x30]
/-- `nfc` in ASCII. -/
def fidoTransportNfc : List UInt8 := [0x6e, 0x66, 0x63]
def dummyAtr : List UInt8 :=
  [0x3b, 0x68, 0x00, 0xff, 0x38, 0x2b, 0x41, 0x52, 0x44, 0x6e, 0x73, 0x73]
def fidoDummyAaguid : List UInt8 :=
  [0x76, 0x75, 0x73, 0x62, 0x69, 0x70, 0x64, 0x2d, 0x63, 0x63, 0x69, 0x64, 0x2d, 0x66, 0x69, 0x64]
def swSuccess : List UInt8 := [0x90, 0x00]
def swInsNotSupported : List UInt8 := [0x6d, 0x00]
def swWrongParameters : List UInt8 := [0x6a, 0x86]
def swWrongLength : List UInt8 := [0x67, 0x00]
def swFileNotFound : List UInt8 := [0x6a, 0x82]

inductive SelectedApplet where
  | none
  | fido
  deriving DecidableEq, Repr

structure DummyReader where
  cardPresent : Bool
  selectedApplet : SelectedApplet
  deriving DecidableEq, Repr

namespace DummyReader

/-- `DummyReaderFactory::open`. -/
def opened : DummyReader := ⟨true, .none⟩

def parseShortApdu (apdu : List UInt8) : Option (UInt8 × UInt8 × UInt8 × UInt8 × List UInt8) :=
  if h : apdu.length < 4 then none
  else
    let cla := apdu[0]
    let ins := apdu[1]
    let p1 := apdu[2]
    let p2 := apdu[3]
    let body := apdu.drop 4
    match body with
    | [] => some (cla, ins, p1, p2, [])
    | [_] => some (cla, ins, p1, p2, [])
    | b :: data =>
      let lc := b.toNat
      if body.length < 1 + lc then none else some (cla, ins, p1, p2, data.take lc)

/-- The assertion of the source is the argument `h`. -/
def encodeText (value : List UInt8) (_h : value.length < 24) : List UInt8 :=
  (0x60 ||| UInt8.ofNat value.length) :: value

def authenticatorGetInfo : List UInt8 :=
  [0xa6]
    ++ [0x01, 0x82] ++ encodeText fidoVersionU2fV2 (by decide)
    ++ encodeText fidoVersion20 (by decide)
    ++ [0x03, 0x50] ++ fidoDummyAaguid
    ++ [0x04, 0xa4] ++ encodeText [0x72, 0x6b] (by decide) ++ [0xf4]
    ++ encodeText [0x75, 0x70] (by decide) ++ [0xf5]
    ++ encodeText [0x70, 0x6c, 0x61, 0x74] (by decide) ++ [0xf4]
    ++ encodeText [0x63, 0x6c, 0x69, 0x65, 0x6e, 0x74, 0x50, 0x69, 0x6e] (by decide) ++ [0xf4]
    ++ [0x05] ++ [0x19, 0x04, 0x00]
    ++ [0x06] ++ [0x81, 0x01]
    ++ [0x09, 0x81] ++ encodeText fidoTransportNfc (by decide)

def ctapSuccess (payload : List UInt8) : List UInt8 := 0x00 :: payload

def ctapError (code : UInt8) : List UInt8 := [code]

def appendStatus (response status : List UInt8) : List UInt8 := response ++ status

def handleCtapMsg (p1 : UInt8) (data : List UInt8) : List UInt8 :=
  if p1 &&& 0x7f ≠ 0 then swWrongParameters
  else
    match data with
    | [] => swWrongLength
    | command :: payload =>
      let response :=
        if command = 0x04 ∧ payload = [] then ctapSuccess authenticatorGetInfo
        else ctapError ctap2ErrInvalidCommand
      appendStatus response swSuccess

def handleApdu (r : DummyReader) (apdu : List UInt8) :
    Except ReaderError (List UInt8) × DummyReader :=
  if !r.cardPresent then (.error (.protocol "no card present in dummy reader"), r)
  else
    match parseShortApdu apdu with
    | none => (.ok swWrongLength, r)
    | some (cla, ins, p1, p2, data) =>
      let isSelect := cla = 0x00 ∧ ins = 0xa4 ∧ p1 = 0x04 ∧ (p2 = 0x00 ∨ p2 = 0x0c)
      if isSelect ∧ data = fidoAid then
        (.ok (appendStatus fidoVersionU2fV2 swSuccess), { r with selectedApplet := .fido })
      else if cla = 0x80 ∧ ins = fidoNfcctapMsg ∧ p2 = 0x00 ∧ r.selectedApplet = .fido then
        (.ok (handleCtapMsg p1 data), r)
      else if cla = 0x80 ∧ ins = fidoNfcctapGetResponse ∧ p1 = 0x00 ∧ p2 = 0x00 ∧
          r.selectedApplet = .fido then
        (.ok swInsNotSupported, r)
      else if cla = 0x80 ∧ ins = fidoNfcctapControl ∧ p1 = fidoNfcEndCtapMsg ∧ p2 = 0x00 ∧
          r.selectedApplet = .fido then
        (.ok swSuccess, { r with selectedApplet := .none })
      else if isSelect then (.ok swFileNotFound, r)
      else (.ok swInsNotSupported, r)

instance : NfcReader DummyReader where
  capabilities _ := ⟨"dummy", true, true⟩
  pollCard r :=
    if r.cardPresent then (.ok (some ⟨[0x01, 0x02, 0x03, 0x04], .isoDep, dummyAtr⟩), r)
    else (.ok none, r)
  powerOff r := (.ok (), { r with selectedApplet := .none })
  exchangeApdu r apdu := r.handleApdu apdu

end DummyReader
end VirtualCcid.Nfc
