import VirtualCcid.Runs.Machine
import VirtualCcid.Nfc.Reader
import VirtualCcid.Nfc.ResponseFrame
import VirtualCcid.Nfc.PollCache
import VirtualCcid.Nfc.TargetData
import VirtualCcid.Nfc.ShortApdu
import VirtualCcid.Ccid.BridgeStatus
import VirtualCcid.Ccid.PseudoAtr
import VirtualCcid.Ccid.Session
import VirtualCcid.Ccid.PowerOn
import VirtualCcid.Ccid.PendingAbort
import VirtualCcid.Ccid.Backlog
import VirtualCcid.Ccid.Tearing
import VirtualCcid.Ccid.Answers
import VirtualCcid.Ccid.Representation
import VirtualCcid.Ccid.Leak
import VirtualCcid.Ccid.Alike
import VirtualCcid.Ccid.Codec
import VirtualCcid.Ccid.DummyCard
import VirtualCcid.Usbip.Serial
import VirtualCcid.Usbip.Stack
import VirtualCcid.Usbip.Conversation
import VirtualCcid.Usbip.Stream
import VirtualCcid.App
