import StreamLoad.Main
import StreamLoad.Proofs.Frame.Codec
import StreamLoad.Proofs.Frame.Cut
import StreamLoad.Proofs.Payload.OneShot
import StreamLoad.Proofs.Payload.Breakage
import StreamLoad.Proofs.Payload.Copies
import StreamLoad.Proofs.Drawing
import StreamLoad.Proofs.Run.Range
import StreamLoad.Proofs.Session.WritePattern
import StreamLoad.Proofs.Session.Unheard
import StreamLoad.Proofs.Session.Hangup
import StreamLoad.Proofs.Session.Counting
import StreamLoad.Proofs.Run.Standalone
import StreamLoad.Proofs.Run.Accounting
import StreamLoad.Proofs.Run.Figures
import StreamLoad.Proofs.Exit
