import Placard.Config.Schema
import Placard.Main
import Placard.Proofs.Composition
import Placard.Proofs.CleanContext
import Placard.Proofs.Painted
import Placard.Proofs.Ink
import Placard.Proofs.Run
import Placard.Proofs.Built
import Placard.Proofs.Bare
import Placard.Proofs.Kept
import Placard.Proofs.Fields
import Placard.Proofs.RoundTrip
import Placard.Proofs.Footprint
import Placard.Proofs.Leftover
import Placard.Proofs.Union
import Placard.Proofs.Placed
import Placard.Proofs.Hexadecimal
import Placard.Proofs.Chosen
import Placard.Proofs.Order
import Placard.Proofs.Settled
import Placard.Proofs.Pens
import Placard.Proofs.Loaded
import Placard.Proofs.Contained
import Placard.Proofs.Selected
import Placard.Proofs.Warned
import Placard.Proofs.Padded
import Placard.Proofs.Exhibit
import Placard.Proofs.Tones
import Placard.Proofs.Spelling
import Placard.Proofs.Named
