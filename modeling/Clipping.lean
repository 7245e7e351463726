import Clipping.Log.Template
import Clipping.Main
import Clipping.Proofs.Capture.Inheritance
import Clipping.Proofs.Capture.Locality
import Clipping.Proofs.Checked.Export
import Clipping.Proofs.Faults
import Clipping.Proofs.Markup.Settled
import Clipping.Proofs.Markup.Unambiguous
import Clipping.Proofs.Noise
import Clipping.Proofs.Stylesheet
import Clipping.Proofs.Utility.Ledger
import Clipping.Proofs.Utility.Silence
import Clipping.Proofs.Utility.Splitting
import Clipping.Proofs.Utility.Torn
import Clipping.Session
import Clipping.Proofs.Utility.Covering
import Clipping.Proofs.Utility.Shorthand
import Clipping.Proofs.Capture.Ordering
import Clipping.Proofs.Utility.Explained
import Clipping.Proofs.Utility.Bracketed
import Clipping.Proofs.Utility.Bordered
import Clipping.Proofs.Color.Grammar
import Clipping.Proofs.Utility.Recolored
import Clipping.Proofs.Pixels
import Clipping.Proofs.Tidied
import Clipping.Proofs.Renamed
import Clipping.Proofs.Config.Validation
import Clipping.Proofs.Log.Contexts
