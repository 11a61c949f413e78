import Countersign.Settings.Document
import Countersign.Proofs.Canonical.Lines
import Countersign.Proofs.Canonical.Path
import Countersign.Proofs.Canonical.QueryOrder
import Countersign.Proofs.Canonical.QueryReading
import Countersign.Proofs.Canonical.Unambiguous
import Countersign.Proofs.ContentType.Fragments
import Countersign.Proofs.ContentType.Reparse
import Countersign.Proofs.Http.Form
import Countersign.Proofs.Settings.Acceptance
import Countersign.Proofs.Settings.Precedence
import Countersign.Proofs.Settings.Shown
import Countersign.Proofs.Signing.Adapter
import Countersign.Proofs.Signing.Again
import Countersign.Proofs.Signing.Agreement
import Countersign.Proofs.Signing.Digits
import Countersign.Proofs.Signing.Host
import Countersign.Proofs.Signing.Material
import Countersign.Proofs.Signing.Modes
import Countersign.Proofs.Signing.QueryBytes
import Countersign.Proofs.Signing.Refusal
import Countersign.Proofs.Signing.Runs
import Countersign.Proofs.Signing.Secret
import Countersign.Proofs.Signing.SentTime
import Countersign.Proofs.Text.Words
