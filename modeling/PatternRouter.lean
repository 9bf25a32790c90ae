import PatternRouter.Main
import PatternRouter.Proofs.Certificate.CommonName
import PatternRouter.Proofs.Http.Accounting
import PatternRouter.Proofs.Http.IdentityOff
import PatternRouter.Proofs.Http.Inbound
import PatternRouter.Proofs.Http.Trace
import PatternRouter.Proofs.Pages.Body
import PatternRouter.Proofs.Pages.Table
import PatternRouter.Proofs.Pattern.Extension
import PatternRouter.Proofs.Pattern.Walk
import PatternRouter.Proofs.Query.Form
import PatternRouter.Proofs.Router.Construction
import PatternRouter.Proofs.Settings.Overlay
import PatternRouter.Router.Display
