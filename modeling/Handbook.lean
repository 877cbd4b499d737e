import Handbook.Main
import Handbook.Proofs.DocumentUrls
import Handbook.Proofs.Exchanges
import Handbook.Proofs.FencedCode
import Handbook.Proofs.FileNames
import Handbook.Proofs.FilePaths
import Handbook.Proofs.Listings
import Handbook.Proofs.MenuLinks
import Handbook.Proofs.MenuReading
import Handbook.Proofs.Methods
import Handbook.Proofs.Prose
import Handbook.Proofs.RawHtml
import Handbook.Proofs.Reports
import Handbook.Proofs.Separation
import Handbook.Proofs.Sessions
import Handbook.Proofs.Skeletons
