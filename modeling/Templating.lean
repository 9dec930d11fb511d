import Templating.Main
import Templating.Proofs.Acyclic
import Templating.Proofs.Concatenation
import Templating.Proofs.Coverage
import Templating.Proofs.Cursor
import Templating.Proofs.Dispatch
import Templating.Proofs.DocumentFaults
import Templating.Proofs.Elements
import Templating.Proofs.History
import Templating.Proofs.Independence
import Templating.Proofs.Inlining
import Templating.Proofs.Inverted
import Templating.Proofs.Kinds
import Templating.Proofs.LeadingThis
import Templating.Proofs.LineColumn
import Templating.Proofs.Lookup
import Templating.Proofs.Mentions
import Templating.Proofs.Nesting
import Templating.Proofs.Origin
import Templating.Proofs.Outline
import Templating.Proofs.Overrides
import Templating.Proofs.Parsed
import Templating.Proofs.PartialTable
import Templating.Proofs.Places
import Templating.Proofs.Printable
import Templating.Proofs.Recut
import Templating.Proofs.Sections
import Templating.Proofs.Spacing
import Templating.Proofs.Weakening
import Templating.Proofs.FileFaults
