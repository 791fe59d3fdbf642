import SourceAudit.Main
import SourceAudit.Proofs.Asynchrony
import SourceAudit.Proofs.Conservation
import SourceAudit.Proofs.Defaults
import SourceAudit.Proofs.Escaping
import SourceAudit.Proofs.Export
import SourceAudit.Proofs.Families
import SourceAudit.Proofs.Imports
import SourceAudit.Proofs.KeySizes
import SourceAudit.Proofs.OptionFile
import SourceAudit.Proofs.Placement
import SourceAudit.Proofs.Protocols
import SourceAudit.Proofs.SecretNames
import SourceAudit.Proofs.Sections
import SourceAudit.Proofs.Templates
import SourceAudit.Proofs.Traces
import SourceAudit.Report.Sink
import SourceAudit.Rule.Extension
import SourceAudit.Tree.Kind
import SourceAudit.Proofs.Lookup
import SourceAudit.Proofs.Starting
import SourceAudit.Proofs.Snippets
import SourceAudit.Proofs.Extents
import SourceAudit.Proofs.Fillings
import SourceAudit.Proofs.Packages
import SourceAudit.Proofs.Queries
import SourceAudit.Proofs.Ascii
import SourceAudit.Proofs.Feeding
