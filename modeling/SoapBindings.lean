import SoapBindings.Main
import SoapBindings.Proofs.Document.Closure
import SoapBindings.Proofs.Document.Ending
import SoapBindings.Proofs.Document.Merging
import SoapBindings.Proofs.Document.Return
import SoapBindings.Proofs.Emission.AttributeTrees
import SoapBindings.Proofs.Emission.Inline
import SoapBindings.Proofs.Emission.Distinct
import SoapBindings.Proofs.Emission.Depth
import SoapBindings.Proofs.Emission.Finite
import SoapBindings.Proofs.Emission.Imports
import SoapBindings.Proofs.Emission.Order
import SoapBindings.Proofs.Emission.Origins
import SoapBindings.Proofs.Emission.Prefixes
import SoapBindings.Proofs.Emission.Records
import SoapBindings.Proofs.Emission.Requests
import SoapBindings.Proofs.Emission.Sequences
import SoapBindings.Proofs.Emission.SimpleContent
import SoapBindings.Proofs.Generation
import SoapBindings.Proofs.Modules
import SoapBindings.Proofs.Search
import SoapBindings.Proofs.WellNamed
import SoapBindings.Soap.Client
import SoapBindings.Proofs.Markup.Passage
import SoapBindings.Proofs.Markup.Scanning
import SoapBindings.Proofs.Soap.Content
import SoapBindings.Proofs.Soap.Framing
import SoapBindings.Proofs.Soap.Faults
import SoapBindings.Proofs.Document.Locality
import SoapBindings.Proofs.Document.Limits
import SoapBindings.Proofs.Markup.Readable
import SoapBindings.Proofs.Markup.Insertion
import SoapBindings.Proofs.Document.Resuming
import SoapBindings.Proofs.Document.Attributes
import SoapBindings.Proofs.Document.Unknown
import SoapBindings.Proofs.Naming.Capitals
import SoapBindings.Proofs.Markup.Declaring
import SoapBindings.Proofs.Emission.Constants
import SoapBindings.Proofs.Soap.Marked
import SoapBindings.Proofs.Naming.Ascii
import SoapBindings.Proofs.Emission.Stacks
import SoapBindings.Proofs.Emission.Members
import SoapBindings.Proofs.Command.Schemas
