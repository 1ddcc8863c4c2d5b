import HtmlTemplate.CommandLine.FileSystem
import HtmlTemplate.Main
import HtmlTemplate.Proofs.Catalog.Registration
import HtmlTemplate.Proofs.CommandLine.Delivery
import HtmlTemplate.Proofs.Constructor.Collisions
import HtmlTemplate.Proofs.Conversion.Bytes
import HtmlTemplate.Proofs.Conversion.Root
import HtmlTemplate.Proofs.Conversion.Undeclared
import HtmlTemplate.Proofs.Dom.Frame
import HtmlTemplate.Proofs.Dom.Inverse
import HtmlTemplate.Proofs.Dom.Missing
import HtmlTemplate.Proofs.Dom.Moves
import HtmlTemplate.Proofs.Dom.Order
import HtmlTemplate.Proofs.Dom.Run
import HtmlTemplate.Proofs.Dom.Subtree
import HtmlTemplate.Proofs.Dom.TextPieces
import HtmlTemplate.Proofs.Dom.Traversal
import HtmlTemplate.Proofs.Draft.Attributes
import HtmlTemplate.Proofs.Draft.Call
import HtmlTemplate.Proofs.Draft.Contents
import HtmlTemplate.Proofs.Draft.Insertion
import HtmlTemplate.Proofs.Draft.Misplaced
import HtmlTemplate.Proofs.Draft.Reparent
import HtmlTemplate.Proofs.Draft.Roots
import HtmlTemplate.Proofs.Draft.Texts
import HtmlTemplate.Proofs.Encoding.Limit
import HtmlTemplate.Proofs.Encoding.Priority
import HtmlTemplate.Proofs.Encoding.Scan
import HtmlTemplate.Proofs.Encoding.Validity
import HtmlTemplate.Proofs.Literal.Delimiters
import HtmlTemplate.Proofs.Literal.Tag
import HtmlTemplate.Proofs.Rendering.Alike
import HtmlTemplate.Proofs.Rendering.Dangling
import HtmlTemplate.Proofs.Rendering.Locality
import HtmlTemplate.Proofs.Rendering.ReadBack
import HtmlTemplate.Proofs.Rendering.Skipped
import HtmlTemplate.Proofs.Rendering.Visits
