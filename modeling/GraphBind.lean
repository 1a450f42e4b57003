import GraphBind.Datum
import GraphBind.Main
import GraphBind.Proofs.Answer.Contents
import GraphBind.Proofs.Answer.Wording
import GraphBind.Proofs.Checks
import GraphBind.Proofs.Command.Generating
import GraphBind.Proofs.Command.Publishing
import GraphBind.Proofs.Command.Summary
import GraphBind.Proofs.Entries
import GraphBind.Proofs.Exchange.QueryBody
import GraphBind.Proofs.Exchange.Sending
import GraphBind.Proofs.Exchange.WrittenHeaders
import GraphBind.Proofs.FileTree
import GraphBind.Proofs.Introspection.Acceptance
import GraphBind.Proofs.Introspection.Document
import GraphBind.Proofs.Introspection.Form
import GraphBind.Proofs.Introspection.Listing
import GraphBind.Proofs.Introspection.Reading
import GraphBind.Proofs.Introspection.Rewriting
import GraphBind.Proofs.Json.Distinct
import GraphBind.Proofs.Json.LineEnds
import GraphBind.Proofs.Models.AlikeNames
import GraphBind.Proofs.Models.Annotations
import GraphBind.Proofs.Models.Attributes
import GraphBind.Proofs.Models.BoundNames
import GraphBind.Proofs.Models.BoundQueries
import GraphBind.Proofs.Models.Clashes
import GraphBind.Proofs.Models.Comments
import GraphBind.Proofs.Models.Descriptions
import GraphBind.Proofs.Models.Filling
import GraphBind.Proofs.Models.Members
import GraphBind.Proofs.Models.Numbering
import GraphBind.Proofs.Models.QueryMapping
import GraphBind.Proofs.Models.Redescribing
import GraphBind.Proofs.Models.References
import GraphBind.Proofs.Models.SnakeCase
import GraphBind.Proofs.Models.SourceDocstring
import GraphBind.Proofs.Models.Statements
import GraphBind.Proofs.Registry.Closure
import GraphBind.Proofs.Registry.Contents
import GraphBind.Proofs.Registry.Extension
import GraphBind.Proofs.Registry.FirstFault
import GraphBind.Proofs.Registry.Mentions
import GraphBind.Proofs.Schema.Notation
import GraphBind.Proofs.Session.BindingInTurn
import GraphBind.Proofs.Session.Escaping
import GraphBind.Proofs.Session.Gating
import GraphBind.Proofs.Session.Preflight
import GraphBind.Proofs.Session.Provenance
import GraphBind.Proofs.Session.Resending
import GraphBind.Proofs.Session.SavedSchema
import GraphBind.Proofs.Session.Steps
import GraphBind.Proofs.Text.Identifier
import GraphBind.Proofs.Text.Literal
import GraphBind.Proofs.Text.LongLiteral
import GraphBind.Proofs.Text.LongText
import GraphBind.Proofs.Text.Punycode
import GraphBind.Proofs.Text.Trimming
import GraphBind.Proofs.Text.Utf8
import GraphBind.Proofs.Url.DomainName
import GraphBind.Proofs.Url.Host
import GraphBind.Proofs.Value.Image
import GraphBind.Session.Script
