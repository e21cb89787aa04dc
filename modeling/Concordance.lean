import Concordance.Main
import Concordance.Settings.Default
import Concordance.Proofs.Session.Superseded
import Concordance.Proofs.Session.MixedPages
import Concordance.Proofs.Session.Uncached
import Concordance.Proofs.Session.CachedPaging
import Concordance.Proofs.Session.Errors
import Concordance.Proofs.Session.Totals
import Concordance.Proofs.Backend.Gateway
import Concordance.Proofs.Session.Export
import Concordance.Proofs.Session.Browsing
import Concordance.Proofs.Hit.Refusal
import Concordance.Proofs.Phrase
import Concordance.Proofs.Query.Meaning
import Concordance.Proofs.Numeral.Integer
import Concordance.Proofs.Text.Pieces
import Concordance.Proofs.TextIds.Runs
import Concordance.Proofs.TextIds.Spelling
import Concordance.Proofs.TextIds.Reading
import Concordance.Proofs.Search.Link
import Concordance.Proofs.Query.Highlighting
import Concordance.Proofs.Session.Window
import Concordance.Proofs.Session.Prefixes
import Concordance.Proofs.Session.CompletionOrder
import Concordance.Proofs.Session.Renewal
import Concordance.Proofs.Query.WellShaped
import Concordance.Proofs.TextIds.Canonical
import Concordance.Proofs.Settings.Safety
import Concordance.Proofs.Session.ForwardExport
import Concordance.Proofs.Session.Refusals
import Concordance.Proofs.Query.Spelling
import Concordance.Proofs.Query.SearchedFields
import Concordance.Proofs.TextIds.Grammar
import Concordance.Proofs.TextIds.Shape
import Concordance.Proofs.TextIds.Shortest
import Concordance.Proofs.Search.Resharing
import Concordance.Proofs.Settings.Layers
import Concordance.Proofs.Backend.Endpoint
import Concordance.Proofs.Session.PageQueries
import Concordance.Proofs.Tokens
import Concordance.Proofs.Root
