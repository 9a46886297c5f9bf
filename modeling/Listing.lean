import Listing.Column.Description
import Listing.Main
import Listing.Proofs.Column.Matching
import Listing.Proofs.Console.Filter
import Listing.Proofs.Console.Layout
import Listing.Proofs.Console.Run
import Listing.Proofs.Fetch.Notices
import Listing.Proofs.Fetch.Orderings
import Listing.Proofs.Fetch.Provenance
import Listing.Proofs.Fetch.Watching
import Listing.Proofs.Query.Items
import Listing.Proofs.Query.JsonForm
import Listing.Proofs.Query.KeyGrammar
import Listing.Proofs.Query.Numeral
import Listing.Proofs.Query.WireForm
import Listing.Proofs.Server.Paging
import Listing.Proofs.Server.RequestUrl
import Listing.Proofs.Server.Row
import Listing.Proofs.Server.Sane
import Listing.Proofs.Table.Form
import Listing.Proofs.Table.PageNumber
import Listing.Proofs.Table.Patches
import Listing.Proofs.Table.Reload
import Listing.Proofs.Table.Settled
