import Concordance.Main
import Concordance.Proofs.Cluster.Choice
import Concordance.Proofs.Cluster.Membership
import Concordance.Service.Command
import Concordance.Service.Search
import Concordance.Service.Query
import Concordance.Wire.Cluster
import Concordance.Wire.Documents
import Concordance.Wire.Settings
import Concordance.Proofs.Cluster.Counters
import Concordance.Proofs.Cluster.Holders
import Concordance.Proofs.Service.Step
import Concordance.Proofs.Service.Conservation
import Concordance.Proofs.Service.Spreading
import Concordance.Proofs.Binary64.Nearest
import Concordance.Proofs.Binary64.Rounding
import Concordance.Proofs.Binary64.Packing
import Concordance.Proofs.Binary64.Arithmetic
import Concordance.Proofs.Binary64.Range
import Concordance.Proofs.Binary64.Nonneg
import Concordance.Proofs.Binary64.Order
import Concordance.Proofs.Profile.UnitRange
import Concordance.Proofs.Binary64.Reordering
import Concordance.Proofs.Profile.Checked
import Concordance.Proofs.Profile.Symmetry
import Concordance.Proofs.Profile.SameWeights
import Concordance.Proofs.Profile.CosineLaw
import Concordance.Proofs.Profile.Refusal
import Concordance.Proofs.Service.Failure
import Concordance.Proofs.Service.Safety
import Concordance.Proofs.Service.AliveOnly
import Concordance.Proofs.Binary64.Naturals
import Concordance.Proofs.Analysis.PureFactory
import Concordance.Proofs.Document.Tallies
import Concordance.Proofs.Document.Facets
import Concordance.Proofs.Service.BagOfWords
import Concordance.Proofs.Binary64.PowerBounds
import Concordance.Proofs.Profile.Counted
import Concordance.Proofs.Document.Counts
import Concordance.Proofs.Profile.Ranked
import Concordance.Proofs.Service.Ranking
import Concordance.Proofs.Service.CountedWords
import Concordance.Proofs.Analysis.Recorded
import Concordance.Proofs.Document.Lookups
import Concordance.Proofs.Document.History
import Concordance.Proofs.Settings.Peers
import Concordance.Proofs.Service.MemberHistory
import Concordance.Proofs.Service.Memoization
import Concordance.Proofs.Cluster.LeastOffer
import Concordance.Proofs.Profile.Standings
import Concordance.Proofs.Service.LoadViews
import Concordance.Proofs.Wire.RoundTrip
import Concordance.Proofs.Cluster.Ring
import Concordance.Proofs.Binary64.ExactSums
import Concordance.Proofs.Document.Contributions
import Concordance.Proofs.Document.Frequencies
import Concordance.Proofs.Words.MaximalRuns
import Concordance.Proofs.Words.Normalizing
import Concordance.Proofs.Words.Joining
import Concordance.Proofs.Analysis.EnglishForms
import Concordance.Proofs.Analysis.RussianForms
import Concordance.Proofs.Analysis.Alphabets
import Concordance.Proofs.Profile.Apart
import Concordance.Proofs.Document.AcrossLanguages
import Concordance.Proofs.Profile.Insertion
import Concordance.Proofs.Profile.Reordered
import Concordance.Proofs.Binary64.Patterns
import Concordance.Proofs.Profile.SelfProduct
import Concordance.Proofs.Cluster.EndpointText
import Concordance.Proofs.Settings.PeerText
