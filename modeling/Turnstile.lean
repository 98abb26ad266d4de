import Turnstile.Function.Remote
import Turnstile.Live.Evaluator
import Turnstile.Store.Memory
import Turnstile.Proofs.Dict
import Turnstile.Proofs.Role.Chain
import Turnstile.Proofs.Role.Graph
import Turnstile.Proofs.Role.Gathering
import Turnstile.Proofs.Role.Collection
import Turnstile.Proofs.Role.Drawing
import Turnstile.Proofs.Role.Meaning
import Turnstile.Proofs.Role.Settlement
import Turnstile.Proofs.Role.Outcome
import Turnstile.Proofs.Regex.Match
import Turnstile.Proofs.Regex.Sequence
import Turnstile.Proofs.Regex.Language
import Turnstile.Proofs.Resource.PrefixTree
import Turnstile.Proofs.Resource.Keys
import Turnstile.Proofs.Resource.Index
import Turnstile.Proofs.Resource.Expression
import Turnstile.Proofs.Resource.Shape
import Turnstile.Proofs.Resource.History
import Turnstile.Proofs.Resource.Anchored
import Turnstile.Proofs.Policy.Cache
import Turnstile.Proofs.Policy.Coverage
import Turnstile.Proofs.Policy.Content
import Turnstile.Proofs.Policy.History
import Turnstile.Proofs.Registry.History
import Turnstile.Proofs.Registry.Freshness
import Turnstile.Proofs.Registry.Contents
import Turnstile.Proofs.Evaluation.Remainder
import Turnstile.Proofs.Evaluation.Inquiry
import Turnstile.Proofs.Evaluation.Applicability
import Turnstile.Proofs.Evaluation.Decision
import Turnstile.Proofs.Evaluation.Compilation
import Turnstile.Proofs.Evaluation.Publication
import Turnstile.Proofs.Store.Contents
import Turnstile.Proofs.Live.Replay
import Turnstile.Proofs.Live.Convergence
import Turnstile.Proofs.Live.Items
import Turnstile.Proofs.Live.Interleaving
import Turnstile.Proofs.Number.Notation
import Turnstile.Proofs.Number.Rounding
import Turnstile.Proofs.Number.Shortest
import Turnstile.Proofs.Json.Text
import Turnstile.Proofs.Function.Computed
import Turnstile.Proofs.Function.Key
import Turnstile.Proofs.Condition.Alike
import Turnstile.Proofs.Condition.Calls
import Turnstile.Proofs.Condition.Steady
import Turnstile.Proofs.Function.Calls
import Turnstile.Proofs.Evaluation.Truth
import Turnstile.Proofs.Evaluation.Trial
import Turnstile.Proofs.Evaluation.Agreement
import Turnstile.Proofs.Evaluation.Independence
import Turnstile.Proofs.Evaluation.Recording
import Turnstile.Proofs.Evaluation.Provenance
import Turnstile.Proofs.Evaluation.Finding
import Turnstile.Proofs.Evaluation.Permissions
import Turnstile.Proofs.Evaluation.Roles
import Turnstile.Proofs.Evaluation.Renaming
import Turnstile.Proofs.Live.Stock
import Turnstile.Proofs.Live.Placing
import Turnstile.Proofs.Live.Matching
import Turnstile.Proofs.Live.Restocking
import Turnstile.Proofs.Live.Relisting
import Turnstile.Proofs.Evaluation.Backing
import Turnstile.Proofs.Registry.Building
import Turnstile.Proofs.Role.Rearrangement
import Turnstile.Proofs.Evaluation.Omission
import Turnstile.Proofs.Function.History
import Turnstile.Proofs.Policy.Groups
import Turnstile.Proofs.Live.Exactness
import Turnstile.Proofs.Role.Search
import Turnstile.Proofs.Role.Rounds
import Turnstile.Proofs.Principal.Encoding
import Turnstile.Proofs.Principal.Presented
import Turnstile.Proofs.Evaluation.Verdict
import Turnstile.Proofs.Evaluation.Chronicle
import Turnstile.Proofs.Evaluation.Explanation
import Turnstile.Proofs.Role.Ancestry
import Turnstile.Proofs.Role.Denial
import Turnstile.Proofs.Function.Purge
import Turnstile.Proofs.Function.Expiry
import Turnstile.Proofs.Resource.Compactness
import Turnstile.Proofs.Json.Ordered
import Turnstile.Proofs.Json.Reading
import Turnstile.Proofs.Json.RoundTrip
import Turnstile.Proofs.Condition.Passage
import Turnstile.Proofs.Condition.Arithmetic
import Turnstile.Proofs.Function.Remote
