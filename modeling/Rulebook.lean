import Rulebook.Main
import Rulebook.Proofs.Cache.History
import Rulebook.Proofs.Document.Reading
import Rulebook.Proofs.Loading.Chain
import Rulebook.Proofs.Rule.Merge
import Rulebook.Proofs.Classification.Recalling
import Rulebook.Proofs.Path
import Rulebook.Proofs.Manager.Query
import Rulebook.Proofs.Manager.Session
import Rulebook.Proofs.Manager.Context
import Rulebook.Proofs.Cache.Sharing
import Rulebook.Proofs.Pattern.Lookbehind
import Rulebook.Proofs.Pattern.Reading
import Rulebook.Proofs.Pattern.Failure
import Rulebook.Proofs.Rule.Answer
import Rulebook.Proofs.Manager.Loading
import Rulebook.Proofs.Loading.Repetition
import Rulebook.Proofs.Manager.Repetition
import Rulebook.Proofs.Cache.Database
import Rulebook.Proofs.Loading.Disk
import Rulebook.Proofs.Yaml.Tree
import Rulebook.Proofs.Document.Writing
import Rulebook.Proofs.Rule.Export
import Rulebook.Proofs.Document.Place
import Rulebook.Proofs.Document.Acceptance
import Rulebook.Proofs.Decimal.Comparison
import Rulebook.Proofs.Cache.Refinement
import Rulebook.Proofs.Cache.Attempts
import Rulebook.Proofs.Loading.Attempts
import Rulebook.Proofs.Manager.Attempts
import Rulebook.Proofs.Decimal.Exact
import Rulebook.Proofs.Cache.Freshness
import Rulebook.Proofs.Manager.Keeping
import Rulebook.Proofs.Sorting.Stable
import Rulebook.Proofs.Classification.Confidence
import Rulebook.Proofs.Rule.Regrouping
import Rulebook.Proofs.Document.Resaving
import Rulebook.Proofs.Classification.History
import Rulebook.Proofs.Classification.Status
import Rulebook.Proofs.UpdateCheck
import Rulebook.Proofs.Program
import Rulebook.Proofs.Cache.Loss
import Rulebook.Proofs.Cache.Coded
import Rulebook.Proofs.Loading.Folder
import Rulebook.Proofs.Text.Replace
