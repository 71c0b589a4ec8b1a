import CommitStore.Main
import CommitStore.Repository.Call
import CommitStore.Proofs.Reachability
import CommitStore.Proofs.Visibility
import CommitStore.Proofs.OpenSession
import CommitStore.Proofs.StoreActions
import CommitStore.Proofs.Resolution
import CommitStore.Proofs.Sweeping
import CommitStore.Proofs.Calls
import CommitStore.Proofs.Effects
import CommitStore.Proofs.SettledCalls
import CommitStore.Proofs.ObjectIds
import CommitStore.Proofs.Replaying
import CommitStore.Proofs.StoredRows
import CommitStore.Proofs.KeepAlive
import CommitStore.Proofs.FailedCalls
import CommitStore.Proofs.FailedSweeps
import CommitStore.Proofs.OpenHistories
import CommitStore.Proofs.CommitTotality
import CommitStore.Proofs.BranchesOnCommits
import CommitStore.Proofs.AcceptedRoots
import CommitStore.Proofs.Patterns
import CommitStore.Proofs.UserReferences
import CommitStore.Proofs.CanonicalText
import CommitStore.Proofs.ObjectGrowth
import CommitStore.Proofs.ObjectGraph
import CommitStore.Proofs.CacheAnswers
import CommitStore.Proofs.WalkOrder
import CommitStore.Proofs.WalkRounds
import CommitStore.Proofs.MergeBases
import CommitStore.Proofs.CachedBases
import CommitStore.Proofs.PinListing
import CommitStore.Proofs.PinRelease
import CommitStore.Proofs.PlainReports
import CommitStore.Proofs.Edits
import CommitStore.Proofs.ReferenceJournal
import CommitStore.Proofs.OpenTransactions
import CommitStore.Proofs.ReferenceIntegrity
import CommitStore.Proofs.LoggedCommits
import CommitStore.Proofs.Durability
import CommitStore.Proofs.SweptVisibility
import CommitStore.Proofs.Hiding
import CommitStore.Proofs.CanonicalValues
import CommitStore.Proofs.CommandRuns
import CommitStore.Proofs.PrefixLookup
import CommitStore.Proofs.MadeCommits
import CommitStore.Proofs.ReplayedEvents
import CommitStore.Proofs.WrittenReferences
import CommitStore.Proofs.BranchCreation
import CommitStore.Proofs.NameGrammar
import CommitStore.Proofs.ReservedNames
import CommitStore.Proofs.SymbolicChains
import CommitStore.Proofs.JournalledWrites
import CommitStore.Proofs.BranchListing
import CommitStore.Proofs.Pinning
import CommitStore.Proofs.Checkout
