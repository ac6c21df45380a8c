import DocSearch.Settings.Load
import DocSearch.Workspace
import DocSearch.Proofs.Aggregation.Engine
import DocSearch.Proofs.Matching
import DocSearch.Proofs.Building
import DocSearch.Proofs.Hits
import DocSearch.Proofs.Workspace
import DocSearch.Proofs.Scrolling
import DocSearch.Proofs.Posting
import DocSearch.Proofs.Aggregation.Depth
import DocSearch.Proofs.Sending
import DocSearch.Proofs.Failing
import DocSearch.Proofs.Requesting
import DocSearch.Proofs.Naming
import DocSearch.Proofs.Delivering
import DocSearch.Proofs.Rotation
import DocSearch.Proofs.Simulation
import DocSearch.Proofs.Addressing
import DocSearch.Proofs.Credentials
import DocSearch.Proofs.Aggregation.Keyed
import DocSearch.Proofs.Aggregation.Results
import DocSearch.Proofs.Aggregation.Defects
import DocSearch.Proofs.Answers
import DocSearch.Proofs.Settings.Layering
import DocSearch.Proofs.Settings.Loading
import DocSearch.Proofs.Settings.Scalars
import DocSearch.Proofs.Settings.Environment
import DocSearch.Proofs.Settings.Hosts
import DocSearch.Proofs.Aggregation.Faithful
import DocSearch.Proofs.Fragments
import DocSearch.Proofs.Paging
import DocSearch.Proofs.Calendar.Reading
import DocSearch.Proofs.Calendar.Instants
import DocSearch.Proofs.KeepAlive
import DocSearch.Proofs.Sorting
import DocSearch.Proofs.ClauseLog
import DocSearch.Proofs.Settings.File
import DocSearch.Proofs.EqualExpressions
import DocSearch.Proofs.FieldSets
import DocSearch.Proofs.ClauseNames
import DocSearch.Proofs.ClauseGrammar
