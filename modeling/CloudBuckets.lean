import CloudBuckets.Cache.Interleaving
import CloudBuckets.Interleaving
import CloudBuckets.Session.Run
import CloudBuckets.Proofs.Cache.Locks
import CloudBuckets.Proofs.Cache.SharedBuild
import CloudBuckets.Proofs.Cache.Access
import CloudBuckets.Proofs.Calls
import CloudBuckets.Proofs.Session.Steps
import CloudBuckets.Proofs.Session.Evolution
import CloudBuckets.Proofs.Session.Coherence
import CloudBuckets.Proofs.Cache.Waiting
import CloudBuckets.Proofs.Opening
import CloudBuckets.Proofs.Session.Opening
import CloudBuckets.Proofs.Glob.Classes
import CloudBuckets.Proofs.Glob.Expression
import CloudBuckets.Proofs.Glob.Matching
import CloudBuckets.Proofs.Cache.Registration
import CloudBuckets.Proofs.Cache.Progress
import CloudBuckets.Proofs.Cache.Clearing
import CloudBuckets.Proofs.Tracing
import CloudBuckets.Proofs.OpeningEffects
import CloudBuckets.Proofs.Session.OpeningEffects
import CloudBuckets.Proofs.Crowd.Histories
import CloudBuckets.Proofs.Crowd.Mirroring
import CloudBuckets.Proofs.Crowd.Openings
import CloudBuckets.Proofs.Crowd.OrderIndependence
import CloudBuckets.Proofs.Crowd.Sharing
import CloudBuckets.Proofs.Path.Canonical
import CloudBuckets.Proofs.Path.Joining
import CloudBuckets.Proofs.Path.Absolute
import CloudBuckets.Proofs.Path.EmptyComponents
import CloudBuckets.Proofs.Path.WorkingDirectory
import CloudBuckets.Proofs.Path.Locations
import CloudBuckets.Proofs.Path.Names
import CloudBuckets.Proofs.Glob.Acceptance
import CloudBuckets.Proofs.Regex.Locality
import CloudBuckets.Proofs.Regex.Lexemes
import CloudBuckets.Proofs.Regex.Layers
import CloudBuckets.Proofs.Regex.Congruence
import CloudBuckets.Proofs.Glob.Passes
import CloudBuckets.Proofs.Glob.Lexemes
import CloudBuckets.Proofs.Glob.DoubleStar
import CloudBuckets.Proofs.Glob.Slashes
import CloudBuckets.Proofs.Regex.EscapedMembers
import CloudBuckets.Proofs.Glob.EscapedClass
import CloudBuckets.Proofs.Configuration.Overrides
import CloudBuckets.Proofs.RequesterPays
import CloudBuckets.Proofs.Session.Reopening
import CloudBuckets.Proofs.Memo.Program
import CloudBuckets.Proofs.Memo.Plain
import CloudBuckets.Proofs.Memo.Locked
import CloudBuckets.Proofs.Memo.Refinement
import CloudBuckets.Proofs.Configuration.Checks
import CloudBuckets.Proofs.Configuration.Spellings
import CloudBuckets.Proofs.Text.Numeral
import CloudBuckets.Proofs.Configuration.Environment
import CloudBuckets.Proofs.Listing
import CloudBuckets.Proofs.Session.Listing
import CloudBuckets.Proofs.Configuration.Recipes
import CloudBuckets.Proofs.Session.Validity
