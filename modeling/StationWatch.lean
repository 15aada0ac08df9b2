import StationWatch.Main
import StationWatch.Proofs.Address
import StationWatch.Proofs.Asking
import StationWatch.Proofs.Attempts
import StationWatch.Proofs.Cadence
import StationWatch.Proofs.Capitals
import StationWatch.Proofs.Concealment
import StationWatch.Proofs.Delimiters
import StationWatch.Proofs.Doubles
import StationWatch.Proofs.Entries
import StationWatch.Proofs.Escapes
import StationWatch.Proofs.Exchange
import StationWatch.Proofs.Exclusion
import StationWatch.Proofs.Exits
import StationWatch.Proofs.Fields
import StationWatch.Proofs.Filters
import StationWatch.Proofs.Identifiers
import StationWatch.Proofs.Jobs
import StationWatch.Proofs.LatestValues
import StationWatch.Proofs.Leaving
import StationWatch.Proofs.Life
import StationWatch.Proofs.Lifetimes
import StationWatch.Proofs.Names
import StationWatch.Proofs.Nearest
import StationWatch.Proofs.Numerals
import StationWatch.Proofs.Onward
import StationWatch.Proofs.Operations
import StationWatch.Proofs.Outcomes
import StationWatch.Proofs.PathOptions
import StationWatch.Proofs.Places
import StationWatch.Proofs.Polling
import StationWatch.Proofs.Publication
import StationWatch.Proofs.Readings
import StationWatch.Proofs.Refusal
import StationWatch.Proofs.Registrations
import StationWatch.Proofs.Resolution
import StationWatch.Proofs.Retrying
import StationWatch.Proofs.Scheduling
import StationWatch.Proofs.Selection
import StationWatch.Proofs.TimeLimits
import StationWatch.Proofs.Tokens
import StationWatch.Proofs.Trace
import StationWatch.Proofs.WholeDoubles
