import ClusterRouting.Address.Numeric
import ClusterRouting.Json.Reader
import ClusterRouting.Json.Writer
import ClusterRouting.Settings.Serial
import ClusterRouting.Simulation.Scene
import ClusterRouting.Proofs.Course
import ClusterRouting.Proofs.Callers
import ClusterRouting.Proofs.Flight
import ClusterRouting.Proofs.SingleFlight
import ClusterRouting.Proofs.Accounts
import ClusterRouting.Proofs.Purges
import ClusterRouting.Proofs.Legs
import ClusterRouting.Proofs.Failures
import ClusterRouting.Proofs.Requests
import ClusterRouting.Proofs.Closing
import ClusterRouting.Proofs.Retries
import ClusterRouting.Proofs.Contacts
import ClusterRouting.Proofs.Trails
import ClusterRouting.Proofs.Passes
import ClusterRouting.Proofs.Losses
import ClusterRouting.Proofs.Histories
import ClusterRouting.Proofs.Uses
import ClusterRouting.Proofs.Expiry
import ClusterRouting.Proofs.Consultations
import ClusterRouting.Proofs.Renewals
import ClusterRouting.Proofs.Rosters
import ClusterRouting.Proofs.Updates
import ClusterRouting.Proofs.Readings
import ClusterRouting.Proofs.Diaries
import ClusterRouting.Proofs.Delays
import ClusterRouting.Proofs.Pauses
import ClusterRouting.Proofs.Deadlines
import ClusterRouting.Proofs.Rotations
import ClusterRouting.Proofs.Loads
import ClusterRouting.Proofs.Uris
import ClusterRouting.Proofs.Agents
import ClusterRouting.Proofs.Fields
