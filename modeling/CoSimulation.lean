import CoSimulation.Configuration.Load
import CoSimulation.Deployment
import CoSimulation.Description
import CoSimulation.Exchange
import CoSimulation.Proofs.Binary64.Instant
import CoSimulation.Proofs.EventQueue
import CoSimulation.Proofs.Heap
import CoSimulation.Proofs.Table
import CoSimulation.Report
import CoSimulation.Proofs.Scheduler
import CoSimulation.Proofs.Announcements
import CoSimulation.Proofs.Broker
import CoSimulation.Proofs.Deployment.Assembly
import CoSimulation.Proofs.Conservation.Hosts
import CoSimulation.Proofs.Conservation.Messages
import CoSimulation.Proofs.Housekeeping.Awaiting
import CoSimulation.Proofs.Housekeeping.Stalling
import CoSimulation.Proofs.Lifetimes.Slices
import CoSimulation.Proofs.Deployment.History
import CoSimulation.Proofs.Ownership
import CoSimulation.Proofs.Routing
import CoSimulation.Proofs.Lifetimes.Passes
import CoSimulation.Proofs.RouteOwnership
import CoSimulation.Proofs.Lifecycle.Stages
import CoSimulation.Proofs.Lifecycle.Signals
import CoSimulation.Proofs.Broker.Tickets
import CoSimulation.Proofs.Broker.Locations
import CoSimulation.Proofs.EventQueue.Service
import CoSimulation.Proofs.Isolation
import CoSimulation.Proofs.Arrivals.Sessions
import CoSimulation.Proofs.Runs.Splitting
import CoSimulation.Proofs.Runs.Stopping
import CoSimulation.Proofs.Runs.Repeating
import CoSimulation.Proofs.Workload.Protocol
import CoSimulation.Proofs.Workload.Draining
import CoSimulation.Proofs.Workload.Budgets
import CoSimulation.Proofs.Workload.Sending
import CoSimulation.Proofs.Datacenter.Returning
import CoSimulation.Proofs.Datacenter.WakeUps
import CoSimulation.Proofs.Registry.Placing
import CoSimulation.Proofs.Conservation.Counters
import CoSimulation.Proofs.Deployment.Mirroring
import CoSimulation.Proofs.Configuration.Saving
import CoSimulation.Proofs.Broker.Rotation
