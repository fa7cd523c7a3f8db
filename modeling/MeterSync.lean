import MeterSync.Table
import MeterSync.CellConfig
import MeterSync.Features
import MeterSync.Wire.Entry
import MeterSync.Codec
import MeterSync.Resolution
import MeterSync.Intent
import MeterSync.Shadow
import MeterSync.Client.Submission
import MeterSync.Client.Readout
import MeterSync.Client.Scripted
import MeterSync.Coordinator.Reconciliation
import MeterSync.Coordinator.Description
import MeterSync.Form.Pipeline
import MeterSync.Yaml.Reading
import MeterSync.Form.Configuration
import MeterSync.Form.Report
import MeterSync.Daemon
import MeterSync.LogFormat
import MeterSync.Agent
import MeterSync.Main
import MeterSync.Json.RoundTrip
import MeterSync.Proofs.Wire.Message
import MeterSync.Proofs.Codec.Bands
import MeterSync.Proofs.Resolution
import MeterSync.Proofs.Codec.Keys
import MeterSync.Proofs.Shadow
import MeterSync.Proofs.Simulator
import MeterSync.Proofs.Submission
import MeterSync.Proofs.Coordinator.Processing
import MeterSync.Proofs.Coordinator.Reconciliation
import MeterSync.Proofs.Coordinator.Run
import MeterSync.Proofs.Coherence
import MeterSync.Proofs.Healing
import MeterSync.Client.Recorded
import MeterSync.Proofs.Exactness
import MeterSync.Proofs.Intents
import MeterSync.Proofs.Confirmation
import MeterSync.Proofs.Layout
import MeterSync.Proofs.Convergence
import MeterSync.Proofs.Placement
import MeterSync.Proofs.Daemon
import MeterSync.Proofs.Failures
import MeterSync.Proofs.Representation
import MeterSync.Proofs.Locality
import MeterSync.Proofs.Concurrency.Routine
import MeterSync.Proofs.Concurrency.Access
import MeterSync.Proofs.Concurrency.Requests
import MeterSync.Proofs.Isolation
import MeterSync.Proofs.Commutation
import MeterSync.Proofs.Codec.RoundTrip
import MeterSync.Proofs.Readback
import MeterSync.Proofs.Wire.Transport
import MeterSync.Proofs.Stores
import MeterSync.Proofs.Erasure
import MeterSync.Proofs.Repetition
import MeterSync.Proofs.Statistics
import MeterSync.Proofs.Form.RoundTrip
import MeterSync.Proofs.Codec.Acceptance
import MeterSync.Proofs.Advertisement
import MeterSync.Proofs.Reported
import MeterSync.Proofs.Traffic
import MeterSync.Proofs.Alignment
import MeterSync.Proofs.Batches
import MeterSync.Proofs.Codec.Agreement
import MeterSync.Proofs.Concurrency.Gathering
import MeterSync.Proofs.Passes
import MeterSync.Proofs.Wire.Foreign
import MeterSync.Proofs.Form.Draft
import MeterSync.Proofs.PipelineRules
import MeterSync.Proofs.Installation
