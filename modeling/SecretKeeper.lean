import SecretKeeper.Main
import SecretKeeper.Object.Definition
import SecretKeeper.Probe
import SecretKeeper.Json.Merge
import SecretKeeper.Simulation.Script
import SecretKeeper.Simulation.Session
import SecretKeeper.Simulation.Terminal
import SecretKeeper.Proofs.Discipline
import SecretKeeper.Proofs.Cluster
import SecretKeeper.Proofs.Interleaving
import SecretKeeper.Proofs.Replay
import SecretKeeper.Proofs.Settling
import SecretKeeper.Proofs.Staleness
import SecretKeeper.Proofs.Convergence
import SecretKeeper.Proofs.Reporting
import SecretKeeper.Proofs.Run
import SecretKeeper.Proofs.Wholeness
import SecretKeeper.Proofs.Triggers
import SecretKeeper.Proofs.Tending
import SecretKeeper.Proofs.Stability
import SecretKeeper.Proofs.Deadline
import SecretKeeper.Proofs.Coherence
import SecretKeeper.Proofs.Recovery
import SecretKeeper.Proofs.Patch
import SecretKeeper.Proofs.Regeneration
import SecretKeeper.Proofs.Apart
import SecretKeeper.Proofs.Backoff
import SecretKeeper.Proofs.Blind
import SecretKeeper.Proofs.Secrecy
import SecretKeeper.Proofs.Calendar
import SecretKeeper.Proofs.Codec
import SecretKeeper.Proofs.StatusPatch
import SecretKeeper.Proofs.Targets
import SecretKeeper.Proofs.ApiServer
import SecretKeeper.Proofs.Mirror
import SecretKeeper.Proofs.Production
import SecretKeeper.Proofs.Provenance
import SecretKeeper.Proofs.Observation
import SecretKeeper.Proofs.Accounting
import SecretKeeper.Proofs.Stream
import SecretKeeper.Proofs.Fairness
import SecretKeeper.Proofs.Contents
import SecretKeeper.Proofs.Admission
import SecretKeeper.Proofs.Delays
import SecretKeeper.Proofs.Handling
import SecretKeeper.Proofs.Chronicle
import SecretKeeper.Proofs.Belonging
import SecretKeeper.Proofs.Consent
import SecretKeeper.Proofs.Likeness
import SecretKeeper.Proofs.Masking
import SecretKeeper.Proofs.Discretion
import SecretKeeper.Proofs.Untraced
import SecretKeeper.Proofs.Tracing
import SecretKeeper.Proofs.Rendering
import SecretKeeper.Proofs.Widening
import SecretKeeper.Proofs.Legibility
import SecretKeeper.Proofs.Publication
import SecretKeeper.Proofs.Agreement
