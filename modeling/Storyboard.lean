import Storyboard.Batch.Document
import Storyboard.Extraction
import Storyboard.Finding.Document
import Storyboard.Interpretation.Document
import Storyboard.Interpretation.Rules
import Storyboard.Proofs.Batch.Bookkeeping
import Storyboard.Proofs.Batch.Estimate
import Storyboard.Proofs.Batch.Isolation
import Storyboard.Proofs.Batch.Modes
import Storyboard.Proofs.Batch.Provenance
import Storyboard.Proofs.Batch.RowInputs
import Storyboard.Proofs.Batch.Timed
import Storyboard.Proofs.Double.Addition
import Storyboard.Proofs.Extraction.Drift
import Storyboard.Proofs.Extraction.FirstUse
import Storyboard.Proofs.Extraction.Nearest
import Storyboard.Proofs.Extraction.Roles
import Storyboard.Proofs.Extraction.RoundTrip
import Storyboard.Proofs.Extraction.WellFormed
import Storyboard.Proofs.Interpretation.Acceptance
import Storyboard.Proofs.Interpretation.Completion
import Storyboard.Proofs.Interpretation.Confinement
import Storyboard.Proofs.Interpretation.Durations
import Storyboard.Proofs.Interpretation.Mirror
import Storyboard.Proofs.Interpretation.Settlement
import Storyboard.Proofs.Project.Document
import Storyboard.Proofs.Rule.Composition
import Storyboard.Proofs.Rule.Equality
import Storyboard.Proofs.Storage.Atomic
import Storyboard.Proofs.Storage.Confined
import Storyboard.Proofs.Storage.Template
import Storyboard.Proofs.Style.Property
import Storyboard.Proofs.Text.Token
import Storyboard.Proofs.Timeline.TrackOrder
import Storyboard.Proofs.Transcript
import Storyboard.Proofs.Validation.Circles
import Storyboard.Proofs.Validation.Satisfiability
import Storyboard.Rule.Application
import Storyboard.Source.Document
import Storyboard.Storage.Template
import Storyboard.Template.Summary
import Storyboard.Validation.Template
