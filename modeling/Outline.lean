import Outline.Main
import Outline.Proofs.Acceptance
import Outline.Proofs.Annotation
import Outline.Proofs.Causality
import Outline.Proofs.Checking
import Outline.Proofs.Chronicle
import Outline.Proofs.CommonSubsequence
import Outline.Proofs.Concatenation
import Outline.Proofs.Containment
import Outline.Proofs.ContentModel
import Outline.Proofs.DeclaredNames
import Outline.Proofs.Exclusion
import Outline.Proofs.Headings
import Outline.Proofs.Histories
import Outline.Proofs.Influence
import Outline.Proofs.LineEnds
import Outline.Proofs.Matching
import Outline.Proofs.Normalisation
import Outline.Proofs.Rejection
import Outline.Proofs.Restoration
import Outline.Proofs.Suggestion
import Outline.Proofs.Walking
