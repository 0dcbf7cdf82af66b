import DataGovernance.Main
import DataGovernance.Proofs.Command.Refinement
import DataGovernance.Proofs.Lineage.Cycles
import DataGovernance.Proofs.Lineage.Impact
import DataGovernance.Proofs.Mutation.Alteration
import DataGovernance.Proofs.Session.Accepted
import DataGovernance.Proofs.Session.Frame
import DataGovernance.Proofs.Session.HandOver
import DataGovernance.Proofs.Session.Independence
import DataGovernance.Proofs.Session.StatusHistory
import DataGovernance.Proofs.Session.LastingGates
import DataGovernance.Proofs.Session.Opening
import DataGovernance.Proofs.Session.Refusal
import DataGovernance.Proofs.Session.ResolutionStamp
import DataGovernance.Proofs.Session.Passage
import DataGovernance.Proofs.Session.Completion
import DataGovernance.Proofs.Snapshot.Figures
import DataGovernance.Proofs.Snapshot.ResolutionTime
import DataGovernance.Proofs.Session.Forecast
import DataGovernance.Proofs.Session.CleanTexts
import DataGovernance.Proofs.Session.Submission
import DataGovernance.Proofs.Lineage.Growth
import DataGovernance.Proofs.Session.Retry
import DataGovernance.Proofs.Rounding.Percentage
import DataGovernance.Proofs.Rounding.ResolutionDays
import DataGovernance.Proofs.Table.Layout
import DataGovernance.Proofs.Table.Colour
import DataGovernance.Proofs.Rounding.MeanScore
import DataGovernance.Proofs.Table.Contents
import DataGovernance.Proofs.Settings.Precedence
