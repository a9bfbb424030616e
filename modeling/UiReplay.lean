import UiReplay.Main
import UiReplay.Recording.Poller
import UiReplay.Replay.Rehearsal
import UiReplay.Proofs.Replay.Course
import UiReplay.Proofs.Control.Finality
import UiReplay.Proofs.Replay.Cancellation
import UiReplay.Proofs.Replay.Outcome
import UiReplay.Proofs.Replay.Telling
import UiReplay.Proofs.Number.Numeral
import UiReplay.Proofs.Replay.Pausing
import UiReplay.Proofs.Selector.PathText
import UiReplay.Proofs.Screen.RectText
import UiReplay.Proofs.Selector.OwnNode
import UiReplay.Proofs.Recording.Replayable
import UiReplay.Proofs.Replay.Acceptance
import UiReplay.Proofs.Json.Ordered
import UiReplay.Proofs.Json.Records
import UiReplay.Proofs.Number.Widening
import UiReplay.Proofs.Workflow.Identifier
import UiReplay.Proofs.Workflow.Kept
import UiReplay.Proofs.Workflow.Written
import UiReplay.Proofs.Workflow.Places
import UiReplay.Proofs.Workflow.RoundTrip
import UiReplay.Proofs.Recording.Polling
import UiReplay.Proofs.Recording.Batch
import UiReplay.Proofs.Replay.Recorded
import UiReplay.Proofs.Replay.Stopping
import UiReplay.Proofs.Replay.Skipping
import UiReplay.Proofs.Replay.Forgetting
import UiReplay.Proofs.Workflow.Loading
import UiReplay.Proofs.Selector.Nesting
import UiReplay.Proofs.Replay.Tries
import UiReplay.Proofs.Recording.Gestures
import UiReplay.Proofs.CommandLine.Exit
import UiReplay.Proofs.Replay.Sight
import UiReplay.Proofs.Workflow.InPlace
import UiReplay.Proofs.Workflow.Undoing
import UiReplay.Proofs.Workflow.Describing
import UiReplay.Proofs.Replay.Checked
import UiReplay.Proofs.Replay.Waiting
import UiReplay.Proofs.Screen.Capture
import UiReplay.Proofs.Selector.Position
import UiReplay.Proofs.Selector.ResourceId
import UiReplay.Proofs.Selector.Normalized
import UiReplay.Proofs.Recording.ReadBack
import UiReplay.Proofs.Workflow.Labels
import UiReplay.Proofs.Screen.Listing
import UiReplay.Proofs.Replay.Order
