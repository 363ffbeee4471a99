import Gamebook.Main
import Gamebook.Save.Directory
import Gamebook.Save.Request
import Gamebook.State.Draft
import Gamebook.State.Merge
import Gamebook.Story.Graph
import Gamebook.Proofs.Outcome
import Gamebook.Proofs.Table
import Gamebook.Proofs.Effect.Change
import Gamebook.Proofs.Play.Taking
import Gamebook.Proofs.Effect.StatusList
import Gamebook.Proofs.Effect.Altering
import Gamebook.Proofs.Play.Moving
import Gamebook.Proofs.Play.Lawful
import Gamebook.Proofs.Story.Loading
import Gamebook.Proofs.Number.Rounding
import Gamebook.Proofs.Play.Progress
import Gamebook.Proofs.Failing
import Gamebook.Proofs.Play.Path
import Gamebook.Proofs.Play.Refusal
import Gamebook.Proofs.State.Restoring
import Gamebook.Proofs.Play.Sound
import Gamebook.Proofs.Save.Store
import Gamebook.Proofs.Play.Showing
import Gamebook.Proofs.Play.Persisting
import Gamebook.Proofs.Play.Untouched
import Gamebook.Proofs.Condition.OrderBlind
import Gamebook.Proofs.Condition.Predicates
import Gamebook.Proofs.Json.Strings
import Gamebook.Proofs.Number.Decimal
import Gamebook.Proofs.Json.Numerals
import Gamebook.Proofs.Value.Plain
import Gamebook.Proofs.Json.Scalars
import Gamebook.Proofs.Json.RoundTrip
import Gamebook.Proofs.Time.Saved
import Gamebook.Proofs.State.Saving
import Gamebook.Proofs.Story.Plain
import Gamebook.Proofs.Value.Shown
import Gamebook.Proofs.Play.Keeping
import Gamebook.Proofs.Save.Holding
import Gamebook.Proofs.Play.Starting
import Gamebook.Proofs.Dice.Returning
import Gamebook.Proofs.Play.Replay
import Gamebook.Proofs.Play.Writing
import Gamebook.Proofs.State.Rereading
import Gamebook.Proofs.Play.Serving
import Gamebook.Proofs.Play.Reloading
import Gamebook.Proofs.Json.Extent
import Gamebook.Proofs.Play.Apart
import Gamebook.Proofs.State.Refusing
import Gamebook.Proofs.Play.Listing
import Gamebook.Proofs.Story.Checked
import Gamebook.Proofs.Play.Checked
import Gamebook.Proofs.Play.Preview
import Gamebook.Proofs.Dice.Modifying
import Gamebook.Proofs.Effect.Breaking
import Gamebook.Proofs.Play.Escape
import Gamebook.Proofs.Condition.Parsing
import Gamebook.Proofs.State.Unchecked
import Gamebook.Proofs.State.Stopping
import Gamebook.Proofs.Play.Resuming
import Gamebook.Proofs.Effect.Skipping
import Gamebook.Proofs.Play.Gating
import Gamebook.Proofs.Play.Foreseeing
import Gamebook.Proofs.Text.Answers
import Gamebook.Proofs.State.Oversized
import Gamebook.Proofs.Play.Beginning
import Gamebook.Proofs.Play.Continuing
import Gamebook.Proofs.Cli.Talking
import Gamebook.Proofs.Cli.Answering
import Gamebook.Proofs.Cli.Session
import Gamebook.Proofs.Effect.Editing
import Gamebook.Proofs.Effect.Commuting
import Gamebook.Proofs.Effect.Wording
import Gamebook.Proofs.Story.Reporting
import Gamebook.Proofs.Story.Supporting
import Gamebook.Proofs.Play.Reported
import Gamebook.Proofs.Story.Reaching
import Gamebook.Proofs.Play.Reaching
import Gamebook.Proofs.Dice.Reading
import Gamebook.Proofs.Story.Readable
import Gamebook.Proofs.Effect.Lifetime
import Gamebook.Proofs.Play.Lifetime
import Gamebook.Proofs.Dice.Rendering
import Gamebook.Proofs.Dice.Language
import Gamebook.Proofs.Dice.Rolling
import Gamebook.Proofs.Number.Overflowing
import Gamebook.Proofs.Number.Clashing
import Gamebook.Proofs.Number.Halving
import Gamebook.Proofs.Dice.Checking
import Gamebook.Proofs.Condition.Connectives
import Gamebook.Proofs.Condition.Viewing
import Gamebook.Proofs.Condition.Lists
import Gamebook.Proofs.Condition.Notations
import Gamebook.Proofs.Condition.Calculating
import Gamebook.Proofs.Condition.Asking
import Gamebook.Proofs.Condition.Evaluating
import Gamebook.Proofs.Condition.Ending
import Gamebook.Proofs.State.Visits
import Gamebook.Proofs.State.Merging
import Gamebook.Proofs.Save.Mapping
import Gamebook.Proofs.Save.Language
import Gamebook.Proofs.Effect.StatusMap
