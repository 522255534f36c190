import BytePipe.Channel.Settling
import BytePipe.Main
import BytePipe.Pump
import BytePipe.Ring.Lemmas
import BytePipe.Scenario.Run
import BytePipe.Proofs.Ring.Books
import BytePipe.Proofs.Channel.Frame
import BytePipe.Proofs.Channel.Life
import BytePipe.Proofs.Channel.Account
import BytePipe.Proofs.Channel.Fifo
import BytePipe.Proofs.Channel.Sessions
import BytePipe.Proofs.Channel.Sleepers
import BytePipe.Proofs.Channel.Wakeups
import BytePipe.Proofs.Channel.Endings
import BytePipe.Proofs.Channel.Signals
import BytePipe.Proofs.Channel.Interrupts
import BytePipe.Proofs.Channel.Failures
import BytePipe.Proofs.Channel.Observers
import BytePipe.Proofs.Channel.Onward
import BytePipe.Proofs.Channel.Readiness
import BytePipe.Proofs.Channel.Events
import BytePipe.Proofs.Channel.Subscriptions
import BytePipe.Proofs.System.Reached
import BytePipe.Proofs.System.Sessions
import BytePipe.Proofs.System.Numbered
import BytePipe.Proofs.System.Failures
import BytePipe.Proofs.System.Onward
import BytePipe.Proofs.System.Devices
import BytePipe.Proofs.Task.Polling
import BytePipe.Proofs.Task.Waiting
import BytePipe.Proofs.Scenario.Reached
import BytePipe.Proofs.Pump.Steps
import BytePipe.Proofs.Pump.Staff
import BytePipe.Proofs.Pump.Ledger
import BytePipe.Proofs.Pump.Progress
import BytePipe.Proofs.Pump.Start
import BytePipe.Proofs.Pump.Delivery
import BytePipe.Proofs.Copy.Device
import BytePipe.Proofs.Copy.Delivery
import BytePipe.Proofs.Copy.Completion
import BytePipe.Proofs.Channel.Relief
import BytePipe.Proofs.Channel.Line
import BytePipe.Proofs.System.Service
import BytePipe.Proofs.Scenario.Service
import BytePipe.Proofs.Ring.Spans
import BytePipe.Proofs.Channel.Moves
import BytePipe.Proofs.Channel.Spans
import BytePipe.Proofs.Ring.Words
import BytePipe.Proofs.Channel.Words
import BytePipe.Proofs.Channel.Counts
import BytePipe.Proofs.Channel.Bare
import BytePipe.Proofs.System.Bare
import BytePipe.Proofs.Task.Bare
import BytePipe.Proofs.Scenario.Bare
import BytePipe.Proofs.Scenario.Unobserved
import BytePipe.Proofs.Channel.Registrations
import BytePipe.Proofs.Channel.Disturbance
import BytePipe.Proofs.Channel.Modes
import BytePipe.Proofs.Channel.Entries
import BytePipe.Proofs.Channel.Replies
import BytePipe.Proofs.Task.Choice
import BytePipe.Proofs.Task.Entries
import BytePipe.Proofs.Task.Offers
import BytePipe.Proofs.Task.Sending
import BytePipe.Proofs.Channel.Subside
import BytePipe.Proofs.Channel.OneShot
import BytePipe.Proofs.Channel.Waiters
import BytePipe.Proofs.Task.OneShot
import BytePipe.Proofs.Config.Precedence
import BytePipe.Proofs.System.Waiters
