import JobWorker.Duration.Reading
import JobWorker.Job.Document
import JobWorker.Job.Variables
import JobWorker.Request.Document
import JobWorker.Text.Utf8
import JobWorker.Event
import JobWorker.Gateway.Scripted
import JobWorker.Receipt
import JobWorker.Activation
import JobWorker.Handler.Plan
import JobWorker.Worker.Loops
import JobWorker.Session
import JobWorker.Url
import JobWorker.Rest.Stub
import JobWorker.Main
import JobWorker.Worker.Moves
import JobWorker.Worker.Crew
import JobWorker.Worker.Wish
import JobWorker.Activation.Attempt
import JobWorker.Proofs.Worker.Backpressure
import JobWorker.Proofs.Worker.Delivery
import JobWorker.Proofs.Worker.Closing
import JobWorker.Proofs.Worker.Turns
import JobWorker.Proofs.Worker.Restraint
import JobWorker.Proofs.Worker.Wakeup
import JobWorker.Proofs.Gateway.Answers
import JobWorker.Proofs.Gateway.Conservation
import JobWorker.Proofs.Activation.Once
import JobWorker.Proofs.Worker.Deeds
import JobWorker.Proofs.Session.Draining
import JobWorker.Proofs.Settings.Accepted
import JobWorker.Proofs.Settings.Lease
import JobWorker.Proofs.Settings.Refused
import JobWorker.Proofs.Settings.Agreement
import JobWorker.Proofs.Worker.Settling
import JobWorker.Proofs.Worker.Receipts
import JobWorker.Proofs.Session.Shutdown
import JobWorker.Proofs.Session.Outcomes
import JobWorker.Proofs.Documents
import JobWorker.Proofs.Rest.Surviving
import JobWorker.Proofs.Rest.Decoding
import JobWorker.Proofs.Cli.Verdicts
import JobWorker.Proofs.Rest.Encoding
import JobWorker.Proofs.JobKey.Fields
import JobWorker.Proofs.Duration.Wire
import JobWorker.Proofs.Cli.Opening
import JobWorker.Proofs.Json.Within
import JobWorker.Proofs.Job.Variables
import JobWorker.Proofs.Settings.Environment
import JobWorker.Proofs.Rest.Outcomes
import JobWorker.Proofs.Cli.Activated
