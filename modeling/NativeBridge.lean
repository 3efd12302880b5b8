import NativeBridge.Proofs.Custody.Release
import NativeBridge.Proofs.Identity
import NativeBridge.Proofs.Threads.Join
import NativeBridge.Proofs.Threads.Operations
import NativeBridge.Proofs.Threads.Progress
import NativeBridge.Proofs.Threads.Synchronous
import NativeBridge.Proofs.Threads.WakeUp
import NativeBridge.Proofs.Unwinding.Call
import NativeBridge.Scenario.Dispatchers
import NativeBridge.Scenario.Libraries
import NativeBridge.Scenario.LoopThread
import NativeBridge.Scenario.Ownership
import NativeBridge.Scenario.TwoThreads
import NativeBridge.Scenario.Values
import NativeBridge.Settled
import NativeBridge.Proofs.Tasks.Batches
import NativeBridge.Proofs.Tasks.Operations
import NativeBridge.Proofs.Tasks.Order
import NativeBridge.Proofs.Tasks.Shutdown
import NativeBridge.Proofs.Callbacks.Machine
import NativeBridge.Proofs.Callbacks.Outcome
import NativeBridge.Proofs.Callbacks.Operations
import NativeBridge.Proofs.Calls.Work
import NativeBridge.Proofs.Calls.Kept
import NativeBridge.Proofs.Calls.Readback
import NativeBridge.Proofs.Calls.Blind
import NativeBridge.Proofs.Calls.Request
import NativeBridge.Proofs.Calls.Batch
import NativeBridge.Proofs.Closures.Machine
import NativeBridge.Proofs.Closures.Holders
import NativeBridge.Proofs.Closures.Sound
import NativeBridge.Proofs.Closures.Operations
import NativeBridge.Proofs.Closures.Lifetime
import NativeBridge.Proofs.Calls.Wrapping
import NativeBridge.Proofs.Descriptor.Grammar
import NativeBridge.Proofs.Descriptor.RoundTrip
import NativeBridge.Proofs.Evolution.Booked
import NativeBridge.Proofs.Evolution.Replies
import NativeBridge.Proofs.Failure.Calls
import NativeBridge.Proofs.Failure.Course
import NativeBridge.Proofs.Failure.Handles
import NativeBridge.Proofs.Failure.Minted
import NativeBridge.Proofs.Handles
import NativeBridge.Proofs.Ownership.Pointers
import NativeBridge.Proofs.Ownership.Results
import NativeBridge.Proofs.Ownership.Uptake
import NativeBridge.Proofs.Configuration
import NativeBridge.Proofs.Number.Order
import NativeBridge.Proofs.Number.Conversion
import NativeBridge.Proofs.Number.Exact
import NativeBridge.Proofs.Native.Blocks
import NativeBridge.Proofs.Native.Scalars
import NativeBridge.Proofs.Answers.Ordering
import NativeBridge.Proofs.Answers.Buffer
import NativeBridge.Proofs.Native.Strings
import NativeBridge.Proofs.Ownership.Delivery
import NativeBridge.Proofs.Native.Lists
import NativeBridge.Proofs.Native.Fields
import NativeBridge.Proofs.Native.Acceptance
import NativeBridge.Proofs.Calls.Slots
import NativeBridge.Proofs.Calls.Convention
import NativeBridge.Proofs.Calls.Aftermath
import NativeBridge.Proofs.Calls.Standing
import NativeBridge.Proofs.Access.Nesting
import NativeBridge.Proofs.Access.Programs
import NativeBridge.Proofs.Calls.Layout
import NativeBridge.Proofs.Library.Alternatives
import NativeBridge.Proofs.Library.Fates
import NativeBridge.Proofs.Teardown
