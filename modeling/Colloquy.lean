import Colloquy.Demonstration
import Colloquy.Main
import Colloquy.Script
import Colloquy.Proofs.Engine.Course
import Colloquy.Proofs.Engine.Memory
import Colloquy.Proofs.Engine.Sound
import Colloquy.Proofs.Script.Backstage
import Colloquy.Proofs.Script.Settling
import Colloquy.Proofs.Script.Budget
import Colloquy.Proofs.Script.Linear
import Colloquy.Proofs.Script.Running
import Colloquy.Proofs.Script.Sound
import Colloquy.Proofs.Script.Hearing
import Colloquy.Proofs.Script.Episodes
import Colloquy.Proofs.Engine.Counts
import Colloquy.Proofs.Script.Pace
import Colloquy.Proofs.Script.Counting
import Colloquy.Proofs.Engine.Caps
import Colloquy.Proofs.Script.Passing
import Colloquy.Proofs.Script.Stays
import Colloquy.Proofs.Record.Checks
import Colloquy.Proofs.Record.Codec
import Colloquy.Proofs.Json.Scalars
import Colloquy.Proofs.Json.Values
import Colloquy.Proofs.Batch
import Colloquy.Proofs.Loading
import Colloquy.Proofs.Engine.Pruning
import Colloquy.Proofs.Script.Abreast
import Colloquy.Proofs.Script.Lockstep
import Colloquy.Proofs.Script.Bypass
import Colloquy.Proofs.Script.Unregistered
import Colloquy.Proofs.Registry
import Colloquy.Proofs.Script.Handling
import Colloquy.Proofs.Script.Numbers
import Colloquy.Proofs.Script.Registering
import Colloquy.Proofs.Script.Reentry
import Colloquy.Proofs.Engine.Fit
import Colloquy.Proofs.Script.Faultless
import Colloquy.Proofs.Script.Isolation
import Colloquy.Proofs.Console
import Colloquy.Proofs.Validating
import Colloquy.Proofs.Replaying
import Colloquy.Proofs.Script.Sharing
import Colloquy.Proofs.Gathering
import Colloquy.Proofs.Template
import Colloquy.Proofs.Engine.Speaking
import Colloquy.Proofs.Script.Conversing
import Colloquy.Proofs.Script.Packaged
import Colloquy.Proofs.Engine.Leaving
import Colloquy.Proofs.Script.Leaving
import Colloquy.Proofs.Script.Indifference
import Colloquy.Proofs.Template.Outline
import Colloquy.Proofs.Template.Known
import Colloquy.Proofs.Script.Naming
import Colloquy.Proofs.Text.Casing
import Colloquy.Proofs.Script.Closing
import Colloquy.Proofs.Script.Unseen
import Colloquy.Proofs.Emitter
import Colloquy.Proofs.Script.Raising
import Colloquy.Proofs.Script.Emissions
import Colloquy.Proofs.Text.Utf8
import Colloquy.Proofs.Sources
import Colloquy.Proofs.Engine.Upon
import Colloquy.Proofs.Engine.Editing
import Colloquy.Proofs.Script.Editing
import Colloquy.Proofs.Timestamp
import Colloquy.Proofs.Log
